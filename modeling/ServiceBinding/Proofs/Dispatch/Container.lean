import ServiceBinding.Proofs.Dispatch.Answer
import ServiceBinding.Proofs.Shape.Union
import ServiceBinding.Proofs.Wire.RoundTrip

/-!
# The container of an answer

Main statement: the body of an answer decodes to a container with at most one field set,
which the first write that the handler's response took decides, or else what the handler
ended with. A legacy answer takes its code from that content and the last value of every
header from the handler's operations; a modern answer is in the reply's own envelope.
-/

namespace ServiceBinding

variable {ε : Type} {A : ArgsShape} {R : ResultShape ε}

open Operation (Taken lastHeader?)

inductive Content (R : ResultShape ε)
  | nothing
  | value (v : R.Success)
  | exception (e : ε)

def Content.code : Content R → StatusCode
  | nothing | value _ => .ok
  | exception _ => .error

namespace Operation

def content : Operation R → Content R
  | header _ _ | result none => .nothing
  | result (some v) => .value v
  | exception e => .exception e

def ofEnding : Except ε (Option R.Success) → Operation R
  | .ok value? => result value?
  | .error e => exception e

end Operation

namespace Union

/-- The container has the content in the one field that is for it, and no other field set. -/
def Holds (u : Union ε) (c : u.shape.Container) : Content u.shape → Prop
  | .nothing => c = u.shape.empty ∧ u.success? c = none ∧ u.raised c = []
  | .value v =>
    c = u.shape.setSuccess u.shape.empty v ∧ u.success? c = some v ∧ u.raised c = []
  | .exception e =>
    ∃ field, u.shape.selectException e = some field ∧
      u.shape.setException u.shape.empty field.id e = (c, .ok ()) ∧
      u.success? c = none ∧ u.raised c = [some field.id]

theorem holds_of_taken_fresh {u : Union ε} {op : Operation u.shape} {r : Response u.shape}
    (h : Taken .fresh op r) : u.Holds r.result op.content ∧ r.code = op.content.code := by
  cases h with
  | nothing h => exact ⟨⟨rfl, u.success?_empty, u.raised_empty⟩, rfl⟩
  | value v h hs => exact ⟨⟨rfl, success?_setSuccess hs v, u.raised_setSuccess v⟩, rfl⟩
  | stored e field c h hf hs =>
    exact ⟨⟨field, hf, hs, success?_setException hs, raised_setException hs⟩, rfl⟩

theorem holds_of_taken {u : Union ε} {op : Operation u.shape} {r r' : Response u.shape}
    (hr : r.outcome = (.fresh : Response u.shape).outcome) (h : Taken r op r') :
    u.Holds r'.result op.content ∧ r'.code = op.content.code := by
  obtain ⟨s, hs, ho⟩ := h.congr hr
  obtain ⟨-, hc, hres⟩ := Response.outcome_eq_iff.1 ho
  rw [← hc, ← hres]
  exact holds_of_taken_fresh hs

end Union

variable [Throwable ε]

theorem Union.holds_of_settles {u : Union ε} {ops : List (Operation u.shape)}
    {ending : Except ε (Option u.shape.Success)} {r : Response u.shape}
    (h : Conclusion.Settles ⟨Response.fresh.run ops, ending⟩ r) :
    let content := ((Response.fresh.firstAccepted? ops).getD (.ofEnding ending)).content
    u.Holds r.result content ∧ r.code = content.code := by
  rcases Response.run_fresh_cases u.conservative ops with ⟨hn, ho⟩ | ⟨op, s, hs, ht, ho⟩
  · -- nothing was taken, so the ending is written into a response as good as fresh
    rw [hn, Option.getD_none]
    cases h with
    | kept value? he h =>
      have hf : (Response.fresh.run ops).finished = false := (Response.outcome_eq_iff.1 ho).1
      obtain rfl : value? = none := h.resolve_right (by simp [hf])
      obtain ⟨-, hc, hres⟩ := Response.outcome_eq_iff.1 ho
      cases he
      exact ⟨⟨hres, hres ▸ u.success?_empty, hres ▸ u.raised_empty⟩, hc⟩
    | stored v r he ht =>
      cases he
      exact holds_of_taken ho ht
    | encoded e r he ht =>
      cases he
      exact holds_of_taken ho ht
  · obtain ⟨hf, hc, hres⟩ := Response.outcome_eq_iff.1 ho
    rw [ht.finished.2] at hf
    rw [hs, Option.getD_some]
    cases h with
    | kept value? he h =>
      rw [hc, hres]
      exact holds_of_taken_fresh ht
    | stored v r he ht' => cases ht'.finished.1.symm.trans hf
    | encoded e r he ht' => cases ht'.finished.1.symm.trans hf

namespace Strategy

def content (s : Strategy A R) (request : Request A) : Content R :=
  match s with
  | legacy h context =>
    ((Response.fresh.firstAccepted? ((h.run request context).operations .fresh)).getD
      (.ofEnding ((h.run request context).ending .fresh))).content
  | modern h _ =>
    (Operation.ofEnding ((h.run request).value.map fun reply => reply.toAnswer.body)).content

def Enveloped (s : Strategy A R) (request : Request A) (w : WireResponse) : Prop :=
  match s with
  | legacy h context =>
    w.code = ((legacy h context).content request).code ∧
      ∀ name, w.headers.get? name =
        lastHeader? name ((h.run request context).operations .fresh)
  | modern h _ =>
    match (h.run request).value with
    | .ok reply => w.code = reply.toAnswer.status ∧ w.headers = reply.toAnswer.headers
    | .error _ => w.code = .ok ∧ w.headers = .empty

theorem exists_run (s : Strategy A R) (request : Request A) : ∃ ops ending,
    s.conclude request = ⟨Response.fresh.run ops, ending⟩ ∧
      s.content request =
        ((Response.fresh.firstAccepted? ops).getD (.ofEnding ending)).content := by
  cases s with
  | legacy handler context => exact ⟨_, _, rfl, rfl⟩
  | modern handler context =>
    -- a modern handler carries out no operations
    exact ⟨[], _, rfl, rfl⟩

theorem holds_of_settled {u : Union ε} {s : Strategy A u.shape} {request : Request A}
    {r : Response u.shape} (h : (s.conclude request).settled = .ok r) :
    u.Holds r.result (s.content request) := by
  obtain ⟨ops, ending, hc, hcontent⟩ := s.exists_run request
  have hs := Conclusion.settled_eq_ok_iff.1 h
  rw [hc] at hs
  rw [hcontent]
  exact (Union.holds_of_settles hs).1

theorem enveloped_of_settled {u : Union ε} {s : Strategy A u.shape} {request : Request A}
    {r : Response u.shape} (h : (s.conclude request).settled = .ok r) (body : List UInt8) :
    s.Enveloped request ⟨(s.envelope request r).1, (s.envelope request r).2, body⟩ := by
  cases s with
  | legacy handler context =>
    have hs := Conclusion.settled_eq_ok_iff.1 h
    refine ⟨(Union.holds_of_settles hs).2, fun name => ?_⟩
    rw [envelope, hs.headers]
    exact (Response.get?_headers_run _ _ _).trans Option.or_none
  | modern handler context =>
    rw [Enveloped, envelope]
    cases (handler.run request).value with
    | ok reply => exact ⟨rfl, rfl⟩
    | error e => exact ⟨rfl, rfl⟩

end Strategy

/-- The body of an answer decodes to the container that holds what the handler stored, if its
lengths are those of values in a machine's memory. -/
theorem Dispatcher.handle_container {d : Dispatcher ε} {u : Union ε} {s : Strategy A u.shape}
    {call : InboundCall} {w : WireResponse}
    (he : d.endpoints.get? call.endpoint = some ⟨A, u.shape, s⟩)
    (hw : (d.handle call).result = .ok w) :
    ∃ request c, call.request A = .ok request ∧
      (u.shape.schema.Fits c → w.decodeBody u.shape = .ok c) ∧
      u.Holds c (s.content request) ∧ s.Enveloped request w := by
  cases hq : call.request A with
  | error err =>
    rw [handle_of_get? he, Endpoint.handle_of_request_error hq] at hw
    cases hw
  | ok request =>
    rw [result_handle_of_request he hq] at hw
    cases hs : (s.conclude request).settled with
    | error err =>
      simp only [hs] at hw
      cases hw
    | ok r =>
      simp only [hs] at hw
      cases hw
      exact ⟨request, r.result, rfl, decodeAs_encodeAs, s.holds_of_settled hs,
        s.enveloped_of_settled hs _⟩

theorem Dispatcher.handle_container_find :
    let A := Sample.unitArgs "find_args"
    let u : Union Sample.Thrown := .valued "lookup_result" "LookupResult" "success" .i64
      [Sample.Fields.notFound 1 "not_found"]
      [Sample.successSlot, Sample.slot 1 "not_found" Sample.Types.notFound] id
    let s : Strategy A u.shape := .legacy ⟨"find", fun _ _ =>
      .header "trace" "1" <| .exception (.notFound "key") fun _ =>
        .header "trace" "2" <| .done (.ok (some (3 : Int64)))⟩ ⟨"files", "find"⟩
    let d : Dispatcher Sample.Thrown := ((Dispatcher.empty .legacy).add "find" ⟨A, u.shape, s⟩).1
    let call : InboundCall := .of "find" .empty A () default
    let w : WireResponse := ⟨.error, SortedMap.empty.insert "trace" "2",
      [0, 1, 3, 0, 0, 0, 0, 0, 0, 0, 107, 101, 121]⟩
    d.endpoints.get? call.endpoint = some ⟨A, u.shape, s⟩ ∧ (d.handle call).result = .ok w ∧
      ∃ c, w.decodeBody u.shape = .ok c ∧ u.Holds c (.exception (.notFound "key")) := by
  intro A u s d call w
  have he : d.endpoints.get? call.endpoint = some ⟨A, u.shape, s⟩ := rfl
  have hw : (d.handle call).result = .ok w := rfl
  obtain ⟨request, c, -, hd, hc, -⟩ := Dispatcher.handle_container he hw
  refine ⟨he, hw, c, hd ?_, hc⟩
  obtain ⟨field, hf, hs, -⟩ := hc
  cases hf
  cases hs
  have hk : (Utf8.bytes "key").length < Wire.lengthLimit := by decide
  exact ⟨trivial, ⟨hk, trivial⟩, trivial⟩

end ServiceBinding
