import ServiceBinding.Proofs.Dispatch.Answer
import ServiceBinding.Sample.Shapes

/-!
# The response that a dispatcher owns

A legacy call is made on a response that its dispatcher owns, which may hold a code, headers
and a body already. Main statement: a call that fails leaves that response as it was, whatever
the handler has written into its own; a call that succeeds leaves the code and the container of
the handler's response in it, and the handler's headers over those that were there. So the
container that an endpoint would encode for want of a body is never encoded.
-/

namespace ServiceBinding

variable {ε : Type} {A : ArgsShape} {R : ResultShape ε}

structure Outbound.Receives (out : Outbound R) (r : Response R) (out' : Outbound R) : Prop where
  code_eq : out'.code = r.code
  body_eq : out'.body = some r.result
  headers_eq (name : String) :
    out'.headers.get? name = (r.headers.get? name).or (out.headers.get? name)

namespace Outbound

theorem receives_iff {out out' : Outbound R} {r : Response R} :
    out.Receives r out' ↔
      ((({ out with code := r.code }).writeHeaders r.headers).writeBody r.result) = out' := by
  constructor
  · intro h
    obtain ⟨code, headers, body⟩ := out'
    obtain rfl : code = r.code := h.code_eq
    obtain rfl : body = some r.result := h.body_eq
    have hheaders : out.headers.extend r.headers = headers := SortedMap.ext_get? fun name =>
      (SortedMap.get?_extend _ _ name).trans (h.headers_eq name).symm
    rw [writeHeaders, writeBody, hheaders]
  · rintro rfl
    exact ⟨rfl, rfl, SortedMap.get?_extend _ _⟩

end Outbound

variable [Throwable ε]

namespace LegacyHandler

variable {h : LegacyHandler A R} {context : CallContext} {call : InboundCall}
  {out out' : Outbound R}

theorem invoke_eq_ok_iff :
    (h.invoke context call out).result = (out', .ok ()) ↔
      ∃ request r, call.request A = .ok request ∧
        ((Strategy.legacy h context).conclude request).Settles r ∧ out.Receives r out' := by
  simp only [result_invoke, ← Conclusion.settled_eq_ok_iff, Outbound.receives_iff]
  cases call.request A with
  | error err => simp
  | ok request =>
    cases hs : ((Strategy.legacy h context).conclude request).settled with
    | error e => simp [hs]
    | ok r => simp [hs]

theorem invoke_eq_error_iff {e : ε} :
    (h.invoke context call out).result = (out', .error e) ↔
      out' = out ∧
        ((∃ err, call.request A = .error err ∧ Throwable.ofCodec err = e) ∨
          ∃ request, call.request A = .ok request ∧
            ((Strategy.legacy h context).conclude request).Refused e) := by
  simp only [result_invoke, ← Conclusion.settled_eq_error_iff]
  cases call.request A with
  | error err => simp [eq_comm]
  | ok request =>
    cases hs : ((Strategy.legacy h context).conclude request).settled with
    | error e' => simp [hs, eq_comm]
    | ok r => simp [hs]

def answerOr (h : LegacyHandler A R) (fallback : R.Container) (context : CallContext)
    (call : InboundCall) : Activity (Except (DispatchError ε) WireResponse) := do
  match ← h.invoke context call .fresh with
  | (_, .error e) => return .error (.fault e)
  | (out, .ok ()) =>
    return .ok ⟨out.code, out.headers, encodeAs R.schema (out.body.getD fallback)⟩

theorem handle_eq_answerOr (fallback : R.Container) :
    Endpoint.handle ⟨A, R, .legacy h context⟩ call = h.answerOr fallback context call := by
  refine Activity.bind_congr_result ?_
  rcases hinvoke : (h.invoke context call .fresh).result with ⟨out, e | u⟩
  · rfl
  · obtain ⟨request, r, -, -, hreceives⟩ := invoke_eq_ok_iff.1 hinvoke
    simp only [hreceives.body_eq, Option.getD_some]

/-- A legacy call fails by the four refusals of a conclusion or for its bytes, and leaves the
response alone; or it succeeds, and hands over all of the handler's response. A body is then
there, so that no container given for want of one makes a difference. -/
theorem invoke_all_or_nothing (h : LegacyHandler A R) (context : CallContext)
    (call : InboundCall) (out out' : Outbound R) :
    ((h.invoke context call out).result = (out', .ok ()) ↔
      ∃ request r, call.request A = .ok request ∧
        ((Strategy.legacy h context).conclude request).Settles r ∧ out.Receives r out') ∧
    (∀ e, (h.invoke context call out).result = (out', .error e) ↔
      out' = out ∧
        ((∃ err, call.request A = .error err ∧ Throwable.ofCodec err = e) ∨
          ∃ request, call.request A = .ok request ∧
            ((Strategy.legacy h context).conclude request).Refused e)) ∧
    ∀ fallback : R.Container,
      Endpoint.handle ⟨A, R, .legacy h context⟩ call = h.answerOr fallback context call :=
  ⟨invoke_eq_ok_iff, fun _ => invoke_eq_error_iff, handle_eq_answerOr⟩

theorem invoke_all_or_nothing_preset :
    let A := Sample.unitArgs "motto_args"
    let R := Sample.helloResult
    let h (ending : Except Sample.Thrown (Option R.Success)) : LegacyHandler A R :=
      ⟨"motto", fun _ _ => .header "lang" "en" (.done ending)⟩
    let context : CallContext := ⟨"Greeter", "Greeter::motto"⟩
    let call : InboundCall := .of "Greeter::motto" .empty A () default
    let headers : Headers := SortedMap.empty.insert "trace" "1"
    let out : Outbound R := ⟨.error, headers.insert "lang" "de", some (some "old", ())⟩
    ((h (.ok (some "new"))).invoke context call out).result =
      (⟨.ok, headers.insert "lang" "en", some (some "new", ())⟩, .ok ()) ∧
    ((h (.error .refused)).invoke context call out).result = (out, .error .refused) := by
  intro A R h context call headers out
  have hq : call.request A = .ok ⟨.empty, (), TransportHeaders.metadata default⟩ := rfl
  have hslot : R.successField ≠ none := by decide
  let r : Response R := ⟨SortedMap.empty.insert "lang" "en", (some "new", ()), true, .ok⟩
  have hsettles : ((Strategy.legacy (h (.ok (some "new"))) context).conclude
      ⟨.empty, (), TransportHeaders.metadata default⟩).Settles r :=
    .stored "new" r rfl (.value "new" rfl hslot)
  have hreceives : out.Receives r ⟨.ok, headers.insert "lang" "en", some (some "new", ())⟩ :=
    Outbound.receives_iff.2 rfl
  have hundeclared : ¬ R.Declares .refused := by
    rintro ⟨field, hfield, -⟩
    exact absurd hfield List.not_mem_nil
  exact ⟨(invoke_all_or_nothing _ context call out _).1.2 ⟨_, r, hq, hsettles, hreceives⟩,
    ((invoke_all_or_nothing _ context call out _).2.1 _).2
      ⟨rfl, .inr ⟨_, hq, .undeclared _ rfl hundeclared⟩⟩⟩

end LegacyHandler

end ServiceBinding
