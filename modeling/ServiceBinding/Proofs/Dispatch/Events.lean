import ServiceBinding.Proofs.Dispatch.Container
import ServiceBinding.Proofs.Dispatch.InFlight
import ServiceBinding.Proofs.Response.Runs

/-!
# What a call logs

A call logs that it is dispatched. After that it logs nothing if it fails by itself, the error
that it fails with if its handler has raised one, and that it is finished if it is answered.
Main statement: these events tell the answer, up to its body, and the code among them tells
whether an exception is in the body.
-/

namespace ServiceBinding

variable {ε : Type} {A : ArgsShape} {R : ResultShape ε}

open Operation (Taken)

/-- The container is what is left of another one after the exception was stored in it. -/
def Content.RaisedIn (content : Content R) (c : R.Container) : Prop :=
  ∃ e before field, content = .exception e ∧ R.selectException e = some field ∧
    R.setException before field.id e = (c, .ok ())

theorem Operation.Taken.code_eq {op : Operation R} {r r' : Response R} (h : Taken r op r')
    (hr : r.code = .ok) :
    r'.code = op.content.code ∧ (r'.code = .error ↔ op.content.RaisedIn r'.result) := by
  cases h with
  | nothing h => simp [Operation.content, Content.code, Content.RaisedIn, hr]
  | value v h hs => simp [Operation.content, Content.code, Content.RaisedIn, hr]
  | stored e field c h hf hs => exact ⟨rfl, fun _ => ⟨e, _, field, rfl, hf, hs⟩, fun _ => rfl⟩

theorem Union.Holds.code_eq_error_iff {u : Union ε} {c : u.shape.Container}
    {content : Content u.shape} (h : u.Holds c content) :
    content.code = .error ↔ u.raised c ≠ [] := by
  cases content with
  | nothing => simp [Content.code, h.2.2]
  | value v => simp [Content.code, h.2.2]
  | exception e =>
    obtain ⟨field, -, -, -, hr⟩ := h
    simp [Content.code, hr]

namespace Conclusion

def Drops (c : Conclusion R) : Prop :=
  c.response.finished = true ∧ ∃ v, c.ending = .ok (some v)

theorem Drops.settles {c : Conclusion R} (h : c.Drops) : c.Settles c.response := by
  obtain ⟨hf, v, he⟩ := h
  exact .kept (some v) he (.inr hf)

end Conclusion

variable [Throwable ε]

theorem Conclusion.Settles.code_eq {ops : List (Operation R)}
    {ending : Except ε (Option R.Success)} {r : Response R}
    (h : Conclusion.Settles ⟨Response.fresh.run ops, ending⟩ r) :
    let content := ((Response.fresh.firstAccepted? ops).getD (.ofEnding ending)).content
    r.code = content.code ∧ (r.code = .error ↔ content.RaisedIn r.result) := by
  rcases Response.run_cases (r := (.fresh : Response R)) rfl rfl ops with
    ⟨hn, hf, hc⟩ | ⟨op, before, after, hs, hb, ht, ho⟩
  · rw [hn, Option.getD_none]
    cases h with
    | kept value? he h =>
      obtain rfl : value? = none := h.resolve_right (by simp [hf])
      cases he
      simp [Operation.ofEnding, Operation.content, Content.code, Content.RaisedIn, hc]
    | stored v r he ht =>
      cases he
      exact ht.code_eq hc
    | encoded e r he ht =>
      cases he
      exact ht.code_eq hc
  · obtain ⟨hf, hc, hr⟩ := Response.outcome_eq_iff.1 ho
    rw [ht.finished.2] at hf
    rw [hs, Option.getD_some]
    cases h with
    | kept value? he h =>
      rw [hc, hr]
      exact ht.code_eq hb
    | stored v r he ht' => cases ht'.finished.1.symm.trans hf
    | encoded e r he ht' => cases ht'.finished.1.symm.trans hf

def Conclusion.log (c : Conclusion R) (convention : Convention) (here : String) : List Event :=
  match c.ending, c.settled with
  | .error _, .error left => [.leftUnencoded here (Throwable.message left)]
  | .ok _, .error _ => []
  | .ok (some _), .ok r =>
    if c.response.finished then [.valueDropped here, .finished convention here r.code]
    else [.finished convention here r.code]
  | .ok none, .ok r | .error _, .ok r => [.finished convention here r.code]

namespace Conclusion

variable {c : Conclusion R} {left : ε} {r : Response R} (convention : Convention) (here : String)

theorem Refused.not_drops (h : c.Refused left) : ¬ c.Drops := fun hd => by
  have hs := settled_of_settles hd.settles
  rw [settled_of_refused h] at hs
  cases hs

theorem Refused.raised_or_returned (h : c.Refused left) :
    (∃ e, c.ending = .error e) ∨ ∃ v, c.ending = .ok (some v) ∧
      left = Throwable.ofResponse (.voidResult R.name) := by
  cases h with
  | voidResult v he h hs => exact .inr ⟨v, he, rfl⟩
  | undeclared e he hd => exact .inl ⟨_, he⟩
  | finished e he hd h => exact .inl ⟨_, he⟩
  | unfit e e' field he h hf hs => exact .inl ⟨_, he⟩

theorem log_of_raised {e : ε} (he : c.ending = .error e) (h : c.settled = .error left) :
    c.log convention here = [.leftUnencoded here (Throwable.message left)] := by
  simp only [log, he, h]

theorem log_of_returned {value? : Option R.Success} (he : c.ending = .ok value?)
    (h : c.settled = .error left) : c.log convention here = [] := by
  simp only [log, he, h]

theorem log_of_drops (hd : c.Drops) (h : c.settled = .ok r) :
    c.log convention here = [.valueDropped here, .finished convention here r.code] := by
  obtain ⟨hf, v, he⟩ := hd
  simp only [log, he, h, hf, if_true]

theorem log_of_not_drops (hd : ¬ c.Drops) (h : c.settled = .ok r) :
    c.log convention here = [.finished convention here r.code] := by
  rcases he : c.ending with e | _ | v
  · simp only [log, he, h]
  · simp only [log, he, h]
  · have hf : ¬ c.response.finished = true := fun hf => hd ⟨hf, v, he⟩
    simp only [log, he, h, if_neg hf]

theorem code_of_mem_log {convention : Convention} {here : String} {code : StatusCode}
    (h : c.settled = .ok r) (hcode : .finished convention here code ∈ c.log convention here) :
    code = r.code := by
  by_cases hd : c.Drops
  · simpa [log_of_drops _ _ hd h] using hcode
  · simpa [log_of_not_drops _ _ hd h] using hcode

end Conclusion

theorem LegacyHandler.events_finish (context : CallContext) (r : Response R)
    (ending : Except ε (Option R.Success)) :
    (finish context (ending, r)).events =
      Conclusion.log ⟨r, ending⟩ .legacy context.endpoint := by
  cases ending with
  | error e =>
    simp only [finish, settle, Response.encodeRaised, Conclusion.log, Conclusion.settled]
    rcases r.writeException e with ⟨r', e' | _⟩ <;> rfl
  | ok value? =>
    simp only [finish, settle, Conclusion.log, Conclusion.settled]
    cases hr : r.finished with
    | true => cases value? <;> simp [Ending.of]
    | false =>
      cases value? with
      | none => simp [Ending.of]
      | some v =>
        simp only [Ending.of]
        rcases r.writeResult (some v) with ⟨r', _ | _⟩ <;> simp

theorem ModernHandler.events_serve (h : ModernHandler A R) (context : CallContext)
    (request : Request A) :
    (Endpoint.serve ⟨A, R, .modern h context⟩ request).events =
      ((Strategy.modern h context).conclude request).log .modern context.endpoint := by
  simp only [Endpoint.serve, invoke, Deferred.await, Activity.events_bind, Activity.events_delay,
    Activity.events_done, Activity.result_delay, Activity.result_done, List.nil_append,
    Strategy.conclude, Conclusion.log, Conclusion.settled, Activity.result_bind]
  cases (h.run request).value with
  | error e =>
    simp only [Response.encodeRaised, Except.map]
    rcases Response.fresh.writeException (R := R) e with ⟨r', e' | _⟩ <;> simp
  | ok reply =>
    simp only [Except.map]
    cases reply.toAnswer.body with
    | none => simp [Response.writeResult, Response.fresh]
    | some v =>
      simp only [Response.fresh, Bool.false_eq_true, if_false]
      rcases Response.writeResult _ (some v) with ⟨r', _ | _⟩ <;> simp

theorem Endpoint.events_serve (e : Endpoint ε) (request : Request e.args) :
    (e.serve request).events =
      (e.strategy.conclude request).log e.strategy.convention e.strategy.context.endpoint := by
  obtain ⟨A, R, s⟩ := e
  cases s with
  | legacy h context =>
    rw [serve_legacy, Activity.events_bind, Act.events_perform, Act.result_perform]
    exact LegacyHandler.events_finish context _ _
  | modern h context => exact h.events_serve context request

namespace Strategy

structure Tells (s : Strategy A R) (request : Request A)
    (answer : Except (DispatchError ε) WireResponse) (rest : List Event) : Prop where
  nothing_iff : rest = [] ↔
    (∃ value?, (s.conclude request).ending = .ok value?) ∧ ∃ err, answer = .error err
  voidResult : ∀ value? err, (s.conclude request).ending = .ok value? → answer = .error err →
    value? ≠ none ∧ err = .fault (Throwable.ofResponse (.voidResult R.name))
  unencoded_iff : (∃ text, rest = [.leftUnencoded s.context.endpoint text]) ↔
    (∃ raised, (s.conclude request).ending = .error raised) ∧ ∃ err, answer = .error err
  text_eq : ∀ text, rest = [.leftUnencoded s.context.endpoint text] →
    ∃ left, answer = .error (.fault left) ∧ text = Throwable.message left
  finished_iff : (∃ w, answer = .ok w) ↔ ∃ code,
    rest = [.finished s.convention s.context.endpoint code] ∨
      rest = [.valueDropped s.context.endpoint, .finished s.convention s.context.endpoint code]
  dropped_iff : .valueDropped s.context.endpoint ∈ rest ↔
    s.convention = .legacy ∧ (s.conclude request).Drops
  code_eq : ∀ w code, answer = .ok w →
    .finished s.convention s.context.endpoint code ∈ rest →
    (∃ c, w.body = encodeAs R.schema c ∧ (code = .error ↔ (s.content request).RaisedIn c)) ∧
    (s.convention = .legacy → code = w.code) ∧
    (s.convention = .modern →
      (code = .error ↔ ∃ raised, (s.conclude request).ending = .error raised))

variable {s : Strategy A R} {request : Request A}

theorem code_of_settles {r : Response R} (h : (s.conclude request).Settles r) :
    r.code = (s.content request).code ∧
      (r.code = .error ↔ (s.content request).RaisedIn r.result) := by
  obtain ⟨ops, ending, hc, hcontent⟩ := s.exists_run request
  rw [hc] at h
  rw [hcontent]
  exact h.code_eq

theorem code_content_of_modern (h : s.convention = .modern) :
    (s.content request).code = .error ↔ ∃ raised, (s.conclude request).ending = .error raised := by
  cases s with
  | legacy handler context => cases h
  | modern handler context =>
    simp only [content, conclude]
    cases (handler.run request).value with
    | error e => exact ⟨fun _ => ⟨e, rfl⟩, fun _ => rfl⟩
    | ok reply =>
      simp only [Except.map]
      cases reply.toAnswer.body <;> simp [Operation.ofEnding, Operation.content, Content.code]

theorem legacy_of_drops (h : (s.conclude request).Drops) : s.convention = .legacy := by
  cases s with
  | legacy handler context => rfl
  | modern handler context => cases h.1

theorem tells_of_refused {left : ε} (h : (s.conclude request).Refused left) :
    s.Tells request (.error (.fault left))
      ((s.conclude request).log s.convention s.context.endpoint) := by
  have hs := Conclusion.settled_of_refused h
  have hd := h.not_drops
  rcases h.raised_or_returned with ⟨e, he⟩ | ⟨v, he, rfl⟩
  · rw [Conclusion.log_of_raised _ _ he hs]
    constructor <;> simp [he, hd]
  · rw [Conclusion.log_of_returned _ _ he hs]
    constructor <;> simp [he, hd]

theorem tells_of_settles {r : Response R} (h : (s.conclude request).Settles r) :
    s.Tells request (.ok ⟨(s.envelope request r).1, (s.envelope request r).2,
        encodeAs R.schema r.result⟩)
      ((s.conclude request).log s.convention s.context.endpoint) := by
  have hs := Conclusion.settled_of_settles h
  obtain ⟨hcode, hraised⟩ := code_of_settles h
  have hlegacy : s.convention = .legacy → r.code = (s.envelope request r).1 := by
    intro hl
    cases s with
    | legacy handler context => rfl
    | modern handler context => cases hl
  have hmodern : s.convention = .modern →
      (r.code = .error ↔ ∃ raised, (s.conclude request).ending = .error raised) := by
    intro hm
    rw [hcode]
    exact code_content_of_modern hm
  have hlog : (s.conclude request).log s.convention s.context.endpoint =
      [.valueDropped s.context.endpoint,
        .finished s.convention s.context.endpoint r.code] ∨
      (s.conclude request).log s.convention s.context.endpoint =
        [.finished s.convention s.context.endpoint r.code] := by
    by_cases hd : (s.conclude request).Drops
    · exact .inl (Conclusion.log_of_drops _ _ hd hs)
    · exact .inr (Conclusion.log_of_not_drops _ _ hd hs)
  constructor
  case dropped_iff =>
    by_cases hd : (s.conclude request).Drops
    · simp [Conclusion.log_of_drops _ _ hd hs, legacy_of_drops hd, hd]
    · simp [Conclusion.log_of_not_drops _ _ hd hs, hd]
  case code_eq =>
    rintro w code ⟨rfl⟩ hmem
    obtain rfl := Conclusion.code_of_mem_log hs hmem
    exact ⟨⟨_, rfl, hraised⟩, hlegacy, hmodern⟩
  -- an answer is told by either log, and no error is
  all_goals
    rcases hlog with hl | hl
    · simp [hl]
    · simp [hl]

end Strategy

namespace ModernHandler

def withStatus (h : ModernHandler A R) (status : Request A → StatusCode) : ModernHandler A R :=
  ⟨h.name, fun request => ⟨(h.run request).pauses, (h.run request).value.map fun reply =>
    .answer { reply.toAnswer with status := status request }⟩⟩

theorem conclude_withStatus (h : ModernHandler A R) (status : Request A → StatusCode)
    (context : CallContext) (request : Request A) :
    (Strategy.modern (h.withStatus status) context).conclude request =
      (Strategy.modern h context).conclude request := by
  simp only [Strategy.conclude, withStatus]
  cases (h.run request).value with
  | error e => rfl
  | ok reply => rfl

end ModernHandler

namespace Dispatcher

variable {d : Dispatcher ε} {call : InboundCall}

theorem events_handle_add (d : Dispatcher ε) (e : Endpoint ε) (call : InboundCall) :
    ((d.add call.endpoint e).1.handle call).events =
      .dispatching call.endpoint ::
        match call.request e.args with
        | .error _ => []
        | .ok request => (e.strategy.conclude request).log e.strategy.convention
            e.strategy.context.endpoint := by
  have hget := d.get?_add_self call.endpoint e
  cases hq : call.request e.args with
  | error err => rw [handle_of_get? hget, Endpoint.handle_of_request_error hq]; rfl
  | ok request => rw [handle_of_served hget hq, Activity.events_log, e.events_serve]

theorem tells_of_read {e : Endpoint ε} {request : Request e.args}
    (he : d.endpoints.get? call.endpoint = some e) (hq : call.request e.args = .ok request) :
    ∃ rest, (d.handle call).events = .dispatching call.endpoint :: rest ∧
      e.strategy.Tells request (d.handle call).result rest := by
  refine ⟨_, by rw [handle_of_served he hq, Activity.events_log, e.events_serve], ?_⟩
  rw [result_handle_of_request he hq]
  rcases (e.strategy.conclude request).settles_or_refused with ⟨r, hs⟩ | ⟨left, hr⟩
  · rw [Conclusion.settled_of_settles hs]
    exact Strategy.tells_of_settles hs
  · rw [Conclusion.settled_of_refused hr]
    exact Strategy.tells_of_refused hr

theorem code_tells_raised {u : Union ε} {s : Strategy A u.shape} {w : WireResponse}
    {code : StatusCode} (he : d.endpoints.get? call.endpoint = some ⟨A, u.shape, s⟩)
    (hw : (d.handle call).result = .ok w)
    (hcode : .finished s.convention s.context.endpoint code ∈ (d.handle call).events) :
    ∃ c, w.body = encodeAs u.shape.schema c ∧
      (u.shape.schema.Fits c → w.decodeBody u.shape = .ok c) ∧
      (code = .error ↔ u.raised c ≠ []) := by
  rcases d.unread_or_read call with ⟨err, hu⟩ | ⟨e, request, he', hq⟩
  · rw [handle_of_unread hu] at hw
    cases hw
  · obtain rfl : e = ⟨A, u.shape, s⟩ := Option.some.inj (he'.symm.trans he)
    rw [result_handle_of_request he hq] at hw
    rw [handle_of_served he hq, Activity.events_log, List.mem_cons,
      Endpoint.events_serve] at hcode
    cases hs : (s.conclude request).settled with
    | error left =>
      simp only [hs] at hw
      cases hw
    | ok r =>
      simp only [hs] at hw
      cases hw
      obtain rfl := Conclusion.code_of_mem_log hs (hcode.resolve_left nofun)
      have hheld := s.holds_of_settled hs
      have hc := (Strategy.code_of_settles (Conclusion.settled_eq_ok_iff.1 hs)).1
      exact ⟨r.result, rfl, decodeAs_encodeAs, hc ▸ hheld.code_eq_error_iff⟩

/-- What the log of a call tells of its answer. A call that is not read logs its dispatch alone;
one that is read tells by the next events whether it was answered, and by their code whether an
exception is in the body of the answer. The status that a modern handler sets is not told. -/
theorem events_tell_outcome (d : Dispatcher ε) (call : InboundCall) :
    ((∃ err, d.Unread call err) ∨ ∃ (e : Endpoint ε) (request : Request e.args),
      d.endpoints.get? call.endpoint = some e ∧ call.request e.args = .ok request) ∧
    (∀ err, d.Unread call err → (d.handle call).result = .error err ∧
      (d.handle call).events = [.dispatching call.endpoint]) ∧
    (∀ (e : Endpoint ε) (request : Request e.args),
      d.endpoints.get? call.endpoint = some e → call.request e.args = .ok request →
      ∃ rest, (d.handle call).events = .dispatching call.endpoint :: rest ∧
        e.strategy.Tells request (d.handle call).result rest) ∧
    (∀ (A : ArgsShape) (u : Union ε) (s : Strategy A u.shape) (w : WireResponse) code,
      d.endpoints.get? call.endpoint = some ⟨A, u.shape, s⟩ → (d.handle call).result = .ok w →
      .finished s.convention s.context.endpoint code ∈ (d.handle call).events →
      ∃ c, w.body = encodeAs u.shape.schema c ∧
        (u.shape.schema.Fits c → w.decodeBody u.shape = .ok c) ∧
        (code = .error ↔ u.raised c ≠ [])) ∧
    ∀ (A : ArgsShape) (R : ResultShape ε) (h : ModernHandler A R) context status,
      ((d.add call.endpoint ⟨A, R, .modern (h.withStatus status) context⟩).1.handle call).events =
        ((d.add call.endpoint ⟨A, R, .modern h context⟩).1.handle call).events := by
  refine ⟨d.unread_or_read call, fun err h => ?unread, fun e request => tells_of_read,
    fun A u s w code => code_tells_raised, fun A R h context status => ?status⟩
  case unread =>
    rw [handle_of_unread h]
    exact ⟨rfl, rfl⟩
  case status =>
    rw [events_handle_add, events_handle_add]
    cases call.request A with
    | error err => rfl
    | ok request => simp only [h.conclude_withStatus]; rfl

theorem events_tell_outcome_find :
    let A := Sample.unitArgs "find_args"
    let R := Sample.lookupResult
    let serving (acts : Act R (Except Sample.Thrown (Option R.Success))) :
        Dispatcher Sample.Thrown :=
      ((empty .legacy).add "find"
        ⟨A, R, .legacy ⟨"find", fun _ _ => acts⟩ ⟨"files", "files::find"⟩⟩).1
    let call : InboundCall := .of "find" .empty A () default
    let finishing := serving (.exception (.notFound "key") fun _ => .done (.ok (some 3)))
    let raising := serving (.done (.error .refused))
    (∃ w, (finishing.handle call).result = .ok w ∧ w.code = .error) ∧
      .valueDropped "files::find" ∈ (finishing.handle call).events ∧
      (raising.handle call).result = .error (.fault .refused) ∧
      (raising.handle call).events =
        [.dispatching "find", .leftUnencoded "files::find" "refused"] := by
  intro A R serving call finishing raising
  have hq : call.request A = .ok ⟨.empty, (), TransportHeaders.metadata default⟩ := rfl
  obtain ⟨-, -, hfinishing, -, -⟩ := events_tell_outcome finishing call
  obtain ⟨frest, hf, ftells⟩ := hfinishing _ _ rfl hq
  obtain ⟨-, -, hraising, -, -⟩ := events_tell_outcome raising call
  obtain ⟨rrest, hr, rtells⟩ := hraising _ _ rfl hq
  have hdrops : (.valueDropped "files::find" : Event) ∈ frest :=
    ftells.dropped_iff.2 ⟨rfl, rfl, 3, rfl⟩
  have hfault : (raising.handle call).result = .error (.fault .refused) := rfl
  obtain ⟨text, htext⟩ := rtells.unencoded_iff.2 ⟨⟨.refused, rfl⟩, _, hfault⟩
  obtain ⟨left, hleft, rfl⟩ := rtells.text_eq text htext
  cases hfault.symm.trans hleft
  exact ⟨⟨_, rfl, rfl⟩, hf ▸ List.mem_cons_of_mem _ hdrops, hfault, by rw [hr, htext]; rfl⟩

end Dispatcher

end ServiceBinding
