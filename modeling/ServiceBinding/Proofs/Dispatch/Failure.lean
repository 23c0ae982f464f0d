import ServiceBinding.Proofs.Dispatch.Answer
import ServiceBinding.Sample.Shapes

/-!
# How a call fails

Main statement: a call fails by one of four rules, each with its own error, and is answered
if none applies. A call that the dispatcher cannot place or read fails before its handler
runs, and its error is never offered to the declared exceptions.
-/

namespace ServiceBinding

variable {ε : Type} [Throwable ε]

theorem InboundCall.request_eq_error_iff {call : InboundCall} {A : ArgsShape} {e : CodecError} :
    call.request A = .error e ↔
      call.decodeHeaders = .error e ∨
        ∃ headers, call.decodeHeaders = .ok headers ∧ call.decodeArgs A = .error e := by
  unfold request
  cases call.decodeHeaders with
  | error e' => simp
  | ok headers => cases call.decodeArgs A <;> simp

theorem InboundCall.request_eq_ok_iff {call : InboundCall} {A : ArgsShape}
    {request : Request A} :
    call.request A = .ok request ↔
      call.decodeHeaders = .ok request.headers ∧ call.decodeArgs A = .ok request.args ∧
        request.transport = call.transport.metadata := by
  obtain ⟨headers, args, transport⟩ := request
  unfold InboundCall.request
  cases call.decodeHeaders with
  | error e => simp
  | ok headers' =>
    cases call.decodeArgs A with
    | error e => simp
    | ok args' => simp [eq_comm]

namespace Dispatcher

inductive Unread (d : Dispatcher ε) (call : InboundCall) : DispatchError ε → Prop
  | unknown (h : d.endpoints.get? call.endpoint = none) :
    Unread d call (.noSuchEndpoint call.endpoint)
  | headers (e : Endpoint ε) (err : CodecError)
      (he : d.endpoints.get? call.endpoint = some e) (hh : call.decodeHeaders = .error err) :
    Unread d call (e.strategy.codecFailure err)
  | arguments (e : Endpoint ε) (headers : Headers) (err : CodecError)
      (he : d.endpoints.get? call.endpoint = some e) (hh : call.decodeHeaders = .ok headers)
      (ha : call.decodeArgs e.args = .error err) :
    Unread d call (e.strategy.codecFailure err)

inductive Fails (d : Dispatcher ε) (call : InboundCall) : DispatchError ε → Prop
  | unread (err : DispatchError ε) (h : d.Unread call err) : Fails d call err
  | refused (e : Endpoint ε) (headers : Headers) (args : e.args.Val) (err : ε)
      (he : d.endpoints.get? call.endpoint = some e) (hh : call.decodeHeaders = .ok headers)
      (ha : call.decodeArgs e.args = .ok args)
      (hr : (e.strategy.conclude ⟨headers, args, call.transport.metadata⟩).Refused err) :
    Fails d call (.fault err)

theorem unread_or_read (d : Dispatcher ε) (call : InboundCall) :
    (∃ err, d.Unread call err) ∨ ∃ (e : Endpoint ε) (request : Request e.args),
      d.endpoints.get? call.endpoint = some e ∧ call.request e.args = .ok request := by
  cases he : d.endpoints.get? call.endpoint with
  | none => exact .inl ⟨_, .unknown he⟩
  | some e =>
    cases hq : call.request e.args with
    | ok request => exact .inr ⟨e, request, rfl, hq⟩
    | error err =>
      rcases InboundCall.request_eq_error_iff.1 hq with hh | ⟨headers, hh, ha⟩
      · exact .inl ⟨_, .headers e err he hh⟩
      · exact .inl ⟨_, .arguments e headers err he hh ha⟩

theorem handle_of_unread {d : Dispatcher ε} {call : InboundCall} {err : DispatchError ε}
    (h : d.Unread call err) :
    d.handle call = .log (.dispatching call.endpoint) (.done (.error err)) := by
  cases h with
  | unknown h => exact handle_of_get?_none h
  | headers e err he hh =>
    have hr : call.request e.args = .error err := InboundCall.request_eq_error_iff.2 (.inl hh)
    rw [handle_of_get? he, Endpoint.handle_of_request_error hr]
  | arguments e headers err he hh ha =>
    have hr := InboundCall.request_eq_error_iff.2 (.inr ⟨headers, hh, ha⟩)
    rw [handle_of_get? he, Endpoint.handle_of_request_error hr]

theorem result_handle_of_fails {d : Dispatcher ε} {call : InboundCall} {err : DispatchError ε}
    (h : d.Fails call err) : (d.handle call).result = .error err := by
  cases h with
  | unread _ h => rw [handle_of_unread h]; rfl
  | refused e headers args err he hh ha hr =>
    have hq : call.request e.args = .ok ⟨headers, args, call.transport.metadata⟩ :=
      InboundCall.request_eq_ok_iff.2 ⟨hh, ha, rfl⟩
    have hc := Conclusion.settled_of_refused hr
    rw [result_handle_of_request he hq, hc]

theorem fails_of_result_handle {d : Dispatcher ε} {call : InboundCall} {err : DispatchError ε}
    (h : (d.handle call).result = .error err) : d.Fails call err := by
  rcases d.unread_or_read call with ⟨unread, hu⟩ | ⟨e, request, he, hq⟩
  · rw [handle_of_unread hu] at h
    cases h
    exact .unread _ hu
  · rw [result_handle_of_request he hq] at h
    obtain ⟨headers, args, transport⟩ := request
    obtain ⟨hh, ha, rfl⟩ := InboundCall.request_eq_ok_iff.1 hq
    cases hs : (e.strategy.conclude ⟨headers, args, call.transport.metadata⟩).settled with
    | error err =>
      rw [hs] at h
      cases h
      exact .refused e headers args err he hh ha (Conclusion.settled_eq_error_iff.1 hs)
    | ok r =>
      rw [hs] at h
      cases h

/-- A call fails exactly by the rules and is answered otherwise; what fails unread fails
without a single act of a handler. -/
theorem handle_fails_exactly (d : Dispatcher ε) (call : InboundCall) :
    (∀ err, (d.handle call).result = .error err ↔ d.Fails call err) ∧
      ((∃ w, (d.handle call).result = .ok w) ↔ ∀ err, ¬ d.Fails call err) ∧
      ∀ err, d.Unread call err →
        d.handle call = .log (.dispatching call.endpoint) (.done (.error err)) := by
  have hf : ∀ err, (d.handle call).result = .error err ↔ d.Fails call err := fun err =>
    ⟨fails_of_result_handle, result_handle_of_fails⟩
  refine ⟨hf, ?_, fun err => handle_of_unread⟩
  constructor
  · rintro ⟨w, hw⟩ err h
    rw [(hf err).2 h] at hw
    cases hw
  · intro h
    cases hr : (d.handle call).result with
    | ok w => exact ⟨w, rfl⟩
    | error err => exact absurd ((hf err).1 hr) (h err)

-- a shape that declares codec errors does not get to encode this one
example :
    let s : Strategy Sample.metaArgs Sample.metaResult :=
      .legacy ⟨"echo", fun _ _ => .done (.ok none)⟩ ⟨"files", "echo"⟩
    let d := ((Dispatcher.empty .legacy).add "echo" ⟨_, _, s⟩).1
    (d.handle ⟨"echo", [], [], default⟩).result = .error (.fault (.codec ⟨.endOfInput⟩)) := by
  decide

end Dispatcher

end ServiceBinding
