import ServiceBinding.Dispatcher
import ServiceBinding.Proofs.Dispatch.Conclusion
import ServiceBinding.Proofs.Handler
import ServiceBinding.Proofs.SortedMap

/-!
# The answer of an endpoint

Both conventions answer a call in the same way from the conclusion of its handler. Main
statement: the answer of an endpoint is its settled conclusion in an envelope, and the
envelope is all that the two conventions differ in once the call is read.
-/

namespace ServiceBinding

variable {ε : Type} {A : ArgsShape} {R : ResultShape ε}

theorem Dispatcher.get?_add_self (d : Dispatcher ε) (name : String) (e : Endpoint ε) :
    (d.add name e).1.endpoints.get? name = some e := by
  rw [add, SortedMap.get?_insert, if_pos rfl]

variable [Throwable ε]

namespace Strategy

def conclude (s : Strategy A R) (request : Request A) : Conclusion R :=
  match s with
  | legacy h context =>
    ⟨(Response.fresh : Response R).run ((h.run request context).operations .fresh),
      (h.run request context).ending .fresh⟩
  | modern h _ => ⟨.fresh, (h.run request).value.map fun reply => reply.toAnswer.body⟩

def envelope (s : Strategy A R) (request : Request A) (r : Response R) : StatusCode × Headers :=
  match s with
  | legacy _ _ => (r.code, r.headers)
  | modern h _ =>
    match (h.run request).value with
    | .ok reply => (reply.toAnswer.status, reply.toAnswer.headers)
    | .error _ => (.ok, .empty)

def codecFailure (s : Strategy A R) (e : CodecError) : DispatchError ε :=
  match s with
  | legacy _ _ => .fault (Throwable.ofCodec e)
  | modern _ _ => .codec e

end Strategy

theorem Response.result_encodeRaised (r : Response R) (context : CallContext) (e : ε) :
    (r.encodeRaised context e).result = Conclusion.settled ⟨r, .error e⟩ := by
  simp only [encodeRaised, Conclusion.settled]
  split <;> simp_all

theorem LegacyHandler.result_settle (context : CallContext) (r : Response R)
    (ending : Except ε (Option R.Success)) :
    (settle context r ending).result = Conclusion.settled ⟨r, ending⟩ := by
  cases ending with
  | error e => exact r.result_encodeRaised context e
  | ok value? =>
    cases hr : r.finished with
    | true => cases value? <;> simp [settle, Conclusion.settled, Ending.of, hr]
    | false =>
      cases value? with
      | none => simp [settle, Conclusion.settled, Ending.of, hr]
      | some v =>
        simp only [settle, Conclusion.settled, Ending.of, hr]
        rcases r.writeResult (some v) with ⟨r', _ | _⟩ <;> rfl

theorem LegacyHandler.result_invoke (h : LegacyHandler A R) (context : CallContext)
    (call : InboundCall) (out : Outbound R) :
    (h.invoke context call out).result =
      match call.request A with
      | .error e => (out, .error (Throwable.ofCodec e))
      | .ok request =>
        match ((Strategy.legacy h context).conclude request).settled with
        | .error e => (out, .error e)
        | .ok r =>
          ((({ out with code := r.code }).writeHeaders r.headers).writeBody r.result, .ok ()) := by
  unfold invoke
  cases call.request A with
  | error e => rfl
  | ok request =>
    simp only [Activity.result_bind, Act.result_perform, result_settle, Strategy.conclude]
    generalize Conclusion.settled (R := R) _ = settled
    cases settled with
    | error e => rfl
    | ok r => rfl

theorem ModernHandler.result_invoke (h : ModernHandler A R) (context : CallContext)
    (request : Request A) :
    (h.invoke context request).result =
      ((Strategy.modern h context).conclude request).settled.map fun r =>
        ⟨r.result, ((Strategy.modern h context).envelope request r).2,
          ((Strategy.modern h context).envelope request r).1⟩ := by
  have ha : (h.run request).await.result = (h.run request).value := by
    simp [Deferred.await]
  unfold invoke
  simp only [Activity.result_bind, ha, Strategy.conclude, Strategy.envelope]
  cases (h.run request).value with
  | error e =>
    simp only [Activity.result_bind, Response.result_encodeRaised, Except.map]
    generalize Conclusion.settled (R := R) _ = settled
    cases settled with
    | error e' => rfl
    | ok r => rfl
  | ok reply =>
    simp only [Except.map, Conclusion.settled]
    cases reply.toAnswer.body with
    | none => simp [Response.writeResult, Response.fresh, Answer.replaceBody]
    | some v =>
      simp only [Response.fresh, Bool.false_eq_true, if_false]
      rcases Response.writeResult _ (some v) with ⟨r, _ | _⟩
      · simp
      · simp [Answer.replaceBody]

theorem Endpoint.result_handle (e : Endpoint ε) (call : InboundCall) :
    (e.handle call).result =
      match call.request e.args with
      | .error err => .error (e.strategy.codecFailure err)
      | .ok request =>
        match (e.strategy.conclude request).settled with
        | .error err => .error (.fault err)
        | .ok r =>
          .ok ⟨(e.strategy.envelope request r).1, (e.strategy.envelope request r).2,
            encodeAs e.result.schema r.result⟩ := by
  obtain ⟨A, R, s⟩ := e
  cases s with
  | legacy h context =>
    simp only [handle, Activity.result_bind, LegacyHandler.result_invoke]
    cases call.request A with
    | error err => rfl
    | ok request =>
      cases hs : ((Strategy.legacy h context).conclude request).settled with
      | error err => simp [hs]
      | ok r => simp [hs, Outbound.writeHeaders, Outbound.writeBody, Outbound.fresh,
          Strategy.envelope]
  | modern h context =>
    simp only [handle]
    cases call.request A with
    | error err => rfl
    | ok request =>
      simp only [Activity.result_bind, ModernHandler.result_invoke]
      cases hs : ((Strategy.modern h context).conclude request).settled with
      | error err => simp [Except.map]
      | ok r => simp [Except.map]

theorem Endpoint.handle_of_request_error {e : Endpoint ε} {call : InboundCall}
    {err : CodecError} (h : call.request e.args = .error err) :
    e.handle call = .done (.error (e.strategy.codecFailure err)) := by
  obtain ⟨A, R, s⟩ := e
  cases s with
  | legacy handler context =>
    simp only [handle, LegacyHandler.invoke, h]
    rfl
  | modern handler context => simp only [handle, h, Strategy.codecFailure]

namespace Dispatcher

variable {d : Dispatcher ε} {call : InboundCall}

theorem handle_of_get?_none (h : d.endpoints.get? call.endpoint = none) :
    d.handle call =
      .log (.dispatching call.endpoint) (.done (.error (.noSuchEndpoint call.endpoint))) := by
  rw [handle, h]

theorem handle_of_get? {e : Endpoint ε} (h : d.endpoints.get? call.endpoint = some e) :
    d.handle call = .log (.dispatching call.endpoint) (e.handle call) := by
  rw [handle, h]

theorem result_handle_of_request {e : Endpoint ε} {request : Request e.args}
    (he : d.endpoints.get? call.endpoint = some e) (hq : call.request e.args = .ok request) :
    (d.handle call).result =
      match (e.strategy.conclude request).settled with
      | .error err => .error (.fault err)
      | .ok r =>
        .ok ⟨(e.strategy.envelope request r).1, (e.strategy.envelope request r).2,
          encodeAs e.result.schema r.result⟩ := by
  rw [handle_of_get? he, Activity.result_log, Endpoint.result_handle, hq]

end Dispatcher

end ServiceBinding
