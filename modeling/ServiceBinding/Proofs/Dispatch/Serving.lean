import ServiceBinding.Proofs.Dispatch.Failure
import ServiceBinding.Proofs.Wire.RoundTrip

/-!
# Serving a request

What an endpoint does once a call is read: it runs its handler on the request and encodes
what the handler concludes. Main statement: a call that can be read is this and no more, with
all of its events and pauses.
-/

namespace ServiceBinding

variable {ε : Type} [Throwable ε]

namespace Endpoint

def serve (e : Endpoint ε) (request : Request e.args) :
    Activity (Except (DispatchError ε) WireResponse) :=
  match e.strategy with
  | .legacy h context => do
    let (ended, r) ← (h.run request context).perform .fresh
    match ← LegacyHandler.settle context r ended with
    | .error err => return .error (.fault err)
    | .ok r =>
      Activity.emit (.finished .legacy context.endpoint r.code)
      return .ok ⟨r.code, r.headers, encodeAs e.result.schema r.result⟩
  | .modern h context => do
    match ← h.invoke context request with
    | .error err => return .error (.fault err)
    | .ok answer =>
      return .ok ⟨answer.status, answer.headers, encodeAs e.result.schema answer.body⟩

theorem handle_of_request {e : Endpoint ε} {call : InboundCall} {request : Request e.args}
    (h : call.request e.args = .ok request) : e.handle call = e.serve request := by
  obtain ⟨A, R, s⟩ := e
  cases s with
  | legacy handler context =>
    simp only [handle, LegacyHandler.invoke, h, serve, bind_assoc]
    congr 1
    funext ended
    congr 1
    funext settled
    cases settled with
    | error err => rfl
    | ok r => simp [Outbound.writeHeaders, Outbound.writeBody, Outbound.fresh]
  | modern handler context =>
    simp only [handle, h]
    rfl

end Endpoint

theorem InboundCall.request_of (endpoint : String) {headers : Headers} {A : ArgsShape}
    {args : A.Val} (transport : TransportHeaders) (hh : Wire.Schema.headers.Fits headers)
    (ha : A.schema.Fits args) :
    (InboundCall.of endpoint headers A args transport).request A =
      .ok ⟨headers, args, transport.metadata⟩ :=
  request_eq_ok_iff.2 ⟨decodeAs_encodeAs hh, decodeAs_encodeAs ha, rfl⟩

theorem Dispatcher.handle_of {d : Dispatcher ε} {endpoint : String} {headers : Headers}
    {A : ArgsShape} {args : A.Val} {R : ResultShape ε} {s : Strategy A R}
    (transport : TransportHeaders) (hs : d.endpoints.get? endpoint = some ⟨A, R, s⟩)
    (hh : Wire.Schema.headers.Fits headers) (ha : A.schema.Fits args) :
    d.handle (.of endpoint headers A args transport) =
      .log (.dispatching endpoint)
        (Endpoint.serve ⟨A, R, s⟩ ⟨headers, args, transport.metadata⟩) := by
  have hread := InboundCall.request_of endpoint transport hh ha
  have hserve : (⟨A, R, s⟩ : Endpoint ε).handle (.of endpoint headers A args transport) =
      Endpoint.serve ⟨A, R, s⟩ ⟨headers, args, transport.metadata⟩ :=
    Endpoint.handle_of_request hread
  rw [← hserve]
  exact handle_of_get? hs

end ServiceBinding
