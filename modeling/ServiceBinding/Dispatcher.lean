import ServiceBinding.Strategy

/-!
# The dispatcher

A dispatcher maps endpoint names to handlers bound to its convention. A call goes to the
endpoint that it names; its answer is encoded by that endpoint's result shape.
-/

namespace ServiceBinding

variable {ε : Type}

structure Endpoint (ε : Type) where
  args : ArgsShape
  result : ResultShape ε
  strategy : Strategy args result

structure Dispatcher (ε : Type) where
  convention : Convention
  endpoints : SortedMap (Endpoint ε)

namespace Dispatcher

def empty (convention : Convention) : Dispatcher ε := ⟨convention, .empty⟩

instance : Inhabited (Dispatcher ε) := ⟨empty default⟩

def names (d : Dispatcher ε) : List String := d.endpoints.keys

def context? (d : Dispatcher ε) (name : String) : Option CallContext :=
  (d.endpoints.get? name).map (·.strategy.context)

def add (d : Dispatcher ε) (name : String) (e : Endpoint ε) : Dispatcher ε × List Event :=
  ({ d with endpoints := d.endpoints.insert name e },
    .registered name e.strategy.convention ::
      if d.endpoints.contains name then [.replaced name] else [])

end Dispatcher

variable [Throwable ε]

namespace Endpoint

/-- A legacy endpoint reads the call itself, so that its error is a fault; a modern endpoint
is called with what the dispatcher has read. -/
def handle (e : Endpoint ε) (call : InboundCall) :
    Activity (Except (DispatchError ε) WireResponse) :=
  match e.strategy with
  | .legacy h context => do
    match ← h.invoke context call .fresh with
    | (_, .error e) => return .error (.fault e)
    | (out, .ok ()) =>
      return .ok ⟨out.code, out.headers,
        encodeAs e.result.schema (out.body.getD e.result.empty)⟩
  | .modern h context =>
    match call.request e.args with
    | .error e => .done (.error (.codec e))
    | .ok request => do
      match ← h.invoke context request with
      | .error e => return .error (.fault e)
      | .ok answer =>
        return .ok ⟨answer.status, answer.headers, encodeAs e.result.schema answer.body⟩

end Endpoint

namespace Dispatcher

def handle (d : Dispatcher ε) (call : InboundCall) :
    Activity (Except (DispatchError ε) WireResponse) :=
  .log (.dispatching call.endpoint) <|
    match d.endpoints.get? call.endpoint with
    | none => .done (.error (.noSuchEndpoint call.endpoint))
    | some e => e.handle call

end Dispatcher

end ServiceBinding
