import ServiceBinding.Dispatcher
import ServiceBinding.ServiceModule

/-!
# Registration

A handler is registered for a method of a service module. The service and the method are
named by overrides, or else by the module's path and the handler; the endpoint is the two
names around a double colon. Every contract is checked before the table changes, in a fixed
order.
-/

namespace ServiceBinding

variable {ε : Type}

structure Registered (ε : Type) where
  endpoint : String
  dispatcher : Dispatcher ε
  events : List Event

def nameOr (override? : Option String) (other : String) : String :=
  match override? with
  | some name => if name = "" then other else name
  | none => other

def endpointName (service method : String) : String := service ++ "::" ++ method

def checkShape (expected found : String) : Except RegisterError Unit :=
  if expected = found then .ok () else .error (.shapeMismatch expected found)

namespace Dispatcher

def register (d : Dispatcher ε) (m : ServiceModule) {A : ArgsShape} {R : ResultShape ε}
    (h : Handler A R) (method? service? : Option String) :
    Except RegisterError (Registered ε) := do
  let service := nameOr service? m.serviceName
  if service = "" then throw .missingService
  let method := nameOr method? h.name
  if method = "" then throw .missingMethod
  let endpoint := endpointName service method
  match m.method? method with
  | none => throw (.unknownMethod service method)
  | some spec =>
    match spec.result? with
    | none => throw (.oneway endpoint)
    | some result =>
      checkShape spec.args A.name
      checkShape result R.name
      let strategy ← Strategy.select d.convention h ⟨service, endpoint⟩
      let (dispatcher, events) := d.add endpoint ⟨A, R, strategy⟩
      return ⟨endpoint, dispatcher, events⟩

end Dispatcher

end ServiceBinding
