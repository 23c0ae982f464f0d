import ServiceBinding.Basic

/-!
# Log events

What registering an endpoint and handling a call report, each with a level, a message and
named fields.
-/

namespace ServiceBinding

inductive Event
  | registered (endpoint : String) (convention : Convention)
  | replaced (endpoint : String)
  | dispatching (endpoint : String)
  | valueDropped (endpoint : String)
  | finished (convention : Convention) (endpoint : String) (code : StatusCode)
  | leftUnencoded (endpoint error : String)
  deriving DecidableEq, Repr

inductive Level
  | debug
  | info
  | warn
  deriving DecidableEq, Repr

def Level.name : Level → String
  | debug => "DEBUG"
  | info => "INFO"
  | warn => "WARN"

namespace Event

def level : Event → Level
  | registered _ _ => .info
  | replaced _ => .warn
  | dispatching _ => .debug
  | valueDropped _ => .warn
  | finished _ _ _ => .debug
  | leftUnencoded _ _ => .warn

def message : Event → String
  | registered _ _ => "registered endpoint"
  | replaced _ => "endpoint registered twice, replacing the earlier handler"
  | dispatching _ => "dispatching call"
  | valueDropped _ => "handler wrote a result and also returned one; returned value dropped"
  | finished .legacy _ _ => "legacy call finished"
  | finished .modern _ _ => "call finished"
  | leftUnencoded _ _ => "error left unencoded, passing it to the dispatcher"

def fields : Event → List (String × String)
  | registered endpoint convention =>
    [("endpoint", endpoint), ("convention", convention.name)]
  | replaced endpoint => [("endpoint", endpoint)]
  | dispatching endpoint => [("endpoint", endpoint)]
  | valueDropped endpoint => [("endpoint", endpoint)]
  | finished _ endpoint code => [("endpoint", endpoint), ("code", code.name)]
  | leftUnencoded endpoint error => [("endpoint", endpoint), ("error", error)]

end Event

end ServiceBinding
