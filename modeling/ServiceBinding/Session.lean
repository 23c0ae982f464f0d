import ServiceBinding.Registration

/-!
# Sessions

A run of registrations and calls on one dispatcher. Only a registration that goes through
changes the dispatcher; a session's history is the list of its answers and events.
-/

namespace ServiceBinding

variable {ε : Type}

structure AnyHandler (ε : Type) where
  args : ArgsShape
  result : ResultShape ε
  handler : Handler args result

inductive Step (ε : Type)
  | register (m : ServiceModule) (h : AnyHandler ε) (method? service? : Option String)
  | call (call : InboundCall)

inductive StepAnswer (ε : Type)
  | registered (r : Except RegisterError String)
  | called (r : Except (DispatchError ε) WireResponse)

structure StepOutcome (ε : Type) where
  answer : StepAnswer ε
  events : List Event
  dispatcher : Dispatcher ε

variable [Throwable ε]

namespace Dispatcher

def step (d : Dispatcher ε) : Step ε → StepOutcome ε
  | .register m h method? service? =>
    match d.register m h.handler method? service? with
    | .error e => ⟨.registered (.error e), [], d⟩
    | .ok r => ⟨.registered (.ok r.endpoint), r.events, r.dispatcher⟩
  | .call c => ⟨.called (d.handle c).result, (d.handle c).events, d⟩

def run (d : Dispatcher ε) : List (Step ε) → List (StepOutcome ε)
  | [] => []
  | s :: rest => d.step s :: (d.step s).dispatcher.run rest

def after (d : Dispatcher ε) (steps : List (Step ε)) : Dispatcher ε :=
  steps.foldl (fun d s => (d.step s).dispatcher) d

end Dispatcher

end ServiceBinding
