import ServiceBinding.Event

/-!
# Activities

A computation that logs events, may pause and ends with a value. Several activities run on
one thread by turns: an activity that gets its turn runs to its next pause. What an activity
logs and answers does not depend on the turns of the others.
-/

namespace ServiceBinding

inductive Activity (α : Type)
  | done (a : α)
  | log (e : Event) (next : Activity α)
  | pause (next : Activity α)

namespace Activity

variable {α β : Type}

def bind : Activity α → (α → Activity β) → Activity β
  | done a, f => f a
  | log e next, f => log e (next.bind f)
  | pause next, f => pause (next.bind f)

instance : Monad Activity where
  pure := done
  bind := bind

def emit (e : Event) : Activity Unit := log e (done ())

def delay : Nat → Activity α → Activity α
  | 0, a => a
  | n + 1, a => pause (delay n a)

def result : Activity α → α
  | done a => a
  | log _ next => next.result
  | pause next => next.result

def events : Activity α → List Event
  | done _ => []
  | log e next => e :: next.events
  | pause next => next.events

def pauses : Activity α → Nat
  | done _ => 0
  | log _ next => next.pauses
  | pause next => next.pauses + 1

def turn : Activity α → List Event × Activity α
  | done a => ([], done a)
  | log e next => (e :: next.turn.1, next.turn.2)
  | pause next => ([], next)

def isDone : Activity α → Bool
  | done _ => true
  | _ => false

def round (as : List (Activity α)) : List Event × List (Activity α) :=
  (as.flatMap (·.turn.1), as.map (·.turn.2))

/-- Rounds until everything is done; each round takes one pause off every activity. -/
def rounds : Nat → List (Activity α) → List Event
  | 0, _ => []
  | n + 1, as => (round as).1 ++ rounds n (round as).2

def together (as : List (Activity α)) : List Event :=
  rounds ((as.map (·.pauses)).foldl max 0 + 1) as

end Activity

end ServiceBinding
