import ServiceBinding.Activity
import ServiceBinding.Call
import ServiceBinding.Reply
import ServiceBinding.Response

/-!
# Handlers

A legacy handler acts on a response: it writes, sees whether a write was refused, may look at
the response and may pause, and in the end returns or raises. A modern handler pauses some
number of times and then replies or raises.
-/

namespace ServiceBinding

variable {ε : Type} {R : ResultShape ε}

/-- The acts of a legacy handler on its response, up to the value it ends with. -/
inductive Act (R : ResultShape ε) (α : Type)
  | done (a : α)
  | header (name value : String) (next : Act R α)
  | result (value? : Option R.Success) (next : Except ResponseError Unit → Act R α)
  | exception (e : ε) (next : Except ε Unit → Act R α)
  | inspect (next : Response R → Act R α)
  | pause (next : Act R α)

namespace Act

variable {α β : Type}

def bind : Act R α → (α → Act R β) → Act R β
  | done a, f => f a
  | header name value next, f => header name value (next.bind f)
  | result value? next, f => result value? fun r => (next r).bind f
  | exception e next, f => exception e fun r => (next r).bind f
  | inspect next, f => inspect fun r => (next r).bind f
  | pause next, f => pause (next.bind f)

instance : Monad (Act R) where
  pure := done
  bind := bind

def delay : Nat → Act R α → Act R α
  | 0, a => a
  | n + 1, a => pause (delay n a)

def perform [Throwable ε] : Act R α → Response R → Activity (α × Response R)
  | done a, r => .done (a, r)
  | header name value next, r => next.perform (r.writeHeader name value)
  | result value? next, r =>
    (next (r.writeResult value?).2).perform (r.writeResult value?).1
  | exception e next, r => (next (r.writeException e).2).perform (r.writeException e).1
  | inspect next, r => (next r).perform r
  | pause next, r => .pause (next.perform r)

end Act

structure LegacyHandler (A : ArgsShape) (R : ResultShape ε) where
  name : String
  run : Request A → CallContext → Act R (Except ε (Option R.Success))

structure Deferred (α : Type) where
  pauses : Nat
  value : α

def Deferred.await {α : Type} (d : Deferred α) : Activity α := .delay d.pauses (.done d.value)

structure ModernHandler (A : ArgsShape) (R : ResultShape ε) where
  name : String
  run : Request A → Deferred (Except ε (Reply R.Success))

inductive Handler (A : ArgsShape) (R : ResultShape ε)
  | legacy (handler : LegacyHandler A R)
  | modern (handler : ModernHandler A R)

namespace Handler

variable {A : ArgsShape}

def name : Handler A R → String
  | legacy h => h.name
  | modern h => h.name

def convention : Handler A R → Convention
  | legacy _ => .legacy
  | modern _ => .modern

end Handler

end ServiceBinding
