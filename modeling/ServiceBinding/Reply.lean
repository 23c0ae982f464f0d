import ServiceBinding.Shape

/-!
# Replies

What a modern handler hands back, and the response that a dispatcher owns for a legacy call.
-/

namespace ServiceBinding

structure Answer (β : Type) where
  body : β
  headers : Headers
  status : StatusCode

namespace Answer

variable {β γ : Type}

def plain (body : β) : Answer β := ⟨body, .empty, .ok⟩

def withHeader (a : Answer β) (name value : String) : Answer β :=
  { a with headers := a.headers.insert name value }

def replaceBody (a : Answer β) (body : γ) : Answer γ := ⟨body, a.headers, a.status⟩

end Answer

inductive Reply (σ : Type)
  | empty
  | value (v : σ)
  | answer (a : Answer (Option σ))

def Reply.toAnswer {σ : Type} : Reply σ → Answer (Option σ)
  | empty => .plain none
  | value v => .plain (some v)
  | answer a => a

variable {ε : Type} {R : ResultShape ε}

/-- The response that a legacy call leaves with its dispatcher. -/
structure Outbound (R : ResultShape ε) where
  code : StatusCode
  headers : Headers
  body : Option R.Container

namespace Outbound

def fresh : Outbound R := ⟨.ok, .empty, none⟩

instance : Inhabited (Outbound R) := ⟨fresh⟩

def writeHeaders (o : Outbound R) (headers : Headers) : Outbound R :=
  { o with headers := o.headers.extend headers }

def writeBody (o : Outbound R) (body : R.Container) : Outbound R :=
  { o with body := some body }

end Outbound

end ServiceBinding
