import ServiceBinding.Error
import ServiceBinding.Wire.Decoding
import ServiceBinding.Wire.Encoding

/-!
# Shapes

The containers of a method: one for its arguments, one for its result. A result container
has a success field and a field for each declared exception, of which at most one is set;
its table names them in declaration order. The table's first slot stands for the success
field and is empty for a void method; the later slots stand for exceptions, with gaps.
-/

namespace ServiceBinding

open Wire (Schema)

structure ExceptionType (ε : Type) where
  name : String
  accepts : ε → Bool

structure FieldSpec (ε : Type) where
  id : Int
  name : String
  exception? : Option (ExceptionType ε)

namespace FieldSpec

variable {ε : Type}

def success (name : String) : FieldSpec ε := ⟨0, name, none⟩

def exception (id : Int) (name : String) (type : ExceptionType ε) : FieldSpec ε :=
  ⟨id, name, some type⟩

def accepts (f : FieldSpec ε) (e : ε) : Bool := f.exception?.any (·.accepts e)

end FieldSpec

structure ArgsShape where
  name : String
  schema : Schema

@[reducible] def ArgsShape.Val (A : ArgsShape) : Type := A.schema.Val

/-- The result container of a method. `setException` stores an error under a field's id, or
hands back an error and says what is left of the container. -/
structure ResultShape (ε : Type) where
  name : String
  schema : Schema
  success : Schema
  table : List (Option (FieldSpec ε))
  empty : schema.Val
  setSuccess : schema.Val → success.Val → schema.Val
  setException : schema.Val → Int → ε → schema.Val × Except ε Unit

namespace ResultShape

variable {ε : Type} (R : ResultShape ε)

@[reducible] def Container : Type := R.schema.Val

@[reducible] def Success : Type := R.success.Val

def successField : Option (FieldSpec ε) := R.table.head?.join

def selectException (e : ε) : Option (FieldSpec ε) :=
  (R.table.drop 1).reduceOption.find? (·.accepts e)

def Conservative : Prop :=
  ∀ c id e e', (R.setException c id e).2 = .error e' → (R.setException c id e).1 = c

end ResultShape

def decodeAs (s : Schema) (bs : List UInt8) : Except CodecError s.Val :=
  match s.decode .fixed bs with
  | .ok (v, _) => .ok v
  | .error e => .error ⟨e⟩

def encodeAs (s : Schema) (v : s.Val) : List UInt8 := s.encode .fixed v

end ServiceBinding
