import ServiceBinding.SortedMap
import ServiceBinding.Wire.Word

/-!
# Schemas

A schema describes the values that a message can hold; `Val` is the type of those values.
Records and choices list their members in wire order, and the names serve only to show
values. A binary64 number is kept as its 64 bits.
-/

namespace ServiceBinding.Wire

inductive RoseTree (α : Type)
  | node (label : α) (kids : List (RoseTree α))

namespace RoseTree

variable {α : Type}

def label : RoseTree α → α
  | node a _ => a

def kids : RoseTree α → List (RoseTree α)
  | node _ ts => ts

end RoseTree

mutual

inductive Schema
  | unit
  | bool
  | word (w : Word)
  | binary64
  | char
  | text
  | option (s : Schema)
  | list (s : Schema)
  | map (s : Schema)
  | pair (s t : Schema)
  | record (name : String) (members : Members)
  | choice (name : String) (members : Members)
  | tree (name labelName : String) (label : Schema) (kidsName : String)

/-- Named schemas in order: the fields of a record or the alternatives of a choice. -/
inductive Members
  | nil
  | cons (name : String) (s : Schema) (rest : Members)

end

mutual

@[reducible] def Schema.Val : Schema → Type
  | .unit => Unit
  | .bool => Bool
  | .word w => w.Val
  | .binary64 => UInt64
  | .char => Char
  | .text => String
  | .option s => Option s.Val
  | .list s => List s.Val
  | .map s => SortedMap s.Val
  | .pair s t => s.Val × t.Val
  | .record _ ms => ms.All
  | .choice _ ms => ms.One
  | .tree _ _ s _ => RoseTree s.Val

@[reducible] def Members.All : Members → Type
  | .nil => Unit
  | .cons _ s rest => s.Val × rest.All

@[reducible] def Members.One : Members → Type
  | .nil => Empty
  | .cons _ s rest => s.Val ⊕ rest.One

end

namespace Schema

@[reducible] def u8 : Schema := .word .u8
@[reducible] def u16 : Schema := .word .u16
@[reducible] def u32 : Schema := .word .u32
@[reducible] def u64 : Schema := .word .u64
@[reducible] def i8 : Schema := .word .i8
@[reducible] def i16 : Schema := .word .i16
@[reducible] def i32 : Schema := .word .i32
@[reducible] def i64 : Schema := .word .i64

@[reducible] def bytes : Schema := .list u8

@[reducible] def headers : Schema := .map .text

end Schema

namespace Members

@[reducible] def ofList : List (String × Schema) → Members
  | [] => .nil
  | (name, s) :: rest => .cons name s (ofList rest)

def count : Members → Nat
  | .nil => 0
  | .cons _ _ rest => rest.count + 1

end Members

end ServiceBinding.Wire
