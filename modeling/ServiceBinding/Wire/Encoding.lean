import ServiceBinding.Wire.Format
import ServiceBinding.Wire.Schema

/-!
# Values as bytes

Texts, lists and maps are written behind their length, an option behind one byte that says
whether there is a value, and a choice behind the number of its alternative. Records and
pairs write their parts one after the other.
-/

namespace ServiceBinding.Wire

def Format.text (f : Format) (s : String) : List UInt8 :=
  let bs := Utf8.bytes s
  f.length bs.length ++ bs

mutual

def RoseTree.encode {α : Type} (f : Format) (label : α → List UInt8) :
    RoseTree α → List UInt8
  | .node a kids => label a ++ f.length kids.length ++ RoseTree.encodeAll f label kids

def RoseTree.encodeAll {α : Type} (f : Format) (label : α → List UInt8) :
    List (RoseTree α) → List UInt8
  | [] => []
  | t :: rest => t.encode f label ++ RoseTree.encodeAll f label rest

end

mutual

def Schema.encode (f : Format) : (s : Schema) → s.Val → List UInt8
  | .unit, _ => []
  | .bool, b => [if b then 1 else 0]
  | .word w, x => f.word w x
  | .binary64, x => littleEndian 8 (UInt64.toNat x)
  | .char, c => Utf8.encodeChar c
  | .text, t => f.text t
  | .option _, none => [0]
  | .option s, some x => 1 :: s.encode f x
  | .list s, xs => f.length (List.length xs) ++ List.flatMap (s.encode f) xs
  | .map s, m =>
    f.length (SortedMap.size m) ++
      (SortedMap.entries m).flatMap fun e => f.text e.1 ++ s.encode f e.2
  | .pair s t, x => s.encode f x.1 ++ t.encode f x.2
  | .record _ ms, x => ms.encodeAll f x
  | .choice _ ms, x => ms.encodeOne f 0 x
  | .tree _ _ s _, t => RoseTree.encode f (s.encode f) t

def Members.encodeAll (f : Format) : (ms : Members) → ms.All → List UInt8
  | .nil, _ => []
  | .cons _ s rest, x => s.encode f x.1 ++ rest.encodeAll f x.2

/-- The value behind its number; the members before these have the numbers below `tag`. -/
def Members.encodeOne (f : Format) (tag : Nat) : (ms : Members) → ms.One → List UInt8
  | .cons _ s _, .inl x => f.tag tag ++ s.encode f x
  | .cons _ _ rest, .inr x => rest.encodeOne f (tag + 1) x

end

end ServiceBinding.Wire
