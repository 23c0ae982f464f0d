import ServiceBinding.Wire.Format
import ServiceBinding.Wire.Schema

/-!
# Bytes as values

The value at the front of a byte list. Every length, tag and option byte is checked where it
stands, and the bytes after the value are left alone. A map takes its entries in any order,
the last one of a key wins.
-/

namespace ServiceBinding.Wire

namespace Decoder

def bool : Decoder Bool :=
  byte.bind fun b =>
    if b = 0 then pure false else if b = 1 then pure true else fail (.invalidBool b.toNat)

def char : Decoder Char
  | [] => .error .endOfInput
  | bs =>
    match Utf8.decodeChar bs with
    | .ok r => .ok r
    | .error _ => .error .invalidChar

def text (f : Format) : Decoder String :=
  f.decodeLength.bind fun n =>
    (take n fun rest => .textOverrun n rest.length).bind fun bs =>
      match Utf8.text bs with
      | .ok s => pure s
      | .error e => fail (.invalidText e)

def option {α : Type} (d : Decoder α) : Decoder (Option α) :=
  byte.bind fun b =>
    if b = 0 then pure none
    else if b = 1 then d.map some
    else fail (.optionTag b.toNat)

def list {α : Type} (f : Format) (d : Decoder α) : Decoder (List α) :=
  f.decodeLength.bind d.times

def entries {α : Type} (f : Format) (d : Decoder α) : Decoder (SortedMap α) :=
  (list f ((text f).bind fun k => d.bind fun v => pure (k, v))).map SortedMap.ofList

def treeWithin {α : Type} (f : Format) (label : Decoder α) : Nat → Decoder (RoseTree α)
  | 0 => fail .endOfInput
  | depth + 1 =>
    label.bind fun a => (list f (treeWithin f label depth)).map (RoseTree.node a)

/-- A tree has no more levels than there are bytes. -/
def tree {α : Type} (f : Format) (label : Decoder α) : Decoder (RoseTree α) := fun bs =>
  treeWithin f label bs.length bs

end Decoder

mutual

def Schema.decode (f : Format) : (s : Schema) → Decoder s.Val
  | .unit => .pure ()
  | .bool => .bool
  | .word w => f.decodeWord w
  | .binary64 => (Decoder.littleEndian 8).map UInt64.ofNat
  | .char => .char
  | .text => .text f
  | .option s => (s.decode f).option
  | .list s => .list f (s.decode f)
  | .map s => .entries f (s.decode f)
  | .pair s t => (s.decode f).bind fun x => (t.decode f).bind fun y => .pure (x, y)
  | .record _ ms => ms.decodeAll f
  | .choice _ ms => f.decodeTag.bind fun n => ms.decodeOne f n (.unknownVariant n ms.count)
  | .tree _ _ s _ => .tree f (s.decode f)

def Members.decodeAll (f : Format) : (ms : Members) → Decoder ms.All
  | .nil => .pure ()
  | .cons _ s rest => (s.decode f).bind fun x => (rest.decodeAll f).bind fun xs => .pure (x, xs)

def Members.decodeOne (f : Format) : (ms : Members) → Nat → DecodeError → Decoder ms.One
  | .nil, _, e => .fail e
  | .cons _ s _, 0, _ => (s.decode f).map .inl
  | .cons _ _ rest, n + 1, e => (rest.decodeOne f n e).map .inr

end

end ServiceBinding.Wire
