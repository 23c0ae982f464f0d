import ServiceBinding.Wire.Decoder

/-!
# Two spellings of numbers

The fixed format writes a word in all of its bytes, least significant first. The compact
format writes a number below 251 in one byte and a greater one behind a marker that names
its width; a longer spelling than necessary is read as well. Words of one byte are the same
in both.
-/

namespace ServiceBinding.Wire

def littleEndian : Nat → Nat → List UInt8
  | 0, _ => []
  | count + 1, n => UInt8.ofNat (n % 256) :: littleEndian count (n / 256)

def ofLittleEndian : List UInt8 → Nat
  | [] => 0
  | b :: rest => b.toNat + 256 * ofLittleEndian rest

theorem length_littleEndian (count n : Nat) : (littleEndian count n).length = count := by
  induction count generalizing n with
  | zero => rfl
  | succ count ih => simp [littleEndian, ih]

theorem ofLittleEndian_littleEndian {count n : Nat} (h : n < Nat.pow 256 count) :
    ofLittleEndian (littleEndian count n) = n := by
  induction count generalizing n with
  | zero => exact (Nat.lt_one_iff.1 h).symm
  | succ count ih =>
    have : n / 256 < Nat.pow 256 count := (Nat.div_lt_iff_lt_mul (by decide)).2 h
    simp only [littleEndian, ofLittleEndian, ih this]
    simp
    omega

def Decoder.littleEndian (count : Nat) : Decoder Nat :=
  (Decoder.take count fun _ => .endOfInput).map ofLittleEndian

/-- The shortest variable-width spelling of a number below 2^64. -/
def compact (n : Nat) : List UInt8 :=
  if n < 251 then [UInt8.ofNat n]
  else if n < 0x10000 then 251 :: littleEndian 2 n
  else if n < 0x100000000 then 252 :: littleEndian 4 n
  else 253 :: littleEndian 8 n

def Decoder.compact : Decoder Nat :=
  Decoder.byte.bind fun marker =>
    let m := marker.toNat
    if m < 251 then .pure m
    else if m = 251 then .littleEndian 2
    else if m = 252 then .littleEndian 4
    else if m = 253 then .littleEndian 8
    else if m = 254 then .fail .wideMarker
    else .fail (.reservedMarker m)

def zigzag (i : Int) : Nat := if i < 0 then (-2 * i - 1).toNat else (2 * i).toNat

def ofZigzag (n : Nat) : Int := if n % 2 = 0 then (n / 2 : Nat) else -((n / 2 : Nat) : Int) - 1

theorem ofZigzag_zigzag (i : Int) : ofZigzag (zigzag i) = i := by
  simp only [ofZigzag, zigzag]
  split <;> split <;> omega

inductive Format
  | fixed
  | compact
  deriving DecidableEq, Repr

namespace Format

def word (f : Format) (w : Word) (x : w.Val) : List UInt8 :=
  match f with
  | fixed => littleEndian w.bytes (w.bits x)
  | compact =>
    if w.bytes = 1 then littleEndian 1 (w.bits x)
    else if w.signed then Wire.compact (zigzag (w.number x))
    else Wire.compact (w.bits x)

def decodeWord (f : Format) (w : Word) : Decoder w.Val :=
  match f with
  | fixed => (Decoder.littleEndian w.bytes).map w.ofBits
  | compact =>
    if w.bytes = 1 then (Decoder.littleEndian 1).map w.ofBits
    else Decoder.compact.bind fun n =>
      let i := if w.signed then ofZigzag n else Int.ofNat n
      if w.Holds i then .pure (w.ofNumber i) else .fail (.wordOverflow w i)

def length (f : Format) (n : Nat) : List UInt8 := f.word .u64 (UInt64.ofNat n)

def decodeLength (f : Format) : Decoder Nat := (f.decodeWord .u64).map UInt64.toNat

def tag (f : Format) (n : Nat) : List UInt8 := f.word .u32 (UInt32.ofNat n)

def decodeTag (f : Format) : Decoder Nat := (f.decodeWord .u32).map UInt32.toNat

end Format

end ServiceBinding.Wire
