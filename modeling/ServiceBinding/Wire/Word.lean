/-!
# Machine words

The integer types of the wire, read and written through their bits. `bits` is the
two's-complement pattern, `number` the value it stands for.
-/

namespace ServiceBinding.Wire

inductive Word
  | u8 | u16 | u32 | u64 | i8 | i16 | i32 | i64
  deriving DecidableEq, Repr

namespace Word

@[reducible] def Val : Word → Type
  | u8 => UInt8
  | u16 => UInt16
  | u32 => UInt32
  | u64 => UInt64
  | i8 => Int8
  | i16 => Int16
  | i32 => Int32
  | i64 => Int64

def bytes : Word → Nat
  | u8 | i8 => 1
  | u16 | i16 => 2
  | u32 | i32 => 4
  | u64 | i64 => 8

def modulus : Word → Nat
  | u8 | i8 => 0x100
  | u16 | i16 => 0x10000
  | u32 | i32 => 0x100000000
  | u64 | i64 => 0x10000000000000000

theorem modulus_eq (w : Word) : w.modulus = Nat.pow 256 w.bytes := by
  cases w <;> rfl

def signed : Word → Bool
  | u8 | u16 | u32 | u64 => false
  | i8 | i16 | i32 | i64 => true

def name : Word → String
  | u8 => "u8"
  | u16 => "u16"
  | u32 => "u32"
  | u64 => "u64"
  | i8 => "i8"
  | i16 => "i16"
  | i32 => "i32"
  | i64 => "i64"

def bits : (w : Word) → w.Val → Nat
  | u8, x => UInt8.toNat x
  | u16, x => UInt16.toNat x
  | u32, x => UInt32.toNat x
  | u64, x => UInt64.toNat x
  | i8, x => (Int8.toUInt8 x).toNat
  | i16, x => (Int16.toUInt16 x).toNat
  | i32, x => (Int32.toUInt32 x).toNat
  | i64, x => (Int64.toUInt64 x).toNat

def ofBits : (w : Word) → Nat → w.Val
  | u8, n => UInt8.ofNat n
  | u16, n => UInt16.ofNat n
  | u32, n => UInt32.ofNat n
  | u64, n => UInt64.ofNat n
  | i8, n => (UInt8.ofNat n).toInt8
  | i16, n => (UInt16.ofNat n).toInt16
  | i32, n => (UInt32.ofNat n).toInt32
  | i64, n => (UInt64.ofNat n).toInt64

def number : (w : Word) → w.Val → Int
  | u8, x => Int.ofNat (UInt8.toNat x)
  | u16, x => Int.ofNat (UInt16.toNat x)
  | u32, x => Int.ofNat (UInt32.toNat x)
  | u64, x => Int.ofNat (UInt64.toNat x)
  | i8, x => Int8.toInt x
  | i16, x => Int16.toInt x
  | i32, x => Int32.toInt x
  | i64, x => Int64.toInt x

def ofNumber : (w : Word) → Int → w.Val
  | u8, i => UInt8.ofInt i
  | u16, i => UInt16.ofInt i
  | u32, i => UInt32.ofInt i
  | u64, i => UInt64.ofInt i
  | i8, i => Int8.ofInt i
  | i16, i => Int16.ofInt i
  | i32, i => Int32.ofInt i
  | i64, i => Int64.ofInt i

def Holds (w : Word) (i : Int) : Prop :=
  if w.signed then -Int.ofNat w.modulus ≤ 2 * i ∧ 2 * i < Int.ofNat w.modulus
  else 0 ≤ i ∧ i < Int.ofNat w.modulus

instance (w : Word) (i : Int) : Decidable (w.Holds i) := by
  unfold Holds; infer_instance

theorem bits_lt (w : Word) (x : w.Val) : w.bits x < w.modulus := by
  cases w with
  | u8 => exact UInt8.toNat_lt x
  | u16 => exact UInt16.toNat_lt x
  | u32 => exact UInt32.toNat_lt x
  | u64 => exact UInt64.toNat_lt x
  | i8 => exact UInt8.toNat_lt (Int8.toUInt8 x)
  | i16 => exact UInt16.toNat_lt (Int16.toUInt16 x)
  | i32 => exact UInt32.toNat_lt (Int32.toUInt32 x)
  | i64 => exact UInt64.toNat_lt (Int64.toUInt64 x)

@[simp] theorem ofBits_bits (w : Word) (x : w.Val) : w.ofBits (w.bits x) = x := by
  cases w <;> simp [bits, ofBits]

theorem bits_ofBits (w : Word) {n : Nat} (h : n < w.modulus) : w.bits (w.ofBits n) = n := by
  cases w <;> simp [bits, ofBits, modulus] at h ⊢ <;> omega

end Word

end ServiceBinding.Wire
