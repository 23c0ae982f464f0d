import ServiceBinding.Proofs.SortedMap
import ServiceBinding.Proofs.Text.Utf8
import ServiceBinding.Wire.Decoding
import ServiceBinding.Wire.Encoding
import Mathlib.Tactic.SplitIfs

/-!
# Reading what was written

A decoder reads a value from some bytes if it does so whatever follows them. Sequences,
counted repetitions, numbers, texts, options, lists and maps are each read from their parts
in either format, as long as every length fits the word that carries it.
-/

universe u v

namespace ServiceBinding.Wire

namespace Decoder

variable {α : Type u} {β : Type v}

/-- The decoder takes these bytes for the value and leaves alone what follows them. -/
def Reads (d : Decoder α) (bs : List UInt8) (a : α) : Prop :=
  ∀ rest, d (bs ++ rest) = .ok (a, rest)

theorem reads_pure (a : α) : (pure a).Reads [] a := fun _ => rfl

theorem Reads.bind {d : Decoder α} {next : α → Decoder β} {bs cs : List UInt8} {a : α} {b : β}
    (hd : d.Reads bs a) (hn : (next a).Reads cs b) : (d.bind next).Reads (bs ++ cs) b := by
  intro rest
  simp only [Decoder.bind, List.append_assoc, hd (cs ++ rest), hn rest]

theorem Reads.bind_pure {d : Decoder α} {next : α → Decoder β} {bs : List UInt8} {a : α}
    {b : β} (hd : d.Reads bs a) (hn : next a = pure b) : (d.bind next).Reads bs b := by
  intro rest
  simp only [Decoder.bind, hd rest, hn, Decoder.pure]

theorem Reads.map {d : Decoder α} {bs : List UInt8} {a : α} (h : d.Reads bs a) (f : α → β) :
    (d.map f).Reads bs (f a) := h.bind_pure rfl

theorem reads_byte (b : UInt8) : byte.Reads [b] b := fun _ => rfl

theorem reads_take (bs : List UInt8) (short : List UInt8 → DecodeError) :
    (take bs.length short).Reads bs bs := by
  intro rest
  simp [take]

theorem reads_times {d : Decoder α} {encode : α → List UInt8} {xs : List α}
    (h : ∀ x ∈ xs, d.Reads (encode x) x) : (d.times xs.length).Reads (xs.flatMap encode) xs := by
  induction xs with
  | nil => exact reads_pure []
  | cons x xs ih =>
    have hx := h x List.mem_cons_self
    have hxs := ih fun y hy => h y (List.mem_cons_of_mem _ hy)
    exact hx.bind ((hxs.map (List.cons x)))

end Decoder

open Decoder

theorem reads_littleEndian (count : Nat) {n : Nat} (h : n < Nat.pow 256 count) :
    (Decoder.littleEndian count).Reads (littleEndian count n) n := by
  have ht := reads_take (littleEndian count n) fun _ => .endOfInput
  rw [length_littleEndian] at ht
  have hm := ht.map ofLittleEndian
  rwa [ofLittleEndian_littleEndian h] at hm

theorem reads_compact {n : Nat} (h : n < 0x10000000000000000) :
    Decoder.compact.Reads (compact n) n := by
  unfold compact
  split_ifs with h1 h2 h3
  · intro rest
    have hn : n % 256 = n := by omega
    simp [Decoder.compact, Decoder.bind, byte, Decoder.pure, hn, h1]
  · exact (reads_byte 251).bind (reads_littleEndian 2 h2)
  · exact (reads_byte 252).bind (reads_littleEndian 4 h3)
  · exact (reads_byte 253).bind (reads_littleEndian 8 h)

namespace Word

theorem ofNumber_number (w : Word) (x : w.Val) : w.ofNumber (w.number x) = x := by
  cases w with
  | u8 | u16 | u32 | u64 =>
    simp only [number, ofNumber, UInt8.ofInt, UInt16.ofInt, UInt32.ofInt, UInt64.ofInt,
      Int.ofNat_eq_natCast]
    norm_cast
    simp
  | i8 | i16 | i32 | i64 => simp [number, ofNumber]

theorem number_of_unsigned {w : Word} (h : w.signed = false) (x : w.Val) :
    w.number x = Int.ofNat (w.bits x) := by
  cases w with
  | u8 | u16 | u32 | u64 => rfl
  | i8 | i16 | i32 | i64 => cases h

theorem number_bounds_of_signed {w : Word} (h : w.signed = true) (x : w.Val) :
    -Int.ofNat w.modulus ≤ 2 * w.number x ∧ 2 * w.number x < Int.ofNat w.modulus := by
  cases w with
  | u8 | u16 | u32 | u64 => cases h
  | i8 | i16 | i32 | i64 => exact ⟨BitVec.le_two_mul_toInt, BitVec.two_mul_toInt_lt⟩

theorem holds_number (w : Word) (x : w.Val) : w.Holds (w.number x) := by
  cases hs : w.signed with
  | false =>
    rw [Holds, hs, number_of_unsigned hs]
    exact ⟨Int.natCast_nonneg _, Int.ofNat_lt.2 (w.bits_lt x)⟩
  | true =>
    rw [Holds, hs]
    exact number_bounds_of_signed hs x

theorem modulus_le (w : Word) : w.modulus ≤ 0x10000000000000000 := by
  cases w <;> decide

theorem zigzag_number_lt {w : Word} (h : w.signed = true) (x : w.Val) :
    zigzag (w.number x) < w.modulus := by
  obtain ⟨hl, hh⟩ := number_bounds_of_signed h x
  simp only [Int.ofNat_eq_natCast] at hl hh
  simp only [zigzag]
  split_ifs <;> omega

end Word

namespace Format

theorem reads_word (f : Format) (w : Word) (x : w.Val) :
    (f.decodeWord w).Reads (f.word w x) x := by
  have hb : w.bits x < Nat.pow 256 w.bytes := w.modulus_eq ▸ w.bits_lt x
  cases f with
  | fixed =>
    have hr := (reads_littleEndian _ hb).map w.ofBits
    rwa [w.ofBits_bits] at hr
  | compact =>
    simp only [decodeWord, word]
    split_ifs with h1 hs
    · rw [h1] at hb
      have hr := (reads_littleEndian _ hb).map w.ofBits
      rwa [w.ofBits_bits] at hr
    · have hz := Word.zigzag_number_lt hs x
      refine (reads_compact (Nat.lt_of_lt_of_le hz w.modulus_le)).bind_pure ?_
      simp only [ofZigzag_zigzag, if_pos (w.holds_number x), w.ofNumber_number]
    · have hn : Int.ofNat (w.bits x) = w.number x :=
        (Word.number_of_unsigned (Bool.eq_false_iff.2 hs) x).symm
      refine (reads_compact (Nat.lt_of_lt_of_le (w.bits_lt x) w.modulus_le)).bind_pure ?_
      simp only [hn, if_pos (w.holds_number x), w.ofNumber_number]

theorem reads_length (f : Format) {n : Nat} (h : n < 0x10000000000000000) :
    f.decodeLength.Reads (f.length n) n := by
  have hr := (f.reads_word .u64 (UInt64.ofNat n)).map UInt64.toNat
  have hn : (UInt64.ofNat n).toNat = n := by
    rw [UInt64.toNat_ofNat']
    omega
  rwa [hn] at hr

theorem reads_tag (f : Format) {n : Nat} (h : n < 0x100000000) :
    f.decodeTag.Reads (f.tag n) n := by
  have hr := (f.reads_word .u32 (UInt32.ofNat n)).map UInt32.toNat
  have hn : (UInt32.ofNat n).toNat = n := by
    rw [UInt32.toNat_ofNat']
    omega
  rwa [hn] at hr

end Format

end ServiceBinding.Wire
