import Mathlib.Algebra.Group.Nat.Defs
import ServiceBinding.Proofs.Text.Utf8

/-!
# The order of texts

Main statement: texts stand in the order of their UTF-8 bytes. A character of more bytes has
a greater first byte, and characters of as many bytes are compared digit by digit.
-/

namespace ServiceBinding.Utf8

def width (n : Nat) : Nat :=
  if n < 0x80 then 0 else if n < 0x800 then 1 else if n < 0x10000 then 2 else 3

def lead : Nat → Nat
  | 0 => 0
  | 1 => 0xC0
  | 2 => 0xE0
  | _ => 0xF0

def first (n : Nat) : Nat := lead (width n) + n / 0x40 ^ width n

/-- The lowest digits to the base 64, the highest of them first. -/
def trail : Nat → Nat → List UInt8
  | 0, _ => []
  | count + 1, n => trail count (n / 0x40) ++ [continuation n]

theorem length_trail (count n : Nat) : (trail count n).length = count := by
  induction count generalizing n with
  | zero => rfl
  | succ count ih => rw [trail, List.length_append, ih, List.length_singleton]

theorem encodeChar_eq (c : Char) :
    encodeChar c = UInt8.ofNat (first c.toNat) :: trail (width c.toNat) c.toNat := by
  simp only [encodeChar, first, width]
  split_ifs <;> simp [lead, trail, Nat.div_div_eq_div_mul]

theorem first_lt_first {n m : Nat} (hw : width n < width m) (hm : m < 0x110000) :
    first n < first m := by
  simp only [first, width] at hw ⊢
  split_ifs at hw ⊢ <;> simp only [lead] <;> omega

theorem first_lt {n : Nat} (h : n < 0x110000) : first n < 256 := by
  simp only [first, width]
  split_ifs <;> simp only [lead] <;> omega

theorem width_le_width {n m : Nat} (h : n ≤ m) : width n ≤ width m := by
  simp only [width]
  split_ifs <;> omega

theorem append_lt_append {as bs : List UInt8} (xs ys : List UInt8)
    (hl : as.length = bs.length) (h : as < bs) : as ++ xs < bs ++ ys := by
  induction as generalizing bs with
  | nil =>
    obtain rfl : bs = [] := List.length_eq_zero_iff.1 hl.symm
    exact absurd h (List.lt_irrefl [])
  | cons a as ih =>
    cases bs with
    | nil => cases hl
    | cons b bs =>
      rw [List.cons_append, List.cons_append, List.cons_lt_cons_iff]
      rcases List.cons_lt_cons_iff.1 h with hab | ⟨hab, hrest⟩
      · exact .inl hab
      · exact .inr ⟨hab, ih (Nat.succ.inj hl) hrest⟩

theorem ofNat_cons_lt {n m : Nat} (h : n < m) (hm : m < 256) (as bs : List UInt8) :
    UInt8.ofNat n :: as < UInt8.ofNat m :: bs := by
  refine List.cons_lt_cons_iff.2 (.inl ?_)
  rw [UInt8.lt_iff_toNat_lt, toNat_ofNat_of_lt (Nat.lt_trans h hm), toNat_ofNat_of_lt hm]
  exact h

theorem cons_trail_lt {base count n m : Nat} (h : n < m) (hm : base + m / 0x40 ^ count < 256) :
    UInt8.ofNat (base + n / 0x40 ^ count) :: trail count n <
      UInt8.ofNat (base + m / 0x40 ^ count) :: trail count m := by
  induction count generalizing n m with
  | zero => exact ofNat_cons_lt (by omega) hm _ _
  | succ count ih =>
    have hpow : ∀ k, k / 0x40 ^ (count + 1) = k / 0x40 / 0x40 ^ count := fun k => by
      rw [Nat.pow_succ', Nat.div_div_eq_div_mul]
    rw [hpow] at hm
    rw [hpow, hpow, trail, trail, ← List.cons_append, ← List.cons_append]
    rcases Nat.lt_or_eq_of_le (Nat.div_le_div_right (Nat.le_of_lt h)) with hd | hd
    · exact append_lt_append _ _ (by simp [length_trail]) (ih hd hm)
    · rw [hd]
      exact List.append_left_lt (ofNat_cons_lt (by omega) (by omega) [] [])

theorem encodeChar_append_lt {c d : Char} (h : c < d) (xs ys : List UInt8) :
    encodeChar c ++ xs < encodeChar d ++ ys := by
  have hn : c.toNat < d.toNat := h
  have hv : d.toNat < 0xD800 ∨ 0xDFFF < d.toNat ∧ d.toNat < 0x110000 := d.valid
  have hd : d.toNat < 0x110000 := by omega
  have hf := first_lt hd
  rw [encodeChar_eq, encodeChar_eq]
  rcases Nat.lt_or_eq_of_le (width_le_width (Nat.le_of_lt hn)) with hw | hw
  · exact ofNat_cons_lt (first_lt_first hw hd) hf _ _
  · rw [first] at hf
    rw [first, first, hw]
    exact append_lt_append xs ys (by simp [length_trail]) (cons_trail_lt hn hf)

theorem encode_lt_encode {cs ds : List Char} (h : cs < ds) : encode cs < encode ds := by
  induction cs generalizing ds with
  | nil =>
    cases ds with
    | nil => exact absurd h (List.lt_irrefl [])
    | cons d ds =>
      obtain ⟨b, tail, hb⟩ := List.exists_cons_of_ne_nil (encodeChar_ne_nil d)
      rw [encode, encode, List.flatMap_cons, hb]
      exact List.nil_lt_cons b _
  | cons c cs ih =>
    cases ds with
    | nil => exact absurd h (List.not_lt_nil _)
    | cons d ds =>
      rw [encode, encode, List.flatMap_cons, List.flatMap_cons]
      rcases List.cons_lt_cons_iff.1 h with hcd | ⟨rfl, hrest⟩
      · exact encodeChar_append_lt hcd _ _
      · exact List.append_left_lt (ih hrest)

theorem bytes_lt_bytes {s t : String} (h : s < t) : bytes s < bytes t :=
  encode_lt_encode (String.lt_iff.1 h)

theorem bytes_lt_bytes_iff {s t : String} : bytes s < bytes t ↔ s < t := by
  refine ⟨fun h => ?_, bytes_lt_bytes⟩
  by_cases hst : s < t
  · exact hst
  · have hne : s ≠ t := fun he => List.lt_irrefl (bytes t) (he ▸ h)
    have hts : t < s := Std.lt_of_le_of_ne (String.not_lt.1 hst) (Ne.symm hne)
    exact absurd (List.lt_trans h (bytes_lt_bytes hts)) (List.lt_irrefl (bytes s))

end ServiceBinding.Utf8
