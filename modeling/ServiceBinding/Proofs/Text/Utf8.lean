import ServiceBinding.Text.Utf8
import Mathlib.Tactic.SplitIfs

/-!
# Reading UTF-8 back

A character is read back from its bytes whatever follows them, and a text from all of its
bytes. Main statements: no other bytes are read as the character or as the text.
-/

namespace ServiceBinding.Utf8

theorem toNat_continuation (n : Nat) : (continuation n).toNat = 0x80 + n % 0x40 := by
  simp only [continuation, UInt8.toNat_ofNat']
  omega

theorem follow_continuation {seen low high acc n : Nat} (hl : low ≤ 0x80 + n % 0x40)
    (hh : 0x80 + n % 0x40 ≤ high) (rest : List UInt8) :
    follow seen low high acc (continuation n :: rest) = .ok (acc * 0x40 + n % 0x40, rest) := by
  have hm : (0x80 + n % 0x40) % 0x40 = n % 0x40 := by omega
  simp only [follow, toNat_continuation, hm, if_pos (And.intro hl hh)]

theorem toNat_ofNat_of_lt {n : Nat} (h : n < 256) : (UInt8.ofNat n).toNat = n := by
  rw [UInt8.toNat_ofNat']
  omega

theorem decodeChar_two {n : Nat} (hl : 0x80 ≤ n) (hh : n < 0x800) (rest : List UInt8) :
    decodeChar (UInt8.ofNat (0xC0 + n / 0x40) :: continuation n :: rest) =
      .ok (Char.ofNat n, rest) := by
  have hb : (UInt8.ofNat (0xC0 + n / 0x40)).toNat = 0xC0 + n / 0x40 :=
    toNat_ofNat_of_lt (by omega)
  have hn : (0xC0 + n / 0x40 - 0xC0) * 0x40 + n % 0x40 = n := by omega
  simp only [decodeChar, hb]
  rw [if_neg (by omega), if_neg (by omega), if_pos (by omega),
    follow_continuation (by omega) (by omega)]
  simp only [bind, Except.bind, hn]

theorem decodeChar_three {n : Nat} (hl : 0x800 ≤ n) (hh : n < 0x10000)
    (hs : n < 0xD800 ∨ 0xDFFF < n) (rest : List UInt8) :
    decodeChar (UInt8.ofNat (0xE0 + n / 0x1000) :: continuation (n / 0x40) :: continuation n ::
      rest) = .ok (Char.ofNat n, rest) := by
  have hb : (UInt8.ofNat (0xE0 + n / 0x1000)).toNat = 0xE0 + n / 0x1000 :=
    toNat_ofNat_of_lt (by omega)
  have hlow : secondLow (0xE0 + n / 0x1000) ≤ 0x80 + n / 0x40 % 0x40 := by
    simp only [secondLow]
    split_ifs <;> omega
  have hhigh : 0x80 + n / 0x40 % 0x40 ≤ secondHigh (0xE0 + n / 0x1000) := by
    simp only [secondHigh]
    split_ifs <;> omega
  have hn : ((0xE0 + n / 0x1000 - 0xE0) * 0x40 + n / 0x40 % 0x40) * 0x40 + n % 0x40 = n := by
    omega
  simp only [decodeChar, hb]
  rw [if_neg (by omega), if_neg (by omega), if_neg (by omega), if_pos (by omega),
    follow_continuation hlow hhigh]
  simp only [bind, Except.bind]
  rw [follow_continuation (by omega) (by omega)]
  simp only [hn]

theorem decodeChar_four {n : Nat} (hl : 0x10000 ≤ n) (hh : n < 0x110000) (rest : List UInt8) :
    decodeChar (UInt8.ofNat (0xF0 + n / 0x40000) :: continuation (n / 0x1000) ::
      continuation (n / 0x40) :: continuation n :: rest) = .ok (Char.ofNat n, rest) := by
  have hb : (UInt8.ofNat (0xF0 + n / 0x40000)).toNat = 0xF0 + n / 0x40000 :=
    toNat_ofNat_of_lt (by omega)
  have hlow : secondLow (0xF0 + n / 0x40000) ≤ 0x80 + n / 0x1000 % 0x40 := by
    simp only [secondLow]
    split_ifs <;> omega
  have hhigh : 0x80 + n / 0x1000 % 0x40 ≤ secondHigh (0xF0 + n / 0x40000) := by
    simp only [secondHigh]
    split_ifs <;> omega
  have hn : (((0xF0 + n / 0x40000 - 0xF0) * 0x40 + n / 0x1000 % 0x40) * 0x40 +
      n / 0x40 % 0x40) * 0x40 + n % 0x40 = n := by
    omega
  simp only [decodeChar, hb]
  rw [if_neg (by omega), if_neg (by omega), if_neg (by omega), if_neg (by omega),
    if_pos (by omega), follow_continuation hlow hhigh]
  simp only [bind, Except.bind]
  rw [follow_continuation (by omega) (by omega)]
  simp only
  rw [follow_continuation (by omega) (by omega)]
  simp only [hn]

theorem decodeChar_encodeChar (c : Char) (rest : List UInt8) :
    decodeChar (encodeChar c ++ rest) = .ok (c, rest) := by
  have hv : c.toNat < 0xD800 ∨ 0xDFFF < c.toNat ∧ c.toNat < 0x110000 := c.valid
  have hc : Char.ofNat c.toNat = c := Char.ofNat_toNat c
  simp only [encodeChar]
  split_ifs with h1 h2 h3
  · have hb : (UInt8.ofNat c.toNat).toNat = c.toNat := toNat_ofNat_of_lt (by omega)
    simp only [List.cons_append, List.nil_append, decodeChar, hb, if_pos h1, hc]
  · exact (decodeChar_two (Nat.le_of_not_lt h1) h2 rest).trans (by rw [hc])
  · exact (decodeChar_three (Nat.le_of_not_lt h2) h3 (by omega) rest).trans (by rw [hc])
  · exact (decodeChar_four (Nat.le_of_not_lt h3) (by omega) rest).trans (by rw [hc])

theorem toNat_charOfNat {n : Nat} (h : n < 0xD800 ∨ 0xDFFF < n ∧ n < 0x110000) :
    (Char.ofNat n).toNat = n := by
  have hv : n.isValidChar := h
  rw [Char.ofNat, dif_pos hv]
  rfl

theorem continuation_of_toNat {b : UInt8} {n : Nat} (hl : 0x80 ≤ b.toNat) (hh : b.toNat ≤ 0xBF)
    (hn : n % 0x40 = b.toNat % 0x40) : continuation n = b := by
  rw [← UInt8.toNat_inj, toNat_continuation, hn]
  omega

theorem ofNat_eq_of_toNat {b : UInt8} {n : Nat} (h : n = b.toNat) : UInt8.ofNat n = b := by
  rw [h, UInt8.ofNat_toNat]

theorem follow_eq_ok_iff {seen low high acc n : Nat} {bs rest : List UInt8} :
    follow seen low high acc bs = .ok (n, rest) ↔
      ∃ b, bs = b :: rest ∧ (low ≤ b.toNat ∧ b.toNat ≤ high) ∧
        n = acc * 0x40 + b.toNat % 0x40 := by
  cases bs with
  | nil => simp [follow]
  | cons b tail =>
    simp only [follow]
    split_ifs with h
    · simp only [Except.ok.injEq, Prod.mk.injEq, List.cons.injEq]
      grind
    · simp only [List.cons.injEq, false_iff]
      grind

theorem encodeChar_two {b b1 : UInt8} (hb : 0xC2 ≤ b.toNat ∧ b.toNat < 0xE0)
    (h1 : 0x80 ≤ b1.toNat ∧ b1.toNat ≤ 0xBF) :
    encodeChar (Char.ofNat ((b.toNat - 0xC0) * 0x40 + b1.toNat % 0x40)) = [b, b1] := by
  have hn := toNat_charOfNat (n := (b.toNat - 0xC0) * 0x40 + b1.toNat % 0x40) (by omega)
  rw [encodeChar]
  simp only [hn]
  rw [if_neg (by omega), if_pos (by omega), ofNat_eq_of_toNat (b := b) (by omega),
    continuation_of_toNat h1.1 h1.2 (by omega)]

theorem encodeChar_three {b b1 b2 : UInt8} (hb : 0xE0 ≤ b.toNat ∧ b.toNat < 0xF0)
    (h1 : secondLow b.toNat ≤ b1.toNat ∧ b1.toNat ≤ secondHigh b.toNat)
    (h2 : 0x80 ≤ b2.toNat ∧ b2.toNat ≤ 0xBF) :
    encodeChar (Char.ofNat (((b.toNat - 0xE0) * 0x40 + b1.toNat % 0x40) * 0x40 +
      b2.toNat % 0x40)) = [b, b1, b2] := by
  obtain ⟨h1, hlow, hhigh⟩ : (0x80 ≤ b1.toNat ∧ b1.toNat ≤ 0xBF) ∧
      (b.toNat = 0xE0 → 0xA0 ≤ b1.toNat) ∧ (b.toNat = 0xED → b1.toNat ≤ 0x9F) := by
    simp only [secondLow, secondHigh] at h1
    split_ifs at h1 <;> omega
  have hn := toNat_charOfNat (n := ((b.toNat - 0xE0) * 0x40 + b1.toNat % 0x40) * 0x40 +
    b2.toNat % 0x40) (by omega)
  rw [encodeChar]
  simp only [hn]
  rw [if_neg (by omega), if_neg (by omega), if_pos (by omega),
    ofNat_eq_of_toNat (b := b) (by omega), continuation_of_toNat h1.1 h1.2 (by omega),
    continuation_of_toNat h2.1 h2.2 (by omega)]

theorem encodeChar_four {b b1 b2 b3 : UInt8} (hb : 0xF0 ≤ b.toNat ∧ b.toNat < 0xF5)
    (h1 : secondLow b.toNat ≤ b1.toNat ∧ b1.toNat ≤ secondHigh b.toNat)
    (h2 : 0x80 ≤ b2.toNat ∧ b2.toNat ≤ 0xBF) (h3 : 0x80 ≤ b3.toNat ∧ b3.toNat ≤ 0xBF) :
    encodeChar (Char.ofNat ((((b.toNat - 0xF0) * 0x40 + b1.toNat % 0x40) * 0x40 +
      b2.toNat % 0x40) * 0x40 + b3.toNat % 0x40)) = [b, b1, b2, b3] := by
  obtain ⟨h1, hlow, hhigh⟩ : (0x80 ≤ b1.toNat ∧ b1.toNat ≤ 0xBF) ∧
      (b.toNat = 0xF0 → 0x90 ≤ b1.toNat) ∧ (b.toNat = 0xF4 → b1.toNat ≤ 0x8F) := by
    simp only [secondLow, secondHigh] at h1
    split_ifs at h1 <;> omega
  have hn := toNat_charOfNat (n := (((b.toNat - 0xF0) * 0x40 + b1.toNat % 0x40) * 0x40 +
    b2.toNat % 0x40) * 0x40 + b3.toNat % 0x40) (by omega)
  rw [encodeChar]
  simp only [hn]
  rw [if_neg (by omega), if_neg (by omega), if_neg (by omega),
    ofNat_eq_of_toNat (b := b) (by omega), continuation_of_toNat h1.1 h1.2 (by omega),
    continuation_of_toNat h2.1 h2.2 (by omega), continuation_of_toNat h3.1 h3.2 (by omega)]

/-- A character is read from its own bytes and from no others. -/
theorem decodeChar_eq_ok_iff {bs rest : List UInt8} {c : Char} :
    decodeChar bs = .ok (c, rest) ↔ bs = encodeChar c ++ rest := by
  refine ⟨fun h => ?_, fun h => h ▸ decodeChar_encodeChar c rest⟩
  cases bs with
  | nil => cases h
  | cons b tail =>
    simp only [decodeChar, bind, Except.bind] at h
    split_ifs at h with h1 h2 h3 h4 h5
    · cases h
      have hn := toNat_charOfNat (n := b.toNat) (by omega)
      rw [encodeChar]
      simp only [hn, if_pos h1, UInt8.ofNat_toNat, List.singleton_append]
    · split at h
      · cases h
      · next hf =>
        cases h
        obtain ⟨b1, rfl, hb1, hn⟩ := follow_eq_ok_iff.1 hf
        rw [hn, encodeChar_two ⟨Nat.le_of_not_lt h2, h3⟩ hb1]
        rfl
    · split at h
      · cases h
      · next hf =>
        split at h
        · cases h
        · next hg =>
          cases h
          obtain ⟨b1, rfl, hb1, hm⟩ := follow_eq_ok_iff.1 hf
          obtain ⟨b2, ht, hb2, hn⟩ := follow_eq_ok_iff.1 hg
          rw [hn, hm, ht, encodeChar_three ⟨Nat.le_of_not_lt h3, h4⟩ hb1 hb2]
          rfl
    · split at h
      · cases h
      · next hf =>
        split at h
        · cases h
        · next hg =>
          split at h
          · cases h
          · next hk =>
            cases h
            obtain ⟨b1, rfl, hb1, hl⟩ := follow_eq_ok_iff.1 hf
            obtain ⟨b2, ht, hb2, hm⟩ := follow_eq_ok_iff.1 hg
            obtain ⟨b3, hu, hb3, hn⟩ := follow_eq_ok_iff.1 hk
            rw [hn, hm, hl, ht, hu,
              encodeChar_four ⟨Nat.le_of_not_lt h4, h5⟩ hb1 hb2 hb3]
            rfl

theorem encodeChar_ne_nil (c : Char) : encodeChar c ≠ [] := by
  simp only [encodeChar]
  split_ifs <;> simp

theorem decodeFrom_encode (cs : List Char) (index : Nat) :
    decodeFrom index (encode cs) = .ok cs := by
  induction cs generalizing index with
  | nil => simp [encode, decodeFrom]
  | cons c cs ih =>
    have hd := decodeChar_encodeChar c (encode cs)
    obtain ⟨b, tail, hb⟩ := List.exists_cons_of_ne_nil (encodeChar_ne_nil c)
    have he : encode (c :: cs) = b :: (tail ++ encode cs) := by
      rw [encode, List.flatMap_cons, hb]
      rfl
    rw [hb, List.cons_append] at hd
    rw [he, decodeFrom]
    split
    · next fault h => rw [hd] at h; cases h
    · next c' rest h =>
      rw [hd] at h
      cases h
      rw [ih]

theorem text_bytes (s : String) : text (bytes s) = .ok s := by
  rw [text, decode, bytes, decodeFrom_encode]
  exact congrArg Except.ok String.ofList_toList

theorem encode_of_decodeFrom {index : Nat} {bs : List UInt8} {cs : List Char}
    (h : decodeFrom index bs = .ok cs) : bs = encode cs := by
  induction cs generalizing index bs with
  | nil =>
    cases bs with
    | nil => rfl
    | cons b tail =>
      rw [decodeFrom] at h
      repeat' split at h
      all_goals cases h
  | cons c cs ih =>
    cases bs with
    | nil =>
      rw [decodeFrom] at h
      cases h
    | cons b tail =>
      rw [decodeFrom] at h
      split at h
      · cases h
      · next hc =>
        split at h
        · cases h
        · next hcs =>
          cases h
          rw [decodeChar_eq_ok_iff.1 hc, ih hcs]
          rfl

theorem text_eq_ok_iff {bs : List UInt8} {s : String} : text bs = .ok s ↔ bs = bytes s := by
  refine ⟨fun h => ?_, fun h => h ▸ text_bytes s⟩
  rw [text] at h
  split at h
  · next cs hcs =>
    cases h
    rw [bytes, String.toList_ofList, encode_of_decodeFrom hcs]
  · cases h

end ServiceBinding.Utf8
