import ServiceBinding.Proofs.Wire.Spelling

/-!
# Decoders read spellings

Every decoder is put together from decoders of parts, and so are the spellings that it reads.
Main statement: a value of any schema is read at the front of some bytes exactly if a spelling
of the value stands there, and what is read ends where the spelling ends.
-/

universe u v

namespace ServiceBinding.Wire

namespace Decoder

section

variable {α : Type u} {β : Type v} {d : Decoder α} {P : α → List UInt8 → Prop}

/-- The decoder reads the spellings of a value as this value, and reads nothing else. -/
structure Parses (d : Decoder α) (P : α → List UInt8 → Prop) : Prop where
  reads : ∀ {a front}, P a front → d.Reads front a
  spelled : ∀ {bs a rest}, d bs = .ok (a, rest) → ∃ front, P a front ∧ front ++ rest = bs

theorem Parses.eq_ok_iff (h : d.Parses P) {bs rest : List UInt8} {a : α} :
    d bs = .ok (a, rest) ↔ ∃ front, P a front ∧ front ++ rest = bs := by
  refine ⟨h.spelled, ?_⟩
  rintro ⟨front, hp, rfl⟩
  exact h.reads hp rest

theorem Parses.congr {Q : α → List UInt8 → Prop} (h : d.Parses P)
    (hpq : ∀ a bs, P a bs ↔ Q a bs) : d.Parses Q where
  reads hq := h.reads ((hpq _ _).2 hq)
  spelled hd := by
    obtain ⟨front, hp, hb⟩ := h.spelled hd
    exact ⟨front, (hpq _ _).1 hp, hb⟩

theorem parses_pure (a : α) : (pure a).Parses fun a' bs => a' = a ∧ bs = [] where
  reads := by
    rintro _ _ ⟨rfl, rfl⟩
    exact reads_pure _
  spelled h := by
    cases h
    exact ⟨[], ⟨rfl, rfl⟩, rfl⟩

theorem parses_fail (e : DecodeError) : (fail e : Decoder α).Parses fun _ _ => False where
  reads := nofun
  spelled := nofun

theorem Parses.bind {next : α → Decoder β} {Q : α → β → List UInt8 → Prop} (hd : d.Parses P)
    (hn : ∀ a, (next a).Parses (Q a)) :
    (d.bind next).Parses fun b bs => ∃ a, Joined (P a) (Q a b) bs where
  reads := by
    rintro b _ ⟨a, front, back, hp, hq, rfl⟩
    exact (hd.reads hp).bind ((hn a).reads hq)
  spelled h := by
    simp only [Decoder.bind] at h
    split at h
    · next a mid ha =>
      obtain ⟨front, hp, rfl⟩ := hd.spelled ha
      obtain ⟨back, hq, rfl⟩ := (hn a).spelled h
      exact ⟨front ++ back, ⟨a, front, back, hp, hq, rfl⟩, List.append_assoc _ _ _⟩
    · cases h

theorem Parses.map (h : d.Parses P) (g : α → β) :
    (d.map g).Parses fun b bs => ∃ a, P a bs ∧ b = g a where
  reads := by
    rintro _ bs ⟨a, hp, rfl⟩
    exact (h.reads hp).map g
  spelled hd := by
    simp only [Decoder.map, Decoder.bind] at hd
    split at hd
    · next a rest ha =>
      cases hd
      obtain ⟨front, hp, hb⟩ := h.spelled ha
      exact ⟨front, ⟨a, hp, rfl⟩, hb⟩
    · cases hd

theorem Parses.pair {e : Decoder β} {Q : β → List UInt8 → Prop} (hd : d.Parses P)
    (he : e.Parses Q) : (d.bind fun x => e.map (Prod.mk x)).Parses fun xy =>
      Joined (P xy.1) (Q xy.2) := by
  refine (hd.bind fun x => he.map (Prod.mk x)).congr fun xy bs => ?_
  constructor
  · rintro ⟨x, front, back, hp, ⟨y, hq, rfl⟩, rfl⟩
    exact ⟨front, back, hp, hq, rfl⟩
  · rintro ⟨front, back, hp, hq, rfl⟩
    exact ⟨xy.1, front, back, hp, ⟨xy.2, hq, rfl⟩, rfl⟩

theorem parses_byte : byte.Parses fun b bs => bs = [b] where
  reads := by
    rintro b _ rfl
    exact reads_byte b
  spelled {bs b rest} h := by
    cases bs with
    | nil => cases h
    | cons b' tail =>
      cases h
      exact ⟨[b], rfl, rfl⟩

theorem parses_take (n : Nat) (short : List UInt8 → DecodeError) :
    (take n short).Parses fun taken bs => taken.length = n ∧ bs = taken where
  reads := by
    rintro taken _ ⟨rfl, rfl⟩
    exact reads_take _ short
  spelled {bs taken rest} h := by
    simp only [take] at h
    split_ifs at h with hn
    cases h
    exact ⟨_, ⟨List.length_take_of_le hn, rfl⟩, List.take_append_drop n bs⟩

theorem Parses.times (h : d.Parses P) (n : Nat) :
    (d.times n).Parses fun xs bs => xs.length = n ∧ Series P xs bs := by
  induction n with
  | zero =>
    refine (parses_pure []).congr fun xs bs => ?_
    rw [List.length_eq_zero_iff]
    constructor
    · rintro ⟨rfl, rfl⟩
      exact ⟨rfl, rfl⟩
    · rintro ⟨rfl, hb⟩
      exact ⟨rfl, hb⟩
  | succ n ih =>
    refine (h.bind fun x => ih.map (List.cons x)).congr fun xs bs => ?_
    constructor
    · rintro ⟨x, front, back, hp, ⟨xs, ⟨hl, hs⟩, rfl⟩, rfl⟩
      exact ⟨congrArg Nat.succ hl, front, back, hp, hs, rfl⟩
    · rintro ⟨hl, hs⟩
      obtain ⟨x, xs, rfl⟩ := List.exists_cons_of_length_eq_add_one hl
      obtain ⟨front, back, hp, hs, rfl⟩ := hs
      exact ⟨x, front, back, hp, ⟨xs, ⟨Nat.succ.inj hl, hs⟩, rfl⟩, rfl⟩

end

end Decoder

open Decoder

theorem ofLittleEndian_lt (bs : List UInt8) : ofLittleEndian bs < Nat.pow 256 bs.length := by
  induction bs with
  | nil => exact Nat.one_pos
  | cons b rest ih =>
    have hb := b.toNat_lt
    have hp : Nat.pow 256 (rest.length + 1) = Nat.pow 256 rest.length * 256 := rfl
    rw [ofLittleEndian, List.length_cons, hp]
    omega

theorem littleEndian_ofLittleEndian (bs : List UInt8) :
    littleEndian bs.length (ofLittleEndian bs) = bs := by
  induction bs with
  | nil => rfl
  | cons b rest ih =>
    have hb := b.toNat_lt
    have hlow : (b.toNat + 256 * ofLittleEndian rest) % 256 = b.toNat := by omega
    have hhigh : (b.toNat + 256 * ofLittleEndian rest) / 256 = ofLittleEndian rest := by omega
    rw [ofLittleEndian, List.length_cons, littleEndian, hlow, hhigh, UInt8.ofNat_toNat, ih]

theorem parses_littleEndian (count : Nat) : (Decoder.littleEndian count).Parses fun n bs =>
    n < Nat.pow 256 count ∧ bs = littleEndian count n := by
  refine ((parses_take count _).map ofLittleEndian).congr fun n bs => ?_
  constructor
  · rintro ⟨taken, ⟨rfl, rfl⟩, rfl⟩
    exact ⟨ofLittleEndian_lt _, (littleEndian_ofLittleEndian _).symm⟩
  · rintro ⟨hn, rfl⟩
    exact ⟨_, ⟨length_littleEndian count n, rfl⟩, (ofLittleEndian_littleEndian hn).symm⟩

theorem parses_compact : Decoder.compact.Parses CompactSpelling := by
  have hrest : ∀ marker : UInt8,
      (if marker.toNat < 251 then Decoder.pure marker.toNat
        else if marker.toNat = 251 then Decoder.littleEndian 2
        else if marker.toNat = 252 then Decoder.littleEndian 4
        else if marker.toNat = 253 then Decoder.littleEndian 8
        else if marker.toNat = 254 then Decoder.fail .wideMarker
        else Decoder.fail (.reservedMarker marker.toNat)).Parses
      fun n bs => CompactSpelling n (marker :: bs) := by
    intro marker
    simp only [compactSpelling_cons_iff]
    split_ifs with h1 h2 h3 h4
    · exact (parses_pure _).congr fun n bs => by grind
    · exact (parses_littleEndian 2).congr fun n bs => by grind
    · exact (parses_littleEndian 4).congr fun n bs => by grind
    · exact (parses_littleEndian 8).congr fun n bs => by grind
    · exact (parses_fail _).congr fun n bs => by grind
    · exact (parses_fail _).congr fun n bs => by grind
  refine (parses_byte.bind hrest).congr fun n bs => ?_
  constructor
  · rintro ⟨marker, _, back, rfl, hc, rfl⟩
    exact hc
  · intro h
    cases bs with
    | nil => cases h
    | cons marker back => exact ⟨marker, [marker], back, rfl, h, rfl⟩

theorem zigzag_ofZigzag (n : Nat) : zigzag (ofZigzag n) = n := by
  simp only [zigzag, ofZigzag]
  split_ifs <;> omega

theorem Word.number_ofNumber {w : Word} {i : Int} (h : w.Holds i) :
    w.number (w.ofNumber i) = i := by
  cases w with
  | u8 | u16 | u32 | u64 =>
    obtain ⟨hl, hh⟩ := h
    obtain ⟨n, rfl⟩ := Int.eq_ofNat_of_zero_le hl
    simp only [modulus, Int.ofNat_eq_natCast] at hh
    simp only [number, ofNumber, UInt8.ofInt, UInt16.ofInt, UInt32.ofInt, UInt64.ofInt,
      UInt8.toNat_ofNat', UInt16.toNat_ofNat', UInt32.toNat_ofNat', UInt64.toNat_ofNat',
      Int.ofNat_eq_natCast]
    omega
  | i8 =>
    obtain ⟨hl, hh⟩ := h
    simp only [modulus, Int.ofNat_eq_natCast] at hl hh
    exact Int8.toInt_ofInt_of_le (by omega) (by omega)
  | i16 =>
    obtain ⟨hl, hh⟩ := h
    simp only [modulus, Int.ofNat_eq_natCast] at hl hh
    exact Int16.toInt_ofInt_of_le (by omega) (by omega)
  | i32 =>
    obtain ⟨hl, hh⟩ := h
    simp only [modulus, Int.ofNat_eq_natCast] at hl hh
    exact Int32.toInt_ofInt_of_le (by omega) (by omega)
  | i64 =>
    obtain ⟨hl, hh⟩ := h
    simp only [modulus, Int.ofNat_eq_natCast] at hl hh
    exact Int64.toInt_ofInt_of_le (by omega) (by omega)

namespace Format

theorem parses_bits (w : Word) : ((Decoder.littleEndian w.bytes).map w.ofBits).Parses
    fun x bs => bs = littleEndian w.bytes (w.bits x) := by
  refine ((parses_littleEndian w.bytes).map w.ofBits).congr fun x bs => ?_
  rw [← w.modulus_eq]
  constructor
  · rintro ⟨n, ⟨hn, rfl⟩, rfl⟩
    rw [w.bits_ofBits hn]
  · rintro rfl
    exact ⟨w.bits x, ⟨w.bits_lt x, rfl⟩, (w.ofBits_bits x).symm⟩

theorem number_eq_iff (w : Word) (x : w.Val) (n : Nat) :
    w.number x = (if w.signed then ofZigzag n else Int.ofNat n) ↔
      (if w.signed then zigzag (w.number x) else w.bits x) = n := by
  by_cases hs : w.signed = true
  · rw [if_pos hs, if_pos hs]
    constructor
    · intro h
      rw [h, zigzag_ofZigzag]
    · rintro rfl
      rw [ofZigzag_zigzag]
  · rw [if_neg hs, if_neg hs, Word.number_of_unsigned (Bool.eq_false_iff.2 hs)]
    exact Int.ofNat_inj

theorem parses_number (w : Word) (i : Int) :
    (if w.Holds i then Decoder.pure (w.ofNumber i)
      else Decoder.fail (.wordOverflow w i)).Parses fun x bs => w.number x = i ∧ bs = [] := by
  split_ifs with h
  · refine (parses_pure _).congr fun x bs => and_congr_left fun _ => ?_
    constructor
    · rintro rfl
      exact Word.number_ofNumber h
    · rintro rfl
      exact (w.ofNumber_number x).symm
  · refine (parses_fail _).congr fun x bs => ?_
    rw [false_iff]
    rintro ⟨rfl, -⟩
    exact h (w.holds_number x)

theorem parses_word (f : Format) (w : Word) : (f.decodeWord w).Parses (f.WordSpelling w) := by
  cases f with
  | fixed => exact parses_bits w
  | compact =>
    simp only [decodeWord]
    by_cases h1 : w.bytes = 1
    · have hp := parses_bits w
      rw [h1] at hp
      rw [if_pos h1]
      exact hp.congr fun x bs => by rw [WordSpelling, if_pos h1]
    · rw [if_neg h1]
      refine (parses_compact.bind fun n => parses_number w _).congr fun x bs => ?_
      rw [WordSpelling, if_neg h1]
      constructor
      · rintro ⟨n, front, _, hc, ⟨hx, rfl⟩, rfl⟩
        rw [(number_eq_iff w x n).1 hx, List.append_nil]
        exact hc
      · intro hc
        exact ⟨_, bs, [], hc, ⟨(number_eq_iff w x _).2 rfl, rfl⟩, List.append_nil bs⟩

theorem parses_length (f : Format) : f.decodeLength.Parses f.LengthSpelling :=
  ((f.parses_word .u64).map UInt64.toNat).congr fun n bs => by
    simp only [LengthSpelling, eq_comm]

theorem parses_tag (f : Format) : f.decodeTag.Parses f.TagSpelling :=
  ((f.parses_word .u32).map UInt32.toNat).congr fun n bs => by
    simp only [TagSpelling, eq_comm]

end Format

namespace Decoder

theorem parses_bool : bool.Parses fun b bs => bs = [if b then 1 else 0] where
  reads := by
    rintro b _ rfl
    exact reads_bool b
  spelled {bs v rest} h := by
    cases bs with
    | nil => cases h
    | cons b tail =>
      simp only [bool, Decoder.bind, byte] at h
      split_ifs at h with h0 h1
      · cases h
        exact ⟨[b], by simp [h0], rfl⟩
      · cases h
        exact ⟨[b], by simp [h1], rfl⟩
      · cases h

theorem parses_char : char.Parses fun c bs => bs = Utf8.encodeChar c where
  reads := by
    rintro c _ rfl
    exact reads_char c
  spelled {bs c rest} h := by
    cases bs with
    | nil => cases h
    | cons b tail =>
      simp only [char] at h
      split at h
      · next r hr =>
        cases h
        exact ⟨_, rfl, (Utf8.decodeChar_eq_ok_iff.1 hr).symm⟩
      · cases h

theorem parses_text (f : Format) : (text f).Parses f.TextSpelling := by
  refine (f.parses_length.bind fun n => (parses_take n _).bind
    (Q := fun bs t back => bs = Utf8.bytes t ∧ back = []) fun bs => ?_).congr fun t bs => ?_
  · cases hb : Utf8.text bs with
    | ok s =>
      refine (parses_pure s).congr fun t back => and_congr_left fun _ => ?_
      rw [← Utf8.text_eq_ok_iff, hb, Except.ok.injEq, eq_comm]
    | error e =>
      refine (parses_fail _).congr fun t back => ?_
      rw [← Utf8.text_eq_ok_iff, hb]
      exact ⟨False.elim, fun h => nomatch h.1⟩
  · constructor
    · rintro ⟨n, front, _, hl, ⟨taken, _, _, ⟨rfl, rfl⟩, ⟨rfl, rfl⟩, rfl⟩, rfl⟩
      exact ⟨front, _, hl, List.append_nil _, rfl⟩
    · rintro ⟨front, _, hl, rfl, rfl⟩
      exact ⟨_, front, _, hl, ⟨_, _, [], ⟨rfl, rfl⟩, ⟨rfl, rfl⟩, List.append_nil _⟩, rfl⟩

variable {α : Type} {d : Decoder α} {P : α → List UInt8 → Prop}

theorem Parses.option (h : d.Parses P) : (option d).Parses fun x? =>
    match x? with
    | none => (· = [0])
    | some x => Joined (· = [1]) (P x) where
  reads {x? bs} hx := by
    cases x? with
    | none =>
      obtain rfl := hx
      exact reads_none d
    | some x =>
      obtain ⟨_, back, rfl, hp, rfl⟩ := hx
      exact reads_some (h.reads hp)
  spelled {bs x? rest} hd := by
    cases bs with
    | nil => cases hd
    | cons b tail =>
      simp only [Decoder.option, Decoder.bind, byte] at hd
      split_ifs at hd with h0 h1
      · cases hd
        exact ⟨[0], rfl, h0 ▸ rfl⟩
      · obtain ⟨front, ⟨x, hp, rfl⟩, rfl⟩ := (h.map some).spelled hd
        exact ⟨1 :: front, ⟨[1], front, rfl, hp, rfl⟩, h1 ▸ rfl⟩
      · cases hd

theorem Parses.list (f : Format) (h : d.Parses P) : (list f d).Parses (f.ListSpelling P) := by
  refine (f.parses_length.bind h.times).congr fun xs bs => ?_
  constructor
  · rintro ⟨_, front, back, hl, ⟨rfl, hs⟩, rfl⟩
    exact ⟨front, back, hl, hs, rfl⟩
  · rintro ⟨front, back, hl, hs, rfl⟩
    exact ⟨_, front, back, hl, ⟨rfl, hs⟩, rfl⟩

theorem Parses.entries (f : Format) (h : d.Parses P) : (entries f d).Parses fun m bs =>
    ∃ es, f.ListSpelling (f.EntrySpelling P) es bs ∧ m = SortedMap.ofList es :=
  (((parses_text f).pair h).list f).map SortedMap.ofList

end Decoder

namespace Decoder

variable {α : Type} {d : Decoder α} {P : α → List UInt8 → Prop}

theorem Parses.treeWithin (f : Format) (h : d.Parses P) (n : Nat) :
    (treeWithin f d n).Parses fun t bs => t.depth ≤ n ∧ t.Spelling f P bs := by
  induction n with
  | zero =>
    refine (parses_fail _).congr fun t bs => ⟨False.elim, fun h => ?_⟩
    cases t
    exact absurd h.1 (Nat.not_succ_le_zero _)
  | succ n ih =>
    refine (h.bind fun a => (ih.list f).map (RoseTree.node a)).congr fun t bs => ?_
    obtain ⟨a, kids⟩ := t
    simp only [RoseTree.depth, RoseTree.Spelling, Nat.add_le_add_iff_right,
      RoseTree.maxDepth_le_iff, RoseTree.spellingAll_eq_series]
    constructor
    · rintro ⟨_, front, back, hp, ⟨_, ⟨head, tail, hl, hs, rfl⟩, hk⟩, rfl⟩
      cases hk
      obtain ⟨hd, hs⟩ := (series_and_iff _ _).1 hs
      exact ⟨hd, front, _, hp, ⟨head, tail, hl, hs, rfl⟩, rfl⟩
    · rintro ⟨hd, front, _, hp, ⟨head, tail, hl, hs, rfl⟩, rfl⟩
      exact ⟨a, front, _, hp, ⟨kids, ⟨head, tail, hl, (series_and_iff _ _).2 ⟨hd, hs⟩, rfl⟩,
        rfl⟩, rfl⟩

theorem Parses.tree (f : Format) (h : d.Parses P) :
    (tree f d).Parses (RoseTree.Spelling f P) where
  reads {t front} ht rest := by
    -- the depth allowed is the number of all bytes, those behind the tree included
    have hd := RoseTree.depth_le_of_spelling t ht
    refine (h.treeWithin f _).reads ⟨?_, ht⟩ rest
    rw [List.length_append]
    omega
  spelled ht := by
    obtain ⟨front, ⟨-, hs⟩, hb⟩ := (h.treeWithin f _).spelled ht
    exact ⟨front, hs, hb⟩

end Decoder

mutual

theorem Schema.parses_decode (f : Format) : (s : Schema) → (s.decode f).Parses (s.Spelling f)
  | .unit => (Decoder.parses_pure ()).congr fun _ _ => ⟨And.right, fun h => ⟨rfl, h⟩⟩
  | .bool => Decoder.parses_bool
  | .word w => f.parses_word w
  | .binary64 => Format.parses_bits .u64
  | .char => Decoder.parses_char
  | .text => Decoder.parses_text f
  | .option s => (s.parses_decode f).option.congr fun x? _ => by cases x? <;> rfl
  | .list s => (s.parses_decode f).list f
  | .map s => (s.parses_decode f).entries f
  | .pair s t => (s.parses_decode f).pair (t.parses_decode f)
  | .record _ ms => ms.parses_decodeAll f
  | .choice _ ms => f.parses_tag.bind fun n => ms.parses_decodeOne f n _
  | .tree _ _ s _ => (s.parses_decode f).tree f

theorem Members.parses_decodeAll (f : Format) :
    (ms : Members) → (ms.decodeAll f).Parses (ms.SpellingAll f)
  | .nil => (Decoder.parses_pure ()).congr fun _ _ => ⟨And.right, fun h => ⟨rfl, h⟩⟩
  | .cons _ s rest => (s.parses_decode f).pair (rest.parses_decodeAll f)

theorem Members.parses_decodeOne (f : Format) : (ms : Members) → (n : Nat) →
    (e : DecodeError) → (ms.decodeOne f n e).Parses (ms.SpellingOne f n)
  | .nil, _, e => (Decoder.parses_fail e).congr fun x => nomatch x
  | .cons _ s _, 0, _ => ((s.parses_decode f).map Sum.inl).congr fun x bs => by
    cases x <;> simp [Members.SpellingOne]
  | .cons _ _ rest, n + 1, e => ((rest.parses_decodeOne f n e).map Sum.inr).congr fun x bs => by
    cases x <;> simp [Members.SpellingOne]

end

namespace Schema

theorem decode_eq_ok_iff {s : Schema} {f : Format} {bs rest : List UInt8} {v : s.Val} :
    s.decode f bs = .ok (v, rest) ↔ ∃ front, s.Spelling f v front ∧ front ++ rest = bs :=
  (s.parses_decode f).eq_ok_iff

theorem spelling_encode {s : Schema} {v : s.Val} (f : Format) (h : s.Fits v) :
    s.Spelling f v (s.encode f v) := by
  obtain ⟨front, hs, hb⟩ := decode_eq_ok_iff.1 (s.reads_encode f v h [])
  rw [List.append_nil, List.append_nil] at hb
  exact hb ▸ hs

end Schema

end ServiceBinding.Wire
