import ServiceBinding.Proofs.Wire.RoundTrip

/-!
# Spellings

A value may have several spellings. A number of the compact format may stand behind a wider
marker than it needs, and the entries of a map may stand in any order, where the last one of a
key counts. Everything else is spelled in one way.
-/

universe u v

namespace ServiceBinding.Wire

def Joined (P Q : List UInt8 → Prop) (bs : List UInt8) : Prop :=
  ∃ front back, P front ∧ Q back ∧ front ++ back = bs

def Series {α : Type u} (P : α → List UInt8 → Prop) : List α → List UInt8 → Prop
  | [] => (· = [])
  | x :: xs => Joined (P x) (Series P xs)

/-- The spellings of a number in the compact format, of which `compact` is the shortest. -/
inductive CompactSpelling (n : Nat) : List UInt8 → Prop
  | byte (h : n < 251) : CompactSpelling n [UInt8.ofNat n]
  | two (h : n < 0x10000) : CompactSpelling n (251 :: littleEndian 2 n)
  | four (h : n < 0x100000000) : CompactSpelling n (252 :: littleEndian 4 n)
  | eight (h : n < 0x10000000000000000) : CompactSpelling n (253 :: littleEndian 8 n)

namespace Format

def WordSpelling (f : Format) (w : Word) (x : w.Val) : List UInt8 → Prop :=
  match f with
  | fixed => (· = littleEndian w.bytes (w.bits x))
  | compact =>
    if w.bytes = 1 then (· = littleEndian 1 (w.bits x))
    else CompactSpelling (if w.signed then zigzag (w.number x) else w.bits x)

def LengthSpelling (f : Format) (n : Nat) (bs : List UInt8) : Prop :=
  ∃ x : UInt64, f.WordSpelling .u64 x bs ∧ x.toNat = n

def TagSpelling (f : Format) (n : Nat) (bs : List UInt8) : Prop :=
  ∃ x : UInt32, f.WordSpelling .u32 x bs ∧ x.toNat = n

def TextSpelling (f : Format) (t : String) : List UInt8 → Prop :=
  Joined (f.LengthSpelling (Utf8.bytes t).length) (· = Utf8.bytes t)

def ListSpelling {α : Type} (f : Format) (P : α → List UInt8 → Prop) (xs : List α) :
    List UInt8 → Prop :=
  Joined (f.LengthSpelling xs.length) (Series P xs)

def EntrySpelling {α : Type} (f : Format) (P : α → List UInt8 → Prop) (e : String × α) :
    List UInt8 → Prop :=
  Joined (f.TextSpelling e.1) (P e.2)

end Format

mutual

def RoseTree.Spelling {α : Type} (f : Format) (P : α → List UInt8 → Prop) :
    RoseTree α → List UInt8 → Prop
  | .node a kids =>
    Joined (P a) (Joined (f.LengthSpelling kids.length) (RoseTree.SpellingAll f P kids))

def RoseTree.SpellingAll {α : Type} (f : Format) (P : α → List UInt8 → Prop) :
    List (RoseTree α) → List UInt8 → Prop
  | [] => (· = [])
  | t :: rest => Joined (t.Spelling f P) (RoseTree.SpellingAll f P rest)

end

mutual

def Schema.Spelling (f : Format) : (s : Schema) → s.Val → List UInt8 → Prop
  | .unit, _ => (· = [])
  | .bool, b => (· = [if b then 1 else 0])
  | .word w, x => f.WordSpelling w x
  | .binary64, x => (· = littleEndian 8 (UInt64.toNat x))
  | .char, c => (· = Utf8.encodeChar c)
  | .text, t => f.TextSpelling t
  | .option _, none => (· = [0])
  | .option s, some x => Joined (· = [1]) (s.Spelling f x)
  | .list s, xs => f.ListSpelling (s.Spelling f) xs
  | .map s, m => fun bs => ∃ entries,
    f.ListSpelling (f.EntrySpelling (s.Spelling f)) entries bs ∧ m = SortedMap.ofList entries
  | .pair s t, x => Joined (s.Spelling f x.1) (t.Spelling f x.2)
  | .record _ ms, x => ms.SpellingAll f x
  | .choice _ ms, x => fun bs => ∃ n, Joined (f.TagSpelling n) (ms.SpellingOne f n x) bs
  | .tree _ _ s _, t => RoseTree.Spelling f (s.Spelling f) t

def Members.SpellingAll (f : Format) : (ms : Members) → ms.All → List UInt8 → Prop
  | .nil, _ => (· = [])
  | .cons _ s rest, x => Joined (s.Spelling f x.1) (rest.SpellingAll f x.2)

def Members.SpellingOne (f : Format) : (ms : Members) → Nat → ms.One → List UInt8 → Prop
  | .cons _ s _, 0, .inl x => s.Spelling f x
  | .cons _ _ rest, n + 1, .inr x => rest.SpellingOne f n x
  | .cons _ _ _, 0, .inr _ | .cons _ _ _, _ + 1, .inl _ => fun _ => False

end

theorem series_and_iff {α : Type u} {p : α → Prop} {P : α → List UInt8 → Prop} (xs : List α)
    (bs : List UInt8) :
    Series (fun x bs => p x ∧ P x bs) xs bs ↔ (∀ x ∈ xs, p x) ∧ Series P xs bs := by
  induction xs generalizing bs with
  | nil => simp [Series]
  | cons x xs ih =>
    simp only [Series, Joined, ih, List.forall_mem_cons]
    grind

theorem compactSpelling_cons_iff {n : Nat} {marker : UInt8} {bs : List UInt8} :
    CompactSpelling n (marker :: bs) ↔
      (marker.toNat < 251 ∧ n = marker.toNat ∧ bs = []) ∨
      (marker.toNat = 251 ∧ n < Nat.pow 256 2 ∧ bs = littleEndian 2 n) ∨
      (marker.toNat = 252 ∧ n < Nat.pow 256 4 ∧ bs = littleEndian 4 n) ∨
      (marker.toNat = 253 ∧ n < Nat.pow 256 8 ∧ bs = littleEndian 8 n) := by
  constructor
  · intro h
    cases h with
    | byte h =>
      have hn : (UInt8.ofNat n).toNat = n := Utf8.toNat_ofNat_of_lt (by omega)
      exact .inl ⟨hn.symm ▸ h, hn.symm, rfl⟩
    | two h => exact .inr (.inl ⟨rfl, h, rfl⟩)
    | four h => exact .inr (.inr (.inl ⟨rfl, h, rfl⟩))
    | eight h => exact .inr (.inr (.inr ⟨rfl, h, rfl⟩))
  · rintro (⟨hm, rfl, rfl⟩ | ⟨hm, hn, rfl⟩ | ⟨hm, hn, rfl⟩ | ⟨hm, hn, rfl⟩)
    · have hb := CompactSpelling.byte hm
      rwa [UInt8.ofNat_toNat] at hb
    · obtain rfl : marker = 251 := UInt8.toNat_inj.1 hm
      exact .two hn
    · obtain rfl : marker = 252 := UInt8.toNat_inj.1 hm
      exact .four hn
    · obtain rfl : marker = 253 := UInt8.toNat_inj.1 hm
      exact .eight hn

theorem CompactSpelling.length_pos {n : Nat} {bs : List UInt8} (h : CompactSpelling n bs) :
    0 < bs.length := by
  cases h <;> exact Nat.succ_pos _

theorem Format.length_pos_of_wordSpelling {f : Format} {w : Word} {x : w.Val} {bs : List UInt8}
    (h : f.WordSpelling w x bs) : 0 < bs.length := by
  cases f with
  | fixed =>
    obtain rfl := h
    rw [length_littleEndian]
    cases w <;> decide
  | compact =>
    simp only [WordSpelling] at h
    by_cases h1 : w.bytes = 1
    · rw [if_pos h1] at h
      rw [h, length_littleEndian]
      decide
    · rw [if_neg h1] at h
      exact h.length_pos

namespace RoseTree

variable {α : Type} {f : Format} {P : α → List UInt8 → Prop}

theorem spellingAll_eq_series (ts : List (RoseTree α)) :
    SpellingAll f P ts = Series (Spelling f P) ts := by
  induction ts with
  | nil => rfl
  | cons t rest ih => rw [SpellingAll, Series, ih]

theorem maxDepth_le_iff {ts : List (RoseTree α)} {n : Nat} :
    maxDepth ts ≤ n ↔ ∀ t ∈ ts, t.depth ≤ n := by
  induction ts with
  | nil => simp [maxDepth]
  | cons t rest ih => rw [maxDepth, Nat.max_le, ih, List.forall_mem_cons]

mutual

theorem depth_le_of_spelling : (t : RoseTree α) → {bs : List UInt8} → t.Spelling f P bs →
    t.depth ≤ bs.length
  | .node a kids, _, ⟨front, _, _, ⟨head, back, hl, hk, rfl⟩, rfl⟩ => by
    obtain ⟨_, hw, -⟩ := hl
    have hpos := Format.length_pos_of_wordSpelling hw
    have hkids := maxDepth_le_of_spelling kids hk
    simp only [depth, List.length_append]
    omega

theorem maxDepth_le_of_spelling : (ts : List (RoseTree α)) → {bs : List UInt8} →
    SpellingAll f P ts bs → maxDepth ts ≤ bs.length
  | [], _, _ => Nat.zero_le _
  | t :: rest, _, ⟨front, back, ht, hr, rfl⟩ => by
    have hfirst := depth_le_of_spelling t ht
    have hrest := maxDepth_le_of_spelling rest hr
    simp only [maxDepth, List.length_append]
    omega

end

end RoseTree

end ServiceBinding.Wire
