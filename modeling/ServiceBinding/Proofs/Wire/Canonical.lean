import ServiceBinding.Proofs.Wire.SelfDelimiting
import ServiceBinding.Proofs.Text.Order

/-!
# Canonical bytes

Numbers of the fixed format have one spelling, so that maps alone leave a choice: their
entries may stand in any order, and one key may stand there more than once. Main statement:
what is read is written back to the same bytes, up to the entries of maps; for headers, exactly
if their entries stand in ascending order.
-/

universe u

namespace ServiceBinding

open Wire (Schema)

namespace Wire

theorem Format.lt_of_lengthSpelling {f : Format} {n : Nat} {bs : List UInt8}
    (h : f.LengthSpelling n bs) : n < lengthLimit := by
  obtain ⟨x, -, rfl⟩ := h
  exact x.toNat_lt

theorem Format.lt_of_tagSpelling {f : Format} {n : Nat} {bs : List UInt8}
    (h : f.TagSpelling n bs) : n < tagLimit := by
  obtain ⟨x, -, rfl⟩ := h
  exact x.toNat_lt

theorem Format.textFits_of_textSpelling {f : Format} {t : String} {bs : List UInt8}
    (h : f.TextSpelling t bs) : TextFits t := by
  obtain ⟨front, back, hl, -, -⟩ := h
  exact f.lt_of_lengthSpelling hl

theorem Series.forall {α : Type u} {P : α → List UInt8 → Prop} {p : α → Prop}
    (hp : ∀ x bs, P x bs → p x) {xs : List α} {bs : List UInt8} (h : Series P xs bs) :
    ∀ x ∈ xs, p x := by
  induction xs generalizing bs with
  | nil => exact nofun
  | cons x xs ih =>
    obtain ⟨front, back, hx, hxs, -⟩ := h
    exact List.forall_mem_cons.2 ⟨hp x front hx, ih hxs⟩

theorem Format.fits_of_listSpelling {α : Type} {f : Format} {P : α → List UInt8 → Prop}
    {p : α → Prop} (hp : ∀ x bs, P x bs → p x) {xs : List α} {bs : List UInt8}
    (h : f.ListSpelling P xs bs) : xs.length < lengthLimit ∧ ∀ x ∈ xs, p x := by
  obtain ⟨front, back, hl, hs, -⟩ := h
  exact ⟨f.lt_of_lengthSpelling hl, hs.forall hp⟩

theorem Format.fits_of_entrySpelling {α : Type} {f : Format} {P : α → List UInt8 → Prop}
    {p : α → Prop} (hp : ∀ x bs, P x bs → p x) (e : String × α) (bs : List UInt8)
    (h : f.EntrySpelling P e bs) : TextFits e.1 ∧ p e.2 := by
  obtain ⟨front, back, hk, hv, -⟩ := h
  exact ⟨f.textFits_of_textSpelling hk, hp e.2 back hv⟩

namespace RoseTree

variable {α : Type} {f : Format} {P : α → List UInt8 → Prop} {p : α → Prop}

mutual

theorem fits_of_spelling (hp : ∀ a bs, P a bs → p a) :
    (t : RoseTree α) → (bs : List UInt8) → t.Spelling f P bs → t.Fits p
  | node a kids, _, ⟨front, _, ha, ⟨_, back, hl, hk, _⟩, _⟩ =>
    ⟨hp a front ha, f.lt_of_lengthSpelling hl, allFit_of_spellingAll hp kids back hk⟩

theorem allFit_of_spellingAll (hp : ∀ a bs, P a bs → p a) :
    (ts : List (RoseTree α)) → (bs : List UInt8) → SpellingAll f P ts bs → AllFit p ts
  | [], _, _ => trivial
  | t :: rest, _, ⟨front, back, ht, hr, _⟩ =>
    ⟨fits_of_spelling hp t front ht, allFit_of_spellingAll hp rest back hr⟩

end

end RoseTree

mutual

theorem Schema.fits_of_spelling (f : Format) :
    (s : Schema) → (v : s.Val) → (bs : List UInt8) → s.Spelling f v bs → s.Fits v
  | .unit, _, _, _ | .bool, _, _, _ | .word _, _, _, _ | .binary64, _, _, _
  | .char, _, _, _ => trivial
  | .text, _, _, h => f.textFits_of_textSpelling h
  | .option _, none, _, _ => trivial
  | .option s, some x, _, ⟨_, back, _, hx, _⟩ => s.fits_of_spelling f x back hx
  | .list s, _, _, h => f.fits_of_listSpelling (s.fits_of_spelling f) h
  | .map s, _, _, ⟨entries, h, hm⟩ => by
    obtain ⟨hl, he⟩ := f.fits_of_listSpelling (f.fits_of_entrySpelling (s.fits_of_spelling f)) h
    subst hm
    refine ⟨Nat.lt_of_le_of_lt (SortedMap.size_ofList_le entries) hl, fun e hmem => ?_⟩
    exact he e ((SortedMap.mem_insertAll hmem).resolve_right List.not_mem_nil)
  | .pair s t, x, _, ⟨front, back, hs, ht, _⟩ =>
    ⟨s.fits_of_spelling f x.1 front hs, t.fits_of_spelling f x.2 back ht⟩
  | .record _ ms, x, bs, h => ms.allFit_of_spellingAll f x bs h
  | .choice _ ms, x, _, ⟨n, _, back, ht, hx, _⟩ =>
    ms.oneFits_of_spellingOne f n 0 (by
      have hn := f.lt_of_tagSpelling ht
      rwa [Nat.zero_add]) x back hx
  | .tree _ _ s _, t, bs, h => RoseTree.fits_of_spelling (s.fits_of_spelling f) t bs h

theorem Members.allFit_of_spellingAll (f : Format) :
    (ms : Members) → (x : ms.All) → (bs : List UInt8) → ms.SpellingAll f x bs → ms.AllFit x
  | .nil, _, _, _ => trivial
  | .cons _ s rest, x, _, ⟨front, back, hs, hr, _⟩ =>
    ⟨s.fits_of_spelling f x.1 front hs, rest.allFit_of_spellingAll f x.2 back hr⟩

theorem Members.oneFits_of_spellingOne (f : Format) :
    (ms : Members) → (n tag : Nat) → tag + n < tagLimit → (x : ms.One) → (bs : List UInt8) →
      ms.SpellingOne f n x bs → ms.OneFits tag x
  | .cons _ s _, 0, _, ht, .inl x, bs, h => ⟨ht, s.fits_of_spelling f x bs h⟩
  | .cons _ _ rest, n + 1, tag, ht, .inr x, bs, h =>
    rest.oneFits_of_spellingOne f n (tag + 1) (by omega) x bs h

end

mutual

def Schema.MapFree : Schema → Prop
  | .unit | .bool | .word _ | .binary64 | .char | .text => True
  | .map _ => False
  | .option s | .list s | .tree _ _ s _ => s.MapFree
  | .pair s t => s.MapFree ∧ t.MapFree
  | .record _ ms | .choice _ ms => ms.MapFree

def Members.MapFree : Members → Prop
  | .nil => True
  | .cons _ s rest => s.MapFree ∧ rest.MapFree

end

theorem Format.eq_length_of_spelling {n : Nat} {bs : List UInt8}
    (h : Format.fixed.LengthSpelling n bs) : bs = Format.fixed.length n := by
  obtain ⟨x, rfl, rfl⟩ := h
  rw [Format.length, UInt64.ofNat_toNat]
  rfl

theorem Format.eq_tag_of_spelling {n : Nat} {bs : List UInt8}
    (h : Format.fixed.TagSpelling n bs) : bs = Format.fixed.tag n := by
  obtain ⟨x, rfl, rfl⟩ := h
  rw [Format.tag, UInt32.ofNat_toNat]
  rfl

theorem Format.eq_text_of_spelling {t : String} {bs : List UInt8}
    (h : Format.fixed.TextSpelling t bs) : bs = Format.fixed.text t := by
  obtain ⟨front, _, hl, rfl, rfl⟩ := h
  rw [Format.eq_length_of_spelling hl, Format.text]

theorem Series.eq_flatMap {α : Type u} {P : α → List UInt8 → Prop} {encode : α → List UInt8}
    (hP : ∀ x bs, P x bs → bs = encode x) {xs : List α} {bs : List UInt8}
    (h : Series P xs bs) : bs = xs.flatMap encode := by
  induction xs generalizing bs with
  | nil => exact h
  | cons x xs ih =>
    obtain ⟨front, back, hx, hxs, rfl⟩ := h
    rw [hP x front hx, ih hxs, List.flatMap_cons]

namespace RoseTree

variable {α : Type} {P : α → List UInt8 → Prop} {label : α → List UInt8}

mutual

theorem eq_encode_of_spelling (hP : ∀ a bs, P a bs → bs = label a) :
    (t : RoseTree α) → (bs : List UInt8) → t.Spelling .fixed P bs → bs = t.encode .fixed label
  | node a kids, _, ⟨front, _, ha, ⟨_, back, hl, hk, rfl⟩, rfl⟩ => by
    rw [hP a front ha, Format.eq_length_of_spelling hl,
      eq_encodeAll_of_spellingAll hP kids back hk, encode, List.append_assoc]

theorem eq_encodeAll_of_spellingAll (hP : ∀ a bs, P a bs → bs = label a) :
    (ts : List (RoseTree α)) → (bs : List UInt8) → SpellingAll .fixed P ts bs →
      bs = encodeAll .fixed label ts
  | [], _, h => h
  | t :: rest, _, ⟨front, back, ht, hr, rfl⟩ => by
    rw [eq_encode_of_spelling hP t front ht, eq_encodeAll_of_spellingAll hP rest back hr,
      encodeAll]

end

end RoseTree

mutual

/-- Without a map a value has no other spelling than what is written for it. -/
theorem Schema.eq_encode_of_spelling :
    (s : Schema) → s.MapFree → (v : s.Val) → (bs : List UInt8) → s.Spelling .fixed v bs →
      bs = s.encode .fixed v
  | .unit, _, _, _, h | .bool, _, _, _, h | .word _, _, _, _, h | .binary64, _, _, _, h
  | .char, _, _, _, h => h
  | .text, _, _, _, h => Format.eq_text_of_spelling h
  | .option _, _, none, _, h => h
  | .option s, hs, some x, _, ⟨_, back, rfl, hx, rfl⟩ => by
    rw [s.eq_encode_of_spelling hs x back hx, Schema.encode]
    rfl
  | .list s, hs, xs, _, ⟨front, back, hl, hx, rfl⟩ => by
    rw [Format.eq_length_of_spelling hl, hx.eq_flatMap (s.eq_encode_of_spelling hs),
      Schema.encode]
  | .map _, hs, _, _, _ => hs.elim
  | .pair s t, hs, x, _, ⟨front, back, h1, h2, rfl⟩ => by
    rw [s.eq_encode_of_spelling hs.1 x.1 front h1, t.eq_encode_of_spelling hs.2 x.2 back h2,
      Schema.encode]
  | .record _ ms, hs, x, bs, h => ms.eq_encodeAll_of_spellingAll hs x bs h
  | .choice _ ms, hs, x, _, ⟨n, front, back, ht, hx, rfl⟩ => by
    have hone := ms.encodeOne_of_spellingOne hs n 0 x back hx
    rw [Nat.zero_add] at hone
    rw [Format.eq_tag_of_spelling ht, Schema.encode, hone]
  | .tree _ _ s _, hs, t, bs, h =>
    RoseTree.eq_encode_of_spelling (s.eq_encode_of_spelling hs) t bs h

theorem Members.eq_encodeAll_of_spellingAll :
    (ms : Members) → ms.MapFree → (x : ms.All) → (bs : List UInt8) →
      ms.SpellingAll .fixed x bs → bs = ms.encodeAll .fixed x
  | .nil, _, _, _, h => h
  | .cons _ s rest, hs, x, _, ⟨front, back, h1, h2, rfl⟩ => by
    rw [s.eq_encode_of_spelling hs.1 x.1 front h1,
      rest.eq_encodeAll_of_spellingAll hs.2 x.2 back h2, Members.encodeAll]

theorem Members.encodeOne_of_spellingOne :
    (ms : Members) → ms.MapFree → (n tag : Nat) → (x : ms.One) → (bs : List UInt8) →
      ms.SpellingOne .fixed n x bs → ms.encodeOne .fixed tag x = Format.fixed.tag (tag + n) ++ bs
  | .cons _ s _, hs, 0, tag, .inl x, bs, h => by
    rw [s.eq_encode_of_spelling hs.1 x bs h, Members.encodeOne, Nat.add_zero]
  | .cons _ _ rest, hs, n + 1, tag, .inr x, bs, h => by
    rw [Members.encodeOne, rest.encodeOne_of_spellingOne hs.2 n (tag + 1) x bs h,
      Nat.add_right_comm, Nat.add_assoc]

end

end Wire

theorem decodeAs_eq_ok_iff {s : Schema} {bs : List UInt8} {v : s.Val} :
    decodeAs s bs = .ok v ↔ ∃ front, s.Spelling .fixed v front ∧ front <+: bs := by
  constructor
  · intro h
    simp only [decodeAs] at h
    split at h
    · next v' rest hd =>
      cases h
      obtain ⟨front, hs, hb⟩ := Schema.decode_eq_ok_iff.1 hd
      exact ⟨front, hs, rest, hb⟩
    · cases h
  · intro h
    obtain ⟨front, hs, rest, hb⟩ := h
    have hd : s.decode .fixed bs = .ok (v, rest) := Schema.decode_eq_ok_iff.2 ⟨front, hs, hb⟩
    rw [decodeAs, hd]

theorem decodeAs_append {s : Schema} {bs : List UInt8} {v : s.Val} (h : decodeAs s bs = .ok v)
    (more : List UInt8) : decodeAs s (bs ++ more) = .ok v := by
  obtain ⟨front, hs, hp⟩ := decodeAs_eq_ok_iff.1 h
  exact decodeAs_eq_ok_iff.2 ⟨front, hs, hp.trans (List.prefix_append bs more)⟩

theorem fits_of_decodeAs {s : Schema} {bs : List UInt8} {v : s.Val}
    (h : decodeAs s bs = .ok v) : s.Fits v := by
  obtain ⟨front, hs, -⟩ := decodeAs_eq_ok_iff.1 h
  exact s.fits_of_spelling .fixed v front hs

theorem encodeAs_prefix_of_decodeAs {s : Schema} (hs : s.MapFree) {bs : List UInt8} {v : s.Val}
    (h : decodeAs s bs = .ok v) : encodeAs s v <+: bs := by
  obtain ⟨front, hv, hp⟩ := decodeAs_eq_ok_iff.1 h
  rwa [s.eq_encode_of_spelling hs v front hv] at hp

theorem Wire.Schema.decode_map (f : Wire.Format) (s : Schema) (bs : List UInt8) :
    (Schema.map s).decode f bs = ((Schema.list (.pair .text s)).decode f bs).map fun p =>
      (SortedMap.ofList p.1, p.2) := by
  have hd : (Schema.map s).decode f =
      ((Schema.list (.pair .text s)).decode f).map SortedMap.ofList := rfl
  rw [hd]
  simp only [Wire.Decoder.map, Wire.Decoder.bind, Wire.Decoder.pure]
  cases (Schema.list (.pair .text s)).decode f bs with
  | error e => rfl
  | ok p => rfl

theorem decodeAs_map (s : Schema) (bs : List UInt8) :
    decodeAs (.map s) bs = (decodeAs (.list (.pair .text s)) bs).map SortedMap.ofList := by
  rw [decodeAs, decodeAs, Wire.Schema.decode_map]
  cases (Schema.list (.pair .text s)).decode .fixed bs with
  | error e => rfl
  | ok p => rfl

theorem encodeAs_map (s : Schema) (m : SortedMap s.Val) :
    encodeAs (.map s) m = encodeAs (.list (.pair .text s)) m.entries := rfl

theorem fits_map_iff {s : Schema} {m : SortedMap s.Val} :
    (Schema.map s).Fits m ↔ (Schema.list (.pair .text s)).Fits m.entries := by
  rw [Schema.Fits, Schema.Fits]
  rfl

theorem encodeAs_map_prefix_iff {s : Schema} (hs : s.MapFree) {bs : List UInt8}
    {entries : List (String × s.Val)}
    (h : decodeAs (.list (.pair .text s)) bs = .ok entries) :
    encodeAs (.map s) (SortedMap.ofList entries) <+: bs ↔
      entries.Pairwise fun a b => a.1 < b.1 := by
  constructor
  · intro hp
    have hm : decodeAs (.map s) bs = .ok (SortedMap.ofList entries) := by
      rw [decodeAs_map, h]
      rfl
    have hback := decodeAs_encodeAs (fits_map_iff.1 (fits_of_decodeAs hm))
    -- the entries of the map stand at the front of the bytes, so they are the entries read
    obtain ⟨rest, hb⟩ := hp
    have hagain := decodeAs_append hback rest
    rw [← encodeAs_map, hb, h] at hagain
    rw [Except.ok.inj hagain]
    exact (SortedMap.ofList entries).ascending
  · intro hsorted
    have hfree : (Schema.list (.pair .text s)).MapFree := ⟨trivial, hs⟩
    rw [encodeAs_map, SortedMap.entries_ofList hsorted]
    exact encodeAs_prefix_of_decodeAs hfree h

/-- Whatever is read is read from longer bytes as well and survives a round trip, and without
a map it is written back to the same bytes. Headers take the last value of every key that stands
in the bytes, and are written back to them if their entries stand there in ascending order. -/
theorem decodeAs_accepts_canonical (bs : List UInt8) :
    (∀ (s : Schema) (v : s.Val), decodeAs s bs = .ok v →
      (∀ more, decodeAs s (bs ++ more) = .ok v) ∧ decodeAs s (encodeAs s v) = .ok v ∧
        (s.MapFree → encodeAs s v <+: bs)) ∧
    ∀ m : Headers, decodeAs .headers bs = .ok m →
      ∃ entries, decodeAs (.list (.pair .text .text)) bs = .ok entries ∧
        encodeAs (.list (.pair .text .text)) entries <+: bs ∧
        (∀ key, m.get? key = SortedMap.lastValue? key entries) ∧
        (encodeAs .headers m <+: bs ↔
          entries.Pairwise fun a b => Utf8.bytes a.1 < Utf8.bytes b.1) := by
  refine ⟨fun s v h => ⟨decodeAs_append h, decodeAs_encodeAs (fits_of_decodeAs h), ?_⟩, ?_⟩
  · exact fun hs => encodeAs_prefix_of_decodeAs hs h
  · intro m hm
    rw [decodeAs_map] at hm
    cases he : decodeAs (.list (.pair .text .text)) bs with
    | error e =>
      rw [he] at hm
      cases hm
    | ok entries =>
      rw [he] at hm
      obtain rfl := Except.ok.inj hm
      have hfree : (Schema.list (.pair .text .text)).MapFree := ⟨trivial, trivial⟩
      refine ⟨entries, rfl, encodeAs_prefix_of_decodeAs hfree he, SortedMap.get?_ofList entries, ?_⟩
      simp only [Utf8.bytes_lt_bytes_iff]
      exact encodeAs_map_prefix_iff (s := .text) trivial he

theorem decodeAs_accepts_canonical_unsorted :
    let listed : Schema := .list (.pair .text .text)
    let entries : listed.Val := [("b", "1"), ("a", "2"), ("b", "3")]
    let bs := encodeAs listed entries ++ [7]
    let m : Headers := (SortedMap.empty.insert "a" "2").insert "b" "3"
    decodeAs listed bs = .ok entries ∧ listed.MapFree ∧ encodeAs listed entries <+: bs ∧
      decodeAs .headers bs = .ok m ∧ decodeAs .headers (bs ++ [8]) = .ok m ∧
      m.get? "b" = SortedMap.lastValue? "b" entries ∧ ¬ encodeAs .headers m <+: bs := by
  intro listed entries bs m
  have hfits : listed.Fits entries := by
    have ht : ∀ e ∈ entries, (Utf8.bytes e.1).length < Wire.lengthLimit ∧
        (Utf8.bytes e.2).length < Wire.lengthLimit := by decide
    exact ⟨by decide, ht⟩
  have hl : decodeAs listed bs = .ok entries := decodeAs_append (decodeAs_encodeAs hfits) [7]
  have hm : decodeAs .headers bs = .ok m := by
    have hsorted : SortedMap.ofList entries = m := SortedMap.ext_entries (by decide)
    rw [decodeAs_map, hl, ← hsorted]
    rfl
  have hfree : listed.MapFree := ⟨trivial, trivial⟩
  obtain ⟨hread, hheaders⟩ := decodeAs_accepts_canonical bs
  obtain ⟨es, he, -, hget, hwritten⟩ := hheaders m hm
  obtain rfl : entries = es := Except.ok.inj (hl.symm.trans he)
  refine ⟨hl, hfree, (hread listed entries hl).2.2 hfree, hm, (hread .headers m hm).1 [8],
    hget "b", ?_⟩
  rw [hwritten]
  decide

end ServiceBinding
