import ServiceBinding.Proofs.Wire.RoundTrip

/-!
# Lengths bounded by bytes

In a solid schema every element of a list takes up a byte, and no choice has more
alternatives than a tag can number. Main statement: a value of a solid schema fits if all of
its bytes are fewer than the greatest length.
-/

namespace ServiceBinding.Wire

theorem length_le_length_flatMap {α : Type} {encode : α → List UInt8} (xs : List α)
    (h : ∀ x ∈ xs, 0 < (encode x).length) : xs.length ≤ (xs.flatMap encode).length := by
  induction xs with
  | nil => exact Nat.zero_le _
  | cons x xs ih =>
    have hx := h x List.mem_cons_self
    have hxs := ih fun y hy => h y (List.mem_cons_of_mem _ hy)
    rw [List.flatMap_cons, List.length_append, List.length_cons]
    omega

theorem length_le_length_flatMap_of_mem {α : Type} (encode : α → List UInt8) {xs : List α}
    {x : α} (hx : x ∈ xs) : (encode x).length ≤ (xs.flatMap encode).length :=
  (List.sublist_flatten_of_mem (List.mem_map_of_mem hx)).length_le

def Schema.Occupies (s : Schema) : Prop := ∀ f v, 0 < (s.encode f v).length

mutual

def Schema.Solid : Schema → Prop
  | .unit | .bool | .word _ | .binary64 | .char | .text => True
  | .option s | .map s | .tree _ _ s _ => s.Solid
  | .list s => s.Solid ∧ s.Occupies
  | .pair s t => s.Solid ∧ t.Solid
  | .record _ ms => ms.Solid
  | .choice _ ms => ms.Solid ∧ ms.count ≤ tagLimit

def Members.Solid : Members → Prop
  | .nil => True
  | .cons _ s rest => s.Solid ∧ rest.Solid

end

theorem Schema.solid_bytes : Schema.bytes.Solid := ⟨trivial, fun f x => f.word_pos .u8 x⟩

theorem Members.encodeOne_pos (f : Format) :
    (ms : Members) → (tag : Nat) → (x : ms.One) → 0 < (ms.encodeOne f tag x).length
  | .cons _ s _, tag, .inl x => by
    have ht : 0 < (f.tag tag).length := f.word_pos .u32 _
    rw [Members.encodeOne, List.length_append]
    omega
  | .cons _ _ rest, tag, .inr x => rest.encodeOne_pos f (tag + 1) x

theorem Schema.occupies_choice (name : String) (ms : Members) :
    (Schema.choice name ms).Occupies := fun f x => ms.encodeOne_pos f 0 x

theorem Format.length_bytes_le (f : Format) (t : String) :
    (Utf8.bytes t).length ≤ (f.text t).length := by
  rw [Format.text, List.length_append]
  omega

theorem Format.text_pos (f : Format) (t : String) : 0 < (f.text t).length := by
  have hl := f.length_pos (Utf8.bytes t).length
  rw [Format.text, List.length_append]
  omega

theorem textFits_of_length {f : Format} {t : String} (h : (f.text t).length < lengthLimit) :
    TextFits t := Nat.lt_of_le_of_lt (f.length_bytes_le t) h

namespace RoseTree

variable {α : Type} {f : Format} {label : α → List UInt8} {p : α → Prop}

theorem length_le_length_encodeAll (f : Format) (label : α → List UInt8)
    (ts : List (RoseTree α)) :
    ts.length ≤ (encodeAll f label ts).length := by
  rw [encodeAll_eq_flatMap]
  refine length_le_length_flatMap ts fun t _ => ?_
  have hd := t.depth_le_length_encode f label
  cases t
  rw [depth] at hd
  omega

mutual

theorem fits_of_length_encode (hp : ∀ a, (label a).length < lengthLimit → p a) :
    (t : RoseTree α) → (t.encode f label).length < lengthLimit → t.Fits p
  | node a kids, h => by
    have hk := length_le_length_encodeAll f label kids
    rw [encode, List.length_append, List.length_append] at h
    exact ⟨hp a (by omega), by omega, allFit_of_length_encodeAll hp kids (by omega)⟩

theorem allFit_of_length_encodeAll (hp : ∀ a, (label a).length < lengthLimit → p a) :
    (ts : List (RoseTree α)) → (encodeAll f label ts).length < lengthLimit → AllFit p ts
  | [], _ => trivial
  | t :: rest, h => by
    rw [encodeAll, List.length_append] at h
    exact ⟨fits_of_length_encode hp t (by omega), allFit_of_length_encodeAll hp rest (by omega)⟩

end

end RoseTree

def Format.entry {α : Type} (f : Format) (encode : α → List UInt8) (e : String × α) :
    List UInt8 := f.text e.1 ++ encode e.2

theorem Format.length_entry {α : Type} (f : Format) (encode : α → List UInt8)
    (e : String × α) : (f.entry encode e).length = (f.text e.1).length + (encode e.2).length :=
  List.length_append

theorem entries_fit_of_length {α : Type} (f : Format) {encode : α → List UInt8} {p : α → Prop}
    {m : SortedMap α} (hp : ∀ a, (encode a).length < lengthLimit → p a)
    (h : (m.entries.flatMap (f.entry encode)).length < lengthLimit) :
    m.size < lengthLimit ∧ ∀ e ∈ m.entries, TextFits e.1 ∧ p e.2 := by
  have hpos : ∀ e ∈ m.entries, 0 < (f.entry encode e).length := fun e _ => by
    have ht := f.text_pos e.1
    rw [f.length_entry]
    omega
  have hn : m.size ≤ _ := length_le_length_flatMap m.entries hpos
  refine ⟨Nat.lt_of_le_of_lt hn h, fun e he => ?_⟩
  have hl := length_le_length_flatMap_of_mem (f.entry encode) he
  rw [f.length_entry] at hl
  exact ⟨textFits_of_length (f := f) (by omega), hp e.2 (by omega)⟩

mutual

theorem Schema.fits_of_length_encode (f : Format) :
    (s : Schema) → s.Solid → (v : s.Val) → (s.encode f v).length < lengthLimit → s.Fits v
  | .unit, _, _, _ | .bool, _, _, _ | .word _, _, _, _ | .binary64, _, _, _
  | .char, _, _, _ => trivial
  | .text, _, _, h => textFits_of_length h
  | .option _, _, none, _ => trivial
  | .option s, hs, some x, h => by
    rw [Schema.encode, List.length_cons] at h
    exact s.fits_of_length_encode f hs x (by omega)
  | .list s, hs, xs, h => by
    have hn := length_le_length_flatMap xs fun x _ => hs.2 f x
    rw [Schema.encode, List.length_append] at h
    have hlist : ∀ x ∈ (xs : List s.Val), s.Fits x := fun x hx => by
      have hl := length_le_length_flatMap_of_mem (s.encode f) hx
      exact s.fits_of_length_encode f hs.1 x (by omega)
    exact ⟨by omega, hlist⟩
  | .map s, hs, m, h => by
    rw [Schema.encode, List.length_append] at h
    have he : ((SortedMap.entries m).flatMap (f.entry (s.encode f))).length < lengthLimit :=
      Nat.lt_of_le_of_lt (Nat.le_add_left _ _) h
    exact entries_fit_of_length f (s.fits_of_length_encode f hs) he
  | .pair s t, hs, x, h => by
    rw [Schema.encode, List.length_append] at h
    exact ⟨s.fits_of_length_encode f hs.1 x.1 (by omega),
      t.fits_of_length_encode f hs.2 x.2 (by omega)⟩
  | .record _ ms, hs, x, h => ms.allFit_of_length_encodeAll f hs x h
  | .choice _ ms, hs, x, h =>
    ms.oneFits_of_length_encodeOne f hs.1 0 (by rw [Nat.zero_add]; exact hs.2) x h
  | .tree _ _ s _, hs, t, h =>
    RoseTree.fits_of_length_encode (s.fits_of_length_encode f hs) t h

theorem Members.allFit_of_length_encodeAll (f : Format) :
    (ms : Members) → ms.Solid → (x : ms.All) → (ms.encodeAll f x).length < lengthLimit →
      ms.AllFit x
  | .nil, _, _, _ => trivial
  | .cons _ s rest, hs, x, h => by
    rw [Members.encodeAll, List.length_append] at h
    exact ⟨s.fits_of_length_encode f hs.1 x.1 (by omega),
      rest.allFit_of_length_encodeAll f hs.2 x.2 (by omega)⟩

theorem Members.oneFits_of_length_encodeOne (f : Format) :
    (ms : Members) → ms.Solid → (tag : Nat) → tag + ms.count ≤ tagLimit → (x : ms.One) →
      (ms.encodeOne f tag x).length < lengthLimit → ms.OneFits tag x
  | .cons _ s rest, hs, tag, ht, .inl x, h => by
    rw [Members.encodeOne, List.length_append] at h
    rw [Members.count] at ht
    exact ⟨by omega, s.fits_of_length_encode f hs.1 x (by omega)⟩
  | .cons _ s rest, hs, tag, ht, .inr x, h => by
    rw [Members.count] at ht
    exact rest.oneFits_of_length_encodeOne f hs.2 (tag + 1) (by omega) x h

end

end ServiceBinding.Wire
