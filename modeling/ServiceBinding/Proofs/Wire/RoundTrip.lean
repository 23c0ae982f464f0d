import ServiceBinding.Proofs.Wire.Reading
import ServiceBinding.Shape

/-!
# The round trip of messages

Main statement: a value of any schema is read back from its bytes in either format, whatever
follows them. The only condition is that its lengths and the numbers of its alternatives fit
the words that carry them, as those of every value in a machine's memory do.
-/

namespace ServiceBinding.Wire

@[reducible] def lengthLimit : Nat := 0x10000000000000000

@[reducible] def tagLimit : Nat := 0x100000000

def TextFits (t : String) : Prop := (Utf8.bytes t).length < lengthLimit

namespace RoseTree

variable {α : Type}

mutual

def Fits (p : α → Prop) : RoseTree α → Prop
  | .node a kids => p a ∧ kids.length < lengthLimit ∧ AllFit p kids

def AllFit (p : α → Prop) : List (RoseTree α) → Prop
  | [] => True
  | t :: rest => t.Fits p ∧ AllFit p rest

end

mutual

def depth : RoseTree α → Nat
  | .node _ kids => maxDepth kids + 1

def maxDepth : List (RoseTree α) → Nat
  | [] => 0
  | t :: rest => max t.depth (maxDepth rest)

end

end RoseTree

mutual

/-- Every length in the value fits the word in front of it, and so does the number of every
alternative. -/
def Schema.Fits : (s : Schema) → s.Val → Prop
  | .unit, _ | .bool, _ | .word _, _ | .binary64, _ | .char, _ => True
  | .text, t => TextFits t
  | .option _, none => True
  | .option s, some x => s.Fits x
  | .list s, xs => List.length xs < lengthLimit ∧ ∀ x ∈ (xs : List s.Val), s.Fits x
  | .map s, m =>
    SortedMap.size m < lengthLimit ∧
      ∀ e ∈ SortedMap.entries m, TextFits e.1 ∧ s.Fits e.2
  | .pair s t, x => s.Fits x.1 ∧ t.Fits x.2
  | .record _ ms, x => ms.AllFit x
  | .choice _ ms, x => ms.OneFits 0 x
  | .tree _ _ s _, t => RoseTree.Fits s.Fits t

def Members.AllFit : (ms : Members) → ms.All → Prop
  | .nil, _ => True
  | .cons _ s rest, x => s.Fits x.1 ∧ rest.AllFit x.2

def Members.OneFits : (ms : Members) → Nat → ms.One → Prop
  | .cons _ s _, tag, .inl x => tag < tagLimit ∧ s.Fits x
  | .cons _ _ rest, tag, .inr x => rest.OneFits (tag + 1) x

end

namespace Decoder

theorem reads_char (c : Char) : char.Reads (Utf8.encodeChar c) c := by
  intro rest
  have hd := Utf8.decodeChar_encodeChar c rest
  obtain ⟨b, tail, hb⟩ := List.exists_cons_of_ne_nil (Utf8.encodeChar_ne_nil c)
  rw [hb, List.cons_append] at hd ⊢
  simp only [char, hd]

theorem reads_bool (b : Bool) : bool.Reads [if b then 1 else 0] b := by
  cases b <;> exact fun _ => rfl

theorem reads_text (f : Format) {t : String} (h : TextFits t) : (text f).Reads (f.text t) t := by
  have hl := f.reads_length h
  have ht := reads_take (Utf8.bytes t) fun rest => .textOverrun (Utf8.bytes t).length rest.length
  refine hl.bind (ht.bind_pure ?_)
  rw [Utf8.text_bytes]

theorem reads_none {α : Type} (d : Decoder α) : (option d).Reads [0] none := fun _ => rfl

theorem reads_some {α : Type} {d : Decoder α} {bs : List UInt8} {a : α} (h : d.Reads bs a) :
    (option d).Reads (1 :: bs) (some a) :=
  (reads_byte 1).bind (h.map some)

theorem reads_list {α : Type} (f : Format) {d : Decoder α} {encode : α → List UInt8}
    {xs : List α} (hl : xs.length < lengthLimit) (h : ∀ x ∈ xs, d.Reads (encode x) x) :
    (list f d).Reads (f.length xs.length ++ xs.flatMap encode) xs :=
  (f.reads_length hl).bind (reads_times h)

theorem reads_entries {α : Type} (f : Format) {d : Decoder α} {encode : α → List UInt8}
    {m : SortedMap α} (hl : m.size < lengthLimit)
    (h : ∀ e ∈ m.entries, TextFits e.1 ∧ d.Reads (encode e.2) e.2) :
    (entries f d).Reads
      (f.length m.size ++ m.entries.flatMap fun e => f.text e.1 ++ encode e.2) m := by
  have he := reads_list f (d := (text f).bind fun k => d.bind fun v => pure (k, v)) hl
    fun e he => (reads_text f (h e he).1).bind ((h e he).2.bind_pure rfl)
  have hm := he.map SortedMap.ofList
  rwa [SortedMap.ofList_entries] at hm

end Decoder

namespace RoseTree

variable {α : Type}

theorem encodeAll_eq_flatMap (f : Format) (label : α → List UInt8) (ts : List (RoseTree α)) :
    encodeAll f label ts = ts.flatMap (encode f label) := by
  induction ts with
  | nil => rfl
  | cons t rest ih => rw [encodeAll, ih, List.flatMap_cons]

theorem fits_of_mem {p : α → Prop} {t : RoseTree α} {ts : List (RoseTree α)}
    (h : AllFit p ts) (ht : t ∈ ts) : t.Fits p := by
  induction ts with
  | nil => cases ht
  | cons s rest ih =>
    obtain ⟨hs, hr⟩ := h
    rcases List.mem_cons.1 ht with rfl | ht
    · exact hs
    · exact ih hr ht

theorem depth_le_of_mem {t : RoseTree α} {ts : List (RoseTree α)} (ht : t ∈ ts) :
    t.depth ≤ maxDepth ts := by
  induction ts with
  | nil => cases ht
  | cons s rest ih =>
    rw [maxDepth]
    rcases List.mem_cons.1 ht with rfl | ht
    · exact Nat.le_max_left _ _
    · exact Nat.le_trans (ih ht) (Nat.le_max_right _ _)

end RoseTree

theorem length_compact_pos (n : Nat) : 0 < (compact n).length := by
  simp only [compact]
  split_ifs <;> simp

theorem Format.word_pos (f : Format) (w : Word) (x : w.Val) : 0 < (f.word w x).length := by
  cases f with
  | fixed =>
    have hl : (Format.fixed.word w x).length = w.bytes := length_littleEndian _ _
    rw [hl]
    cases w <;> decide
  | compact =>
    simp only [Format.word]
    split_ifs
    · simp [length_littleEndian]
    · exact length_compact_pos _
    · exact length_compact_pos _

theorem Format.length_pos (f : Format) (n : Nat) : 0 < (f.length n).length := f.word_pos .u64 _

namespace RoseTree

variable {α : Type} (f : Format) (label : α → List UInt8)

mutual

/-- Every level of a tree takes up a byte, namely in the count of its kids. -/
theorem depth_le_length_encode : (t : RoseTree α) → t.depth ≤ (t.encode f label).length
  | node a kids => by
    have hl := f.length_pos kids.length
    have hk := maxDepth_le_length_encodeAll kids
    simp only [depth, encode, List.length_append]
    omega

theorem maxDepth_le_length_encodeAll :
    (ts : List (RoseTree α)) → maxDepth ts ≤ (encodeAll f label ts).length
  | [] => Nat.zero_le _
  | t :: rest => by
    have ht := depth_le_length_encode t
    have hr := maxDepth_le_length_encodeAll rest
    simp only [maxDepth, encodeAll, List.length_append]
    omega

end

end RoseTree

namespace Decoder

variable {α : Type}

theorem reads_treeWithin (f : Format) {d : Decoder α} {label : α → List UInt8}
    {p : α → Prop} (hd : ∀ a, p a → d.Reads (label a) a) {n : Nat} {t : RoseTree α}
    (hn : t.depth ≤ n) (h : t.Fits p) : (treeWithin f d n).Reads (t.encode f label) t := by
  induction n generalizing t with
  | zero =>
    cases t
    rw [RoseTree.depth] at hn
    omega
  | succ n ih =>
    obtain ⟨a, kids⟩ := t
    obtain ⟨ha, hl, hk⟩ := h
    rw [RoseTree.depth] at hn
    have hkids : ∀ t ∈ kids, (treeWithin f d n).Reads (t.encode f label) t := fun t ht =>
      ih (by have := RoseTree.depth_le_of_mem ht; omega) (RoseTree.fits_of_mem hk ht)
    have hr := (reads_list f hl hkids).map (RoseTree.node a)
    rw [RoseTree.encode, RoseTree.encodeAll_eq_flatMap, List.append_assoc]
    exact (hd a ha).bind hr

theorem reads_tree (f : Format) {d : Decoder α} {label : α → List UInt8} {p : α → Prop}
    (hd : ∀ a, p a → d.Reads (label a) a) {t : RoseTree α} (h : t.Fits p) :
    (tree f d).Reads (t.encode f label) t := by
  intro rest
  have hl := t.depth_le_length_encode f label
  refine reads_treeWithin f hd ?_ h rest
  rw [List.length_append]
  omega

end Decoder

mutual

theorem Schema.reads_encode (f : Format) :
    (s : Schema) → (v : s.Val) → s.Fits v → (s.decode f).Reads (s.encode f v) v
  | .unit, v, _ => Decoder.reads_pure v
  | .bool, b, _ => Decoder.reads_bool b
  | .word w, x, _ => f.reads_word w x
  | .binary64, x, _ => by
    have hx : UInt64.toNat x < Nat.pow 256 8 := UInt64.toNat_lt x
    have hr := (reads_littleEndian 8 hx).map UInt64.ofNat
    rwa [UInt64.ofNat_toNat] at hr
  | .char, c, _ => Decoder.reads_char c
  | .text, _, h => Decoder.reads_text f h
  | .option s, none, _ => Decoder.reads_none (s.decode f)
  | .option s, some x, h => Decoder.reads_some (s.reads_encode f x h)
  | .list s, _, h => Decoder.reads_list f h.1 fun x hx => s.reads_encode f x (h.2 x hx)
  | .map s, _, h =>
    Decoder.reads_entries f h.1 fun e he => ⟨(h.2 e he).1, s.reads_encode f e.2 (h.2 e he).2⟩
  | .pair s t, x, h => (s.reads_encode f x.1 h.1).bind ((t.reads_encode f x.2 h.2).map _)
  | .record _ ms, x, h => ms.reads_encodeAll f x h
  | .choice _ ms, x, h => by
    obtain ⟨k, bs, ht, he, hr⟩ := ms.reads_encodeOne f 0 x h
    rw [Schema.encode, he]
    rw [Nat.zero_add] at ht ⊢
    exact (f.reads_tag ht).bind (hr _)
  | .tree _ _ s _, _, h => Decoder.reads_tree f (s.reads_encode f) h

theorem Members.reads_encodeAll (f : Format) :
    (ms : Members) → (x : ms.All) → ms.AllFit x → (ms.decodeAll f).Reads (ms.encodeAll f x) x
  | .nil, x, _ => Decoder.reads_pure x
  | .cons _ s rest, x, h =>
    (s.reads_encode f x.1 h.1).bind ((rest.reads_encodeAll f x.2 h.2).map _)

theorem Members.reads_encodeOne (f : Format) :
    (ms : Members) → (tag : Nat) → (x : ms.One) → ms.OneFits tag x →
      ∃ k bs, tag + k < tagLimit ∧ ms.encodeOne f tag x = f.tag (tag + k) ++ bs ∧
        ∀ e, (ms.decodeOne f k e).Reads bs x
  | .cons _ s _, tag, .inl x, h =>
    ⟨0, s.encode f x, h.1, rfl, fun _ => (s.reads_encode f x h.2).map Sum.inl⟩
  | .cons _ _ rest, tag, .inr x, h => by
    obtain ⟨k, bs, ht, he, hr⟩ := rest.reads_encodeOne f (tag + 1) x h
    rw [Nat.add_right_comm, Nat.add_assoc] at ht he
    exact ⟨k + 1, bs, ht, he, fun e => (hr e).map Sum.inr⟩

end

end ServiceBinding.Wire

namespace ServiceBinding

theorem decodeAs_encodeAs {s : Wire.Schema} {v : s.Val} (h : s.Fits v) :
    decodeAs s (encodeAs s v) = .ok v := by
  have hd := s.reads_encode .fixed v h []
  rw [List.append_nil] at hd
  rw [decodeAs, encodeAs, hd]

end ServiceBinding
