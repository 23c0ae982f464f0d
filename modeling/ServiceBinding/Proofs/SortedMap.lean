import ServiceBinding.SortedMap

/-!
# Maps rebuilt from their entries

Inserting ascending entries one after the other only ever appends. Main statements: a map is
what its own entries build, so that overriding the empty map by a map gives that map; of the
values inserted under one key the last one stays; and two maps with the same lookups are the
same.
-/

universe u

namespace ServiceBinding.SortedMap

variable {α : Type u}

theorem place_of_forall_lt {key : String} {value : α} {xs : List (String × α)}
    (h : ∀ e ∈ xs, e.1 < key) : place key value xs = xs ++ [(key, value)] := by
  induction xs with
  | nil => rfl
  | cons x rest ih =>
    have hx : x.1 < key := h x List.mem_cons_self
    have hlt : ¬ key < x.1 := fun hk => String.lt_irrefl key (String.lt_trans hk hx)
    have hne : key ≠ x.1 := fun hk => String.lt_irrefl key (hk ▸ hx)
    have hr : ∀ e ∈ rest, e.1 < key := fun e he => h e (List.mem_cons_of_mem _ he)
    simp only [place, if_neg hlt, if_neg hne, ih hr, List.cons_append]

theorem entries_insertAll {m : SortedMap α} {xs : List (String × α)}
    (h : (m.entries ++ xs).Pairwise fun a b => a.1 < b.1) :
    (m.insertAll xs).entries = m.entries ++ xs := by
  induction xs generalizing m with
  | nil => simp [insertAll]
  | cons x rest ih =>
    have hm : ∀ e ∈ m.entries, e.1 < x.1 := fun e he =>
      (List.pairwise_append.1 h).2.2 e he x List.mem_cons_self
    have hi : (m.insert x.1 x.2).entries = m.entries ++ [x] := place_of_forall_lt hm
    have hp : ((m.insert x.1 x.2).entries ++ rest).Pairwise fun a b => a.1 < b.1 := by
      simpa [hi] using h
    have hr : (m.insertAll (x :: rest)).entries = ((m.insert x.1 x.2).insertAll rest).entries :=
      rfl
    rw [hr, ih hp, hi, List.append_assoc]
    rfl

theorem entries_ofList {xs : List (String × α)} (h : xs.Pairwise fun a b => a.1 < b.1) :
    (ofList xs).entries = xs := entries_insertAll (m := empty) h

theorem ofList_entries (m : SortedMap α) : ofList m.entries = m :=
  ext_entries (entries_ofList m.ascending)

@[simp] theorem empty_extend (m : SortedMap α) : empty.extend m = m := ofList_entries m

theorem lookup_eq_some_iff {xs : List (String × α)} (h : xs.Pairwise fun a b => a.1 < b.1)
    {key : String} {value : α} : lookup key xs = some value ↔ (key, value) ∈ xs := by
  induction xs with
  | nil => simp [lookup]
  | cons x rest ih =>
    obtain ⟨hx, hrest⟩ := List.pairwise_cons.1 h
    rw [lookup, List.mem_cons]
    by_cases hk : key = x.1
    · have hout : (key, value) ∉ rest := fun he => by
        have hlt : x.1 < key := hx (key, value) he
        rw [hk] at hlt
        exact String.lt_irrefl x.1 hlt
      rw [if_pos hk, Option.some.injEq, or_iff_left hout, Prod.ext_iff]
      exact ⟨fun hv => ⟨hk, hv.symm⟩, fun hv => hv.2.symm⟩
    · have hne : (key, value) ≠ x := fun he => hk (congrArg Prod.fst he)
      rw [if_neg hk, ih hrest, or_iff_right hne]

theorem get?_eq_some_iff {m : SortedMap α} {key : String} {value : α} :
    m.get? key = some value ↔ (key, value) ∈ m.entries := lookup_eq_some_iff m.ascending

theorem mem_keys_iff {m : SortedMap α} {key : String} :
    key ∈ m.keys ↔ ∃ value, m.get? key = some value := by
  simp only [keys, List.mem_map, get?_eq_some_iff]
  constructor
  · rintro ⟨e, he, rfl⟩
    exact ⟨e.2, he⟩
  · rintro ⟨value, he⟩
    exact ⟨(key, value), he, rfl⟩

theorem keys_ascending (m : SortedMap α) : m.keys.Pairwise (· < ·) :=
  List.pairwise_map.2 m.ascending

theorem entries_nodup (m : SortedMap α) : m.entries.Nodup := by
  refine List.Pairwise.imp ?_ m.ascending
  intro a b hab he
  subst he
  exact String.lt_irrefl a.1 hab

theorem ext_get? {m n : SortedMap α} (h : ∀ key, m.get? key = n.get? key) : m = n := by
  have hmem : ∀ e, e ∈ m.entries ↔ e ∈ n.entries := fun e => by
    have hm : m.get? e.1 = some e.2 ↔ e ∈ m.entries := get?_eq_some_iff
    have hn : n.get? e.1 = some e.2 ↔ e ∈ n.entries := get?_eq_some_iff
    rw [← hm, ← hn, h]
  have hperm := (List.perm_ext_iff_of_nodup m.entries_nodup n.entries_nodup).2 hmem
  refine ext_entries (hperm.eq_of_pairwise (fun a b _ _ hab hba => ?_) m.ascending n.ascending)
  exact absurd (String.lt_trans hab hba) (String.lt_irrefl a.1)

theorem insert_comm {key other : String} (h : key ≠ other) (m : SortedMap α) (v w : α) :
    (m.insert key v).insert other w = (m.insert other w).insert key v := by
  refine ext_get? fun k => ?_
  simp only [get?_insert]
  by_cases hk : k = key
  · have hko : k ≠ other := fun ho => h (hk.symm.trans ho)
    rw [if_neg hko, if_pos hk, if_pos hk]
  · rw [if_neg hk, if_neg hk]

theorem mem_insertAll {m : SortedMap α} {xs : List (String × α)} {e : String × α}
    (h : e ∈ (m.insertAll xs).entries) : e ∈ xs ∨ e ∈ m.entries := by
  induction xs generalizing m with
  | nil => exact .inr h
  | cons x rest ih =>
    rcases ih (m := m.insert x.1 x.2) h with hrest | hplaced
    · exact .inl (List.mem_cons_of_mem _ hrest)
    · rcases mem_place hplaced with rfl | hold
      · exact .inl List.mem_cons_self
      · exact .inr hold

theorem lookup_eq_none_of_lt {key : String} {xs : List (String × α)} (h : ∀ e ∈ xs, key < e.1) :
    lookup key xs = none := by
  induction xs with
  | nil => rfl
  | cons x rest ih =>
    have hne : key ≠ x.1 := fun hk => String.lt_irrefl x.1 (hk ▸ h x List.mem_cons_self)
    rw [lookup, if_neg hne, ih fun e he => h e (List.mem_cons_of_mem _ he)]

theorem length_place {key : String} {value : α} {xs : List (String × α)}
    (h : xs.Pairwise fun a b => a.1 < b.1) :
    (place key value xs).length =
      if (lookup key xs).isSome then xs.length else xs.length + 1 := by
  induction xs with
  | nil => rfl
  | cons x rest ih =>
    obtain ⟨hx, hrest⟩ := List.pairwise_cons.1 h
    by_cases hlt : key < x.1
    · have hall : ∀ e ∈ x :: rest, key < e.1 :=
        List.forall_mem_cons.2 ⟨hlt, fun e he => String.lt_trans hlt (hx e he)⟩
      have hnone : lookup key (x :: rest) = none := lookup_eq_none_of_lt hall
      rw [place, if_pos hlt, hnone]
      rfl
    · by_cases heq : key = x.1
      · rw [place, if_neg hlt, if_pos heq, lookup, if_pos heq]
        rfl
      · rw [place, if_neg hlt, if_neg heq, lookup, if_neg heq, List.length_cons, ih hrest]
        split <;> rfl

theorem size_insert (m : SortedMap α) (key : String) (value : α) :
    (m.insert key value).size = if m.contains key then m.size else m.size + 1 :=
  length_place m.ascending

theorem size_insertAll_le (m : SortedMap α) (xs : List (String × α)) :
    (m.insertAll xs).size ≤ m.size + xs.length := by
  induction xs generalizing m with
  | nil => exact Nat.le_refl _
  | cons x rest ih =>
    have hplace : (m.insert x.1 x.2).size ≤ m.size + 1 := by
      rw [size_insert]
      split <;> omega
    have hrest : (m.insertAll (x :: rest)).size ≤ (m.insert x.1 x.2).size + rest.length := ih _
    rw [List.length_cons]
    omega

theorem size_ofList_le (xs : List (String × α)) : (ofList xs).size ≤ xs.length := by
  have h := size_insertAll_le (empty : SortedMap α) xs
  rwa [show (empty : SortedMap α).size = 0 from rfl, Nat.zero_add] at h

def lastValue? (key : String) (xs : List (String × α)) : Option α :=
  (xs.filter (·.1 = key)).getLast?.map Prod.snd

theorem lastValue?_cons (key : String) (x : String × α) (xs : List (String × α)) :
    lastValue? key (x :: xs) =
      (lastValue? key xs).or (if x.1 = key then some x.2 else none) := by
  simp only [lastValue?, List.filter_cons, decide_eq_true_eq]
  split
  · rw [List.getLast?_cons]
    cases (xs.filter (·.1 = key)).getLast? <;> rfl
  · rw [Option.or_none]

theorem lastValue?_eq_none_iff {key : String} {xs : List (String × α)} :
    lastValue? key xs = none ↔ ∀ value, (key, value) ∉ xs := by
  rw [lastValue?, Option.map_eq_none_iff, List.getLast?_eq_none_iff, List.filter_eq_nil_iff]
  constructor
  · intro h value hv
    exact h (key, value) hv (decide_eq_true rfl)
  · intro h x hx hk
    exact h x.2 (of_decide_eq_true hk ▸ hx)

theorem get?_insertAll (m : SortedMap α) (xs : List (String × α)) (key : String) :
    (m.insertAll xs).get? key = (lastValue? key xs).or (m.get? key) := by
  induction xs generalizing m with
  | nil => rfl
  | cons x xs ih =>
    have hcons : m.insertAll (x :: xs) = (m.insert x.1 x.2).insertAll xs := rfl
    rw [hcons, ih, get?_insert, lastValue?_cons, Option.or_assoc]
    by_cases hk : key = x.1
    · rw [if_pos hk, if_pos hk.symm, Option.some_or]
    · rw [if_neg hk, if_neg (Ne.symm hk), Option.none_or]

theorem get?_ofList (xs : List (String × α)) (key : String) :
    (ofList xs).get? key = lastValue? key xs := by
  rw [ofList, get?_insertAll, get?_empty, Option.or_none]

theorem get?_extend (m n : SortedMap α) (key : String) :
    (m.extend n).get? key = (n.get? key).or (m.get? key) := by
  have hn : lastValue? key n.entries = n.get? key := by rw [← get?_ofList, ofList_entries]
  rw [extend, get?_insertAll, hn]

end ServiceBinding.SortedMap
