/-!
# Maps with text keys in ascending order

A map is the list of its entries, strictly ascending in the key, so that two maps which
agree at every key are the same list. Text is compared by code points, which is also the
order of its UTF-8 bytes. Main statements: insertion overwrites at one key and leaves
every other key alone, and a map is determined by its lookups.
-/

universe u

namespace ServiceBinding

structure SortedMap (α : Type u) where
  entries : List (String × α)
  ascending : entries.Pairwise (fun a b => a.1 < b.1)

namespace SortedMap

variable {α : Type u}

theorem ext_entries {m n : SortedMap α} (h : m.entries = n.entries) : m = n := by
  cases m; cases n; cases h; rfl

def empty : SortedMap α := ⟨[], .nil⟩

instance : Inhabited (SortedMap α) := ⟨empty⟩

instance [DecidableEq α] : DecidableEq (SortedMap α) := fun m n =>
  if h : m.entries = n.entries then .isTrue (ext_entries h)
  else .isFalse fun e => h (congrArg entries e)

def lookup (key : String) : List (String × α) → Option α
  | [] => none
  | (k, v) :: rest => if key = k then some v else lookup key rest

def get? (m : SortedMap α) (key : String) : Option α := lookup key m.entries

def contains (m : SortedMap α) (key : String) : Bool := (m.get? key).isSome

def keys (m : SortedMap α) : List String := m.entries.map Prod.fst

def size (m : SortedMap α) : Nat := m.entries.length

def place (key : String) (value : α) : List (String × α) → List (String × α)
  | [] => [(key, value)]
  | (k, v) :: rest =>
    if key < k then (key, value) :: (k, v) :: rest
    else if key = k then (key, value) :: rest
    else (k, v) :: place key value rest

theorem mem_place {key : String} {value : α} {e : String × α} {xs : List (String × α)}
    (h : e ∈ place key value xs) : e = (key, value) ∨ e ∈ xs := by
  induction xs with
  | nil => simpa [place] using h
  | cons x rest ih =>
    simp only [place] at h
    split at h
    · simpa using h
    · split at h
      · rcases List.mem_cons.1 h with h | h
        · exact .inl h
        · exact .inr (List.mem_cons_of_mem _ h)
      · rcases List.mem_cons.1 h with h | h
        · exact .inr (h ▸ List.mem_cons_self)
        · exact (ih h).imp id (List.mem_cons_of_mem _)

theorem lt_of_not_lt_of_ne {a b : String} (h : ¬ a < b) (hne : a ≠ b) : b < a :=
  Std.lt_of_le_of_ne (String.not_lt.1 h) (Ne.symm hne)

theorem ascending_place {key : String} {value : α} {xs : List (String × α)}
    (h : xs.Pairwise (fun a b => a.1 < b.1)) :
    (place key value xs).Pairwise (fun a b => a.1 < b.1) := by
  induction xs with
  | nil => simp [place]
  | cons x rest ih =>
    have hx := List.pairwise_cons.1 h
    simp only [place]
    split
    · next lt =>
      refine List.pairwise_cons.2 ⟨fun e he => ?_, h⟩
      rcases List.mem_cons.1 he with rfl | he
      · exact lt
      · exact String.lt_trans lt (hx.1 e he)
    · next nlt =>
      split
      · next eq => subst eq; exact List.pairwise_cons.2 hx
      · next ne =>
        refine List.pairwise_cons.2 ⟨fun e he => ?_, ih hx.2⟩
        rcases mem_place he with rfl | he
        · exact lt_of_not_lt_of_ne nlt ne
        · exact hx.1 e he

def insert (m : SortedMap α) (key : String) (value : α) : SortedMap α :=
  ⟨place key value m.entries, ascending_place m.ascending⟩

/-- Inserts from left to right, so the last value of a key stays. -/
def insertAll (m : SortedMap α) (xs : List (String × α)) : SortedMap α :=
  xs.foldl (fun m e => m.insert e.1 e.2) m

def ofList (xs : List (String × α)) : SortedMap α := empty.insertAll xs

def extend (m n : SortedMap α) : SortedMap α := m.insertAll n.entries

theorem lookup_place (key : String) (value : α) (k : String) (xs : List (String × α)) :
    lookup k (place key value xs) = if k = key then some value else lookup k xs := by
  induction xs with
  | nil => rfl
  | cons x rest ih =>
    simp only [place]
    split
    · rfl
    · split
      · next eq =>
        by_cases hk : k = key
        · simp [lookup, hk]
        · simp [lookup, hk, ← eq]
      · next ne =>
        by_cases hk : k = x.1
        · simp [lookup, hk, Ne.symm ne]
        · simp [lookup, hk, ih]

@[simp] theorem get?_empty (k : String) : (empty : SortedMap α).get? k = none := rfl

@[simp] theorem get?_insert (m : SortedMap α) (key : String) (value : α) (k : String) :
    (m.insert key value).get? k = if k = key then some value else m.get? k :=
  lookup_place key value k m.entries

end SortedMap

end ServiceBinding
