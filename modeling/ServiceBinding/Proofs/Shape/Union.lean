import ServiceBinding.Sample.Shapes

/-!
# What result unions hold

A description of a union, its shape, and the two things that can be read back from its
container: the success value and the ids of the exception fields that are set. Main
statements: a fresh container holds nothing, storing a success value sets the success field
alone, storing an error under an id sets one field of that id alone, and a refused error
leaves the container as it was. Every sample shape has such a description.
-/

namespace ServiceBinding

open Wire (Schema)

variable {ε : Type}

namespace ExceptionField

def setIds : (fs : List (ExceptionField ε)) → (members fs).All → List (Option Int)
  | [], _ => []
  | f :: rest, (some _, c) => f.id? :: setIds rest c
  | _ :: rest, (none, c) => setIds rest c

theorem setIds_unset (fs : List (ExceptionField ε)) : setIds fs (unset fs) = [] := by
  induction fs with
  | nil => rfl
  | cons f rest ih => exact ih

theorem setIds_storeUnder {id : Int} {e : ε} {fs : List (ExceptionField ε)}
    {c : (members fs).All} (h : storeUnder id e fs (unset fs) = some c) :
    setIds fs c = [some id] := by
  induction fs with
  | nil => cases h
  | cons f rest ih =>
    by_cases hid : f.id? = some id
    · rw [storeUnder, if_pos hid] at h
      obtain ⟨v, -, rfl⟩ := Option.map_eq_some_iff.1 h
      simp only [setIds, unset, hid, setIds_unset]
    · rw [storeUnder, if_neg hid] at h
      obtain ⟨c', hc, rfl⟩ := Option.map_eq_some_iff.1 h
      exact ih hc

theorem mem_setIds_storeUnder {id : Int} {e : ε} {fs : List (ExceptionField ε)}
    {c c' : (members fs).All} (h : storeUnder id e fs c = some c') (key : Option Int) :
    key ∈ setIds fs c' ↔ key = some id ∨ key ∈ setIds fs c := by
  induction fs with
  | nil => cases h
  | cons f rest ih =>
    obtain ⟨x?, c⟩ := c
    by_cases hid : f.id? = some id
    · rw [storeUnder, if_pos hid] at h
      obtain ⟨v, -, rfl⟩ := Option.map_eq_some_iff.1 h
      cases x? <;> simp [setIds, hid]
    · rw [storeUnder, if_neg hid] at h
      obtain ⟨back, hback, rfl⟩ := Option.map_eq_some_iff.1 h
      have hrest := ih hback
      cases x? with
      | none => exact hrest
      | some x =>
        simp only [setIds, List.mem_cons, hrest]
        exact or_left_comm

theorem storeUnder_of_assign {other : ε → ε} {fs : List (ExceptionField ε)} {id : Int} {e : ε}
    {c c' : (members fs).All} (h : assign other fs c id e = (c', .ok ())) :
    storeUnder id e fs c = some c' := by
  simp only [assign] at h
  split at h
  · split at h
    · next hc =>
      cases h
      exact hc
    · cases h
  · cases h

theorem setIds_assign {other : ε → ε} {fs : List (ExceptionField ε)} {id : Int} {e : ε}
    {c : (members fs).All} (h : assign other fs (unset fs) id e = (c, .ok ())) :
    setIds fs c = [some id] := setIds_storeUnder (storeUnder_of_assign h)

theorem assign_of_error {other : ε → ε} {fs : List (ExceptionField ε)} {id : Int} {e e' : ε}
    {c : (members fs).All} (h : (assign other fs c id e).2 = .error e') :
    (assign other fs c id e).1 = c := by
  simp only [assign] at h ⊢
  repeat' split
  · next c' hc => simp_all
  · rfl
  · rfl

end ExceptionField

open ExceptionField

/-- What a result union is made from. A void union has no success slot. -/
inductive Union (ε : Type)
  | valued (name typeName successName : String) (success : Schema)
    (fields : List (ExceptionField ε)) (table : List (Option (FieldSpec ε))) (other : ε → ε)
  | void (name typeName : String) (fields : List (ExceptionField ε))
    (table : List (Option (FieldSpec ε))) (other : ε → ε) (slotless : table.head?.join = none)

namespace Union

@[reducible] def shape : Union ε → ResultShape ε
  | valued name typeName successName success fields table other =>
    .valued name typeName successName success fields table other
  | void name typeName fields table other _ => .void name typeName fields table other

def success? : (u : Union ε) → u.shape.Container → Option u.shape.Success
  | valued .., c => c.1
  | void .., _ => none

def raised : (u : Union ε) → u.shape.Container → List (Option Int)
  | valued _ _ _ _ fields _ _, c => setIds fields c.2
  | void _ _ fields _ _ _, c => setIds fields c

theorem success?_empty (u : Union ε) : u.success? u.shape.empty = none := by
  cases u <;> rfl

theorem raised_empty (u : Union ε) : u.raised u.shape.empty = [] := by
  cases u <;> exact setIds_unset _

theorem success?_setSuccess {u : Union ε} (h : u.shape.successField ≠ none)
    (v : u.shape.Success) : u.success? (u.shape.setSuccess u.shape.empty v) = some v := by
  cases u with
  | valued => rfl
  | void _ _ _ _ _ slotless => exact absurd slotless h

theorem raised_setSuccess (u : Union ε) (v : u.shape.Success) :
    u.raised (u.shape.setSuccess u.shape.empty v) = [] := by
  cases u <;> exact setIds_unset _

theorem success?_setException_eq {u : Union ε} {id : Int} {e : ε} {c c' : u.shape.Container}
    (h : u.shape.setException c id e = (c', .ok ())) : u.success? c' = u.success? c := by
  cases u with
  | valued =>
    obtain ⟨hc, -⟩ := Prod.mk.inj h
    cases hc
    rfl
  | void => rfl

theorem success?_setException {u : Union ε} {id : Int} {e : ε} {c : u.shape.Container}
    (h : u.shape.setException u.shape.empty id e = (c, .ok ())) : u.success? c = none :=
  (success?_setException_eq h).trans u.success?_empty

theorem mem_raised_setException {u : Union ε} {id : Int} {e : ε} {c c' : u.shape.Container}
    (h : u.shape.setException c id e = (c', .ok ())) (key : Option Int) :
    key ∈ u.raised c' ↔ key = some id ∨ key ∈ u.raised c := by
  cases u with
  | valued _ _ _ _ fields _ other =>
    obtain ⟨hc, ho⟩ := Prod.mk.inj h
    have ha : assign other fields c.2 id e = (c'.2, .ok ()) :=
      Prod.ext (congrArg Prod.snd hc) ho
    exact mem_setIds_storeUnder (storeUnder_of_assign ha) key
  | void => exact mem_setIds_storeUnder (storeUnder_of_assign h) key

theorem raised_setException {u : Union ε} {id : Int} {e : ε} {c : u.shape.Container}
    (h : u.shape.setException u.shape.empty id e = (c, .ok ())) : u.raised c = [some id] := by
  cases u with
  | valued _ _ _ _ fields _ other =>
    obtain ⟨hc, ho⟩ := Prod.mk.inj h
    have ha : assign other fields (unset fields) id e = (c.2, .ok ()) :=
      Prod.ext (congrArg Prod.snd hc) ho
    exact setIds_assign ha
  | void => exact setIds_assign h

theorem conservative (u : Union ε) : u.shape.Conservative := by
  intro c id e e' h
  cases u with
  | valued => exact Prod.ext rfl (assign_of_error h)
  | void => exact assign_of_error h

end Union

theorem Sample.exists_union {name : String} {s : Sample.Shape}
    (h : (name, s) ∈ Sample.shapes) : ∃ u : Union Sample.Thrown, s.result = u.shape := by
  simp only [Sample.shapes, List.mem_cons, Prod.mk.injEq, List.not_mem_nil, or_false] at h
  rcases h with ⟨-, rfl⟩ | ⟨-, rfl⟩ | ⟨-, rfl⟩ | ⟨-, rfl⟩ | ⟨-, rfl⟩ | ⟨-, rfl⟩ | ⟨-, rfl⟩ |
    ⟨-, rfl⟩ | ⟨-, rfl⟩ | ⟨-, rfl⟩ | ⟨-, rfl⟩ | ⟨-, rfl⟩ | ⟨-, rfl⟩ | ⟨-, rfl⟩
  -- `ping`, `connect` and `vmeta` are void
  case inr.inr.inl => exact ⟨.void _ _ _ _ _ rfl, rfl⟩
  case inr.inr.inr.inl => exact ⟨.void _ _ _ _ _ rfl, rfl⟩
  case inr.inr.inr.inr.inr.inr.inr.inr.inr.inl => exact ⟨.void _ _ _ _ _ rfl, rfl⟩
  all_goals exact ⟨.valued _ _ _ _ _ _ _, rfl⟩

end ServiceBinding
