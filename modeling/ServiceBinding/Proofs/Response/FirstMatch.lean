import ServiceBinding.Proofs.Response.WriteOnce

/-!
# The first declared match

An error is stored under the id of the first slot of the table, from slot 1 on, whose
exception type accepts it. Only the positions of such slots count: not their ids, not the gaps
between them, not what stands behind the chosen one. Main statement: that slot decides, and an
exception write on an unfinished response makes one attempt, under the id of that slot, which
settles it whether the attempt succeeds or not.
-/

namespace ServiceBinding

variable {ε : Type}

namespace ResultShape

variable {R R' : ResultShape ε} {e : ε} {i : Nat} {field : FieldSpec ε}

structure MatchAt (R : ResultShape ε) (e : ε) (i : Nat) (field : FieldSpec ε) : Prop where
  pos : 1 ≤ i
  slot : R.table[i]? = some (some field)
  accepts : ∃ type, field.exception? = some type ∧ type.accepts e = true

structure FirstMatch (R : ResultShape ε) (e : ε) (i : Nat) (field : FieldSpec ε) : Prop where
  here : R.MatchAt e i field
  first : ∀ j < i, ∀ other, ¬ R.MatchAt e j other

theorem accepts_iff : field.accepts e = true ↔
    ∃ type, field.exception? = some type ∧ type.accepts e = true := by
  rw [FieldSpec.accepts, Option.any_eq_true]

theorem matchAt_succ_iff : R.MatchAt e (i + 1) field ↔
    (R.table.drop 1)[i]? = some (some field) ∧ field.accepts e = true := by
  rw [List.getElem?_drop, Nat.add_comm 1 i, accepts_iff]
  constructor
  · intro h
    exact ⟨h.slot, h.accepts⟩
  · intro h
    exact ⟨Nat.le_add_left 1 i, h.1, h.2⟩

theorem selectException_eq_find? (R : ResultShape ε) (e : ε) :
    R.selectException e = ((R.table.drop 1).find? (·.any (·.accepts e))).join := by
  rw [selectException, List.reduceOption, List.find?_filterMap]
  rfl

theorem selectException_eq_some_iff :
    R.selectException e = some field ↔ ∃ i, R.FirstMatch e i field := by
  rw [selectException_eq_find?, Option.join_eq_some_iff, List.find?_eq_some_iff_getElem]
  constructor
  · rintro ⟨hacc, i, hi, hslot, hfirst⟩
    refine ⟨i + 1, matchAt_succ_iff.2 ⟨List.getElem?_eq_some_iff.2 ⟨hi, hslot⟩, hacc⟩, ?_⟩
    intro j hj other hother
    obtain ⟨k, rfl⟩ := Nat.exists_eq_add_of_le' hother.pos
    obtain ⟨hk, hacc⟩ := matchAt_succ_iff.1 hother
    obtain ⟨hlt, hk⟩ := List.getElem?_eq_some_iff.1 hk
    have hnot := hfirst k (by omega)
    rw [hk] at hnot
    simp [hacc] at hnot
  · rintro ⟨i, hhere, hfirst⟩
    obtain ⟨k, rfl⟩ := Nat.exists_eq_add_of_le' hhere.pos
    obtain ⟨hk, hacc⟩ := matchAt_succ_iff.1 hhere
    obtain ⟨hlt, hk⟩ := List.getElem?_eq_some_iff.1 hk
    refine ⟨hacc, k, hlt, hk, fun j hj => ?_⟩
    cases hslot : (R.table.drop 1)[j] with
    | none => rfl
    | some other =>
      have hnot := hfirst (j + 1) (by omega) other
      rw [matchAt_succ_iff, not_and] at hnot
      have hj? : (R.table.drop 1)[j]? = some (some other) :=
        List.getElem?_eq_some_iff.2 ⟨by omega, hslot⟩
      simpa using hnot hj?

theorem declares_iff_exists_matchAt : R.Declares e ↔ ∃ i field, R.MatchAt e i field := by
  constructor
  · rintro ⟨field, hmem, hacc⟩
    obtain ⟨i, hi⟩ := List.mem_iff_getElem?.1 hmem
    exact ⟨i + 1, field, matchAt_succ_iff.2 ⟨hi, hacc⟩⟩
  · rintro ⟨i, field, h⟩
    obtain ⟨k, rfl⟩ := Nat.exists_eq_add_of_le' h.pos
    obtain ⟨hk, hacc⟩ := matchAt_succ_iff.1 h
    exact ⟨field, List.mem_iff_getElem?.2 ⟨k, hk⟩, hacc⟩

theorem selectException_congr (h : R'.table.drop 1 = R.table.drop 1) :
    R'.selectException e = R.selectException e := by
  rw [selectException, selectException, h]

theorem selectException_of_insert {front back : List (Option (FieldSpec ε))}
    {slot : Option (FieldSpec ε)} (hfront : front ≠ [])
    (hslot : ∀ f, slot = some f → f.exception? = none) (h : R.table = front ++ back)
    (h' : R'.table = front ++ slot :: back) : R'.selectException e = R.selectException e := by
  obtain ⟨s, front, rfl⟩ := List.exists_cons_of_ne_nil hfront
  have hnone : slot.any (·.accepts e) = false := by
    cases slot with
    | none => rfl
    | some f => simp [FieldSpec.accepts, hslot f rfl]
  rw [selectException_eq_find?, selectException_eq_find?, h, h']
  simp only [List.cons_append, List.drop_succ_cons, List.drop_zero, List.find?_append,
    List.find?_cons, hnone]

theorem FirstMatch.of_take_eq (h : R.FirstMatch e i field)
    (ht : R'.table.take (i + 1) = R.table.take (i + 1)) : R'.FirstMatch e i field := by
  have hslots : ∀ j < i + 1, R'.table[j]? = R.table[j]? := fun j hj => by
    rw [← List.getElem?_take_of_lt hj, ht, List.getElem?_take_of_lt hj]
  constructor
  · exact ⟨h.here.pos, (hslots i (Nat.lt_succ_self i)).trans h.here.slot, h.here.accepts⟩
  · intro j hj other hother
    refine h.first j hj other ⟨hother.pos, ?_, hother.accepts⟩
    rw [← hslots j (by omega), hother.slot]

end ResultShape

inductive FieldKey
  | success
  | exception (id? : Option Int)

structure ResultShape.Reading (R : ResultShape ε) where
  IsSet : R.Container → FieldKey → Prop
  empty : ∀ key, ¬ IsSet R.empty key
  stored : ∀ c id e c', R.setException c id e = (c', .ok ()) →
    ∀ key, IsSet c' key ↔ key = .exception (some id) ∨ IsSet c key

def Union.reading (u : Union ε) : u.shape.Reading where
  IsSet
    | c, .success => (u.success? c).isSome
    | c, .exception id? => id? ∈ u.raised c
  empty
    | .success => by simp [u.success?_empty]
    | .exception id? => by simp [u.raised_empty]
  stored c id e c' h key := by
    cases key with
    | success => simp [success?_setException_eq h]
    | exception id? => simp [mem_raised_setException h]

/-- The shape, with a container that also keeps the ids under which an error was tried. -/
@[reducible] def ResultShape.watched (R : ResultShape ε) : ResultShape ε where
  name := R.name
  schema := .pair R.schema (.list .i16)
  success := R.success
  table := R.table
  empty := (R.empty, [])
  setSuccess c v := (R.setSuccess c.1 v, c.2)
  setException c id e :=
    (((R.setException c.1 id e).1, c.2 ++ [Int16.ofInt id]), (R.setException c.1 id e).2)

namespace Response

variable {R : ResultShape ε} {e : ε} {i : Nat} {field : FieldSpec ε}

def watched (r : Response R) (tried : List Int16) : Response R.watched :=
  ⟨r.headers, (r.result, tried), r.finished, r.code⟩

variable [Throwable ε]

theorem writeException_of_firstMatch {r : Response R} (hr : r.finished = false)
    (h : R.FirstMatch e i field) :
    r.writeException e =
      match R.setException r.result field.id e with
      | (c, .ok ()) => ({ r with result := c, code := .error, finished := true }, .ok ())
      | (c, .error e') => ({ r with result := c }, .error e') := by
  have hs : R.selectException e = some field := ResultShape.selectException_eq_some_iff.2 ⟨i, h⟩
  have hn : ¬ r.finished = true := by rw [hr]; exact Bool.false_ne_true
  rcases hc : R.setException r.result field.id e with ⟨c, _ | _⟩
  · simp only [writeException, hs, if_neg hn, hc]
  · simp only [writeException, hs, if_neg hn, hc]

theorem writeException_watched {r : Response R} (hr : r.finished = false)
    (h : R.FirstMatch e i field) (tried : List Int16) :
    (r.watched tried).writeException e =
      ((r.writeException e).1.watched (tried ++ [.ofInt field.id]), (r.writeException e).2) := by
  have hw : R.watched.FirstMatch e i field :=
    ⟨⟨h.here.pos, h.here.slot, h.here.accepts⟩,
      fun j hj f hf => h.first j hj f ⟨hf.pos, hf.slot, hf.accepts⟩⟩
  rw [writeException_of_firstMatch (r := r.watched tried) hr hw, writeException_of_firstMatch hr h]
  simp only [watched]
  rcases R.setException r.result field.id e with ⟨c, _ | _⟩ <;> rfl

theorem result_run_of_not_finished (hR : R.Conservative) {ops : List (Operation R)}
    (h : ((fresh : Response R).run ops).finished = false) :
    ((fresh : Response R).run ops).result = R.empty := by
  rcases run_fresh_cases hR ops with ⟨-, ho⟩ | ⟨op, r, -, ht, ho⟩
  · exact (outcome_eq_iff.1 ho).2.2
  · have hf := (outcome_eq_iff.1 ho).1
    rw [h, ht.finished.2] at hf
    cases hf

/-- Of all slots from 1 on the first one with an exception type that accepts the error is
selected, whatever stands in slot 0, in gaps and behind it. An exception write tries that
slot's id and no other: an error that fits sets the field of the id, one that does not is
answered and changes nothing. -/
theorem first_match_decides (R : ResultShape ε) (e : ε) :
    (∀ field, R.selectException e = some field ↔ ∃ i, R.FirstMatch e i field) ∧
    (R.selectException e = none ↔ ∀ i field, ¬ R.MatchAt e i field) ∧
    (∀ R' : ResultShape ε,
      (R'.table.drop 1 = R.table.drop 1 → R'.selectException e = R.selectException e) ∧
      (∀ front slot back, front ≠ [] → (∀ f, slot = some f → f.exception? = none) →
        R.table = front ++ back → R'.table = front ++ slot :: back →
        R'.selectException e = R.selectException e) ∧
      ∀ i field, R.FirstMatch e i field → R'.table.take (i + 1) = R.table.take (i + 1) →
        R'.selectException e = some field) ∧
    ∀ (F : R.Reading), R.Conservative → ∀ (r : Response R) i field,
      r.finished = false → R.FirstMatch e i field →
      (r.watched []).writeException e =
        ((r.writeException e).1.watched [.ofInt field.id], (r.writeException e).2) ∧
      (∀ c, R.setException r.result field.id e = (c, .ok ()) →
        r.writeException e =
          ({ r with result := c, code := .error, finished := true }, .ok ()) ∧
        (∀ key, F.IsSet c key ↔ key = .exception (some field.id) ∨ F.IsSet r.result key) ∧
        ∀ ops, r = fresh.run ops → ∀ key, F.IsSet c key ↔ key = .exception (some field.id)) ∧
      ∀ e', (R.setException r.result field.id e).2 = .error e' →
        r.writeException e = (r, .error e') := by
  refine ⟨fun field => ResultShape.selectException_eq_some_iff, ?_, fun R' => ⟨?_, ?_, ?_⟩, ?_⟩
  · rw [ResultShape.selectException_eq_none_iff, ResultShape.declares_iff_exists_matchAt]
    simp only [not_exists]
  · exact ResultShape.selectException_congr
  · intro front slot back hfront hslot h h'
    exact ResultShape.selectException_of_insert hfront hslot h h'
  · intro i field h ht
    exact ResultShape.selectException_eq_some_iff.2 ⟨i, h.of_take_eq ht⟩
  · intro F hR r i field hr h
    have hw := writeException_of_firstMatch hr h
    refine ⟨writeException_watched hr h [], fun c hc => ⟨?_, F.stored _ _ _ _ hc, ?_⟩, ?_⟩
    · rw [hw, hc]
    · rintro ops rfl key
      rw [F.stored _ _ _ _ hc, result_run_of_not_finished hR hr]
      exact or_iff_left (F.empty key)
    · intro e' he'
      have hc : R.setException r.result field.id e = (r.result, .error e') :=
        Prod.ext (hR _ _ _ _ he') he'
      rw [hw, hc]

-- the family in slot 1 is before the exact type in slot 2, and the strict field takes no boom
theorem first_match_decides_race :
    let R := Sample.raceResult
    let e : Sample.Thrown := .timeout 5
    let field : FieldSpec Sample.Thrown := .exception 5 "any" Sample.Types.network
    let spread : ResultShape Sample.Thrown :=
      { R with table := R.table.take 1 ++ none :: R.table.drop 1 }
    let short : ResultShape Sample.Thrown := { R with table := R.table.take 2 }
    let c : R.Container := (none, some "timeout after 5ms", none, none, ())
    let P := Sample.pickyResult
    let boom : Sample.Thrown := .boom "disk"
    R.FirstMatch e 1 field ∧ R.Conservative ∧ (fresh : Response R) = fresh.run [] ∧
      R.setException R.empty field.id e = (c, .ok ()) ∧
      spread.selectException e = R.selectException e ∧ short.selectException e = some field ∧
      (fresh : Response R).writeException e = (⟨.empty, c, true, .error⟩, .ok ()) ∧
      ((fresh : Response R).watched []).writeException e =
        (⟨.empty, (c, [5]), true, .error⟩, .ok ()) ∧
      P.FirstMatch boom 1 (.exception 1 "strict" Sample.Types.strict) ∧
      (P.setException P.empty 1 boom).2 = .error boom ∧
      (fresh : Response P).writeException boom = (fresh, .error boom) := by
  intro R e field spread short c P boom
  have hR : R.Conservative := Union.conservative (.valued _ _ _ _ _ _ _)
  have hP : P.Conservative := Union.conservative (.valued _ _ _ _ _ _ _)
  have hfirst : R.FirstMatch e 1 field :=
    ⟨⟨Nat.le_refl 1, rfl, Sample.Types.network, rfl, rfl⟩,
      fun j hj _ ho => absurd ho.pos (by omega)⟩
  have hstrict : P.FirstMatch boom 1 (.exception 1 "strict" Sample.Types.strict) :=
    ⟨⟨Nat.le_refl 1, rfl, Sample.Types.strict, rfl, rfl⟩,
      fun j hj _ ho => absurd ho.pos (by omega)⟩
  have hc : R.setException R.empty field.id e = (c, .ok ()) := rfl
  have hb : (P.setException P.empty 1 boom).2 = .error boom := rfl
  obtain ⟨-, -, htable, hwrite⟩ := first_match_decides R e
  obtain ⟨hwatched, htaken, -⟩ :=
    hwrite (Union.reading (.valued _ _ _ _ _ _ _)) hR fresh 1 field rfl hfirst
  obtain ⟨-, -, -, hpicky⟩ := first_match_decides P boom
  obtain ⟨-, -, hrefused⟩ :=
    hpicky (Union.reading (.valued _ _ _ _ _ _ _)) hP fresh 1 _ rfl hstrict
  have hspread := (htable spread).2.1 (R.table.take 1) none (R.table.drop 1) (by decide)
    nofun (List.take_append_drop 1 R.table).symm rfl
  rw [(htaken c hc).1] at hwatched
  exact ⟨hfirst, hR, rfl, hc, hspread, (htable short).2.2 1 field hfirst rfl, (htaken c hc).1,
    hwatched, hstrict, hb, hrefused boom hb⟩

end Response

end ServiceBinding
