import ServiceBinding.Proofs.Response.Operations
import ServiceBinding.Proofs.Shape.Union

/-!
# A response is written once

Runs of operations on a response, where nobody looks at what the operations answer. An
unfinished response in a run still has the container and the code of a fresh one, so that a
write is taken or refused there as it would be first of all. Main statement: of the writes
in a run exactly the first that a fresh response would take is taken, and it alone decides
how the response ends.
-/

namespace ServiceBinding.Response

variable {ε : Type} {R : ResultShape ε} [Throwable ε]

open Operation (lastHeader? Taken Refused)

def run (r : Response R) (ops : List (Operation R)) : Response R :=
  ops.foldl (fun r op => (op.apply r).1) r

@[simp] theorem run_nil (r : Response R) : r.run [] = r := rfl

@[simp] theorem run_cons (r : Response R) (op : Operation R) (ops : List (Operation R)) :
    r.run (op :: ops) = (op.apply r).1.run ops := rfl

theorem run_append (r : Response R) (ops more : List (Operation R)) :
    r.run (ops ++ more) = (r.run ops).run more := List.foldl_append

def firstAccepted? (r : Response R) : List (Operation R) → Option (Operation R)
  | [] => none
  | op :: ops => if op.accepted r then some op else (op.apply r).1.firstAccepted? ops

theorem run_outcome_of_finished {r : Response R} (h : r.finished = true)
    (ops : List (Operation R)) : (r.run ops).outcome = r.outcome := by
  induction ops generalizing r with
  | nil => rfl
  | cons op ops ih =>
    have ho := Operation.outcome_apply_of_finished h op
    have hf : (op.apply r).1.finished = true := (outcome_eq_iff.1 ho).1.trans h
    rw [run_cons, ih hf, ho]

def outcomeAlone (op? : Option (Operation R)) : Bool × StatusCode × R.Container :=
  match op? with
  | some op => (op.apply fresh).1.outcome
  | none => (false, .ok, R.empty)

theorem run_outcome (hR : R.Conservative) {r : Response R}
    (h : r.outcome = (fresh : Response R).outcome) (ops : List (Operation R)) :
    (r.run ops).outcome = outcomeAlone (ops.find? (·.acceptedAlone)) := by
  induction ops generalizing r with
  | nil => exact h
  | cons op ops ih =>
    have hc := Operation.accepted_congr h op
    rw [run_cons, List.find?_cons]
    cases ha : op.acceptedAlone with
    | false =>
      have ho := Operation.outcome_of_not_accepted hR (hc.trans ha)
      exact ih (ho.trans h)
    | true =>
      obtain ⟨r', ht⟩ := Operation.accepted_iff.1 (hc.trans ha)
      obtain ⟨s', hs, he⟩ := ht.congr h
      rw [Operation.apply_of_taken ht, run_outcome_of_finished ht.finished.2]
      simp only [outcomeAlone, Operation.apply_of_taken hs, he]

theorem firstAccepted?_eq_find? (hR : R.Conservative) {r : Response R}
    (h : r.outcome = (fresh : Response R).outcome) (ops : List (Operation R)) :
    r.firstAccepted? ops = ops.find? (·.acceptedAlone) := by
  induction ops generalizing r with
  | nil => rfl
  | cons op ops ih =>
    have hc : op.accepted r = op.acceptedAlone := Operation.accepted_congr h op
    rw [firstAccepted?, List.find?_cons, hc]
    cases ha : op.acceptedAlone with
    | false =>
      have ho := Operation.outcome_of_not_accepted hR (hc.trans ha)
      exact ih (ho.trans h)
    | true => rfl

theorem run_fresh_cases (hR : R.Conservative) (ops : List (Operation R)) :
    (fresh.firstAccepted? ops = none ∧
      (fresh.run ops).outcome = (fresh : Response R).outcome) ∨
      ∃ op r, fresh.firstAccepted? ops = some op ∧ Taken fresh op r ∧
        (fresh.run ops).outcome = r.outcome := by
  have ho := run_outcome hR (r := fresh) rfl ops
  rw [firstAccepted?_eq_find? hR rfl]
  cases hw : ops.find? (·.acceptedAlone) with
  | none =>
    rw [hw] at ho
    exact .inl ⟨rfl, ho⟩
  | some op =>
    have ha : op.acceptedAlone = true := List.find?_some (p := Operation.acceptedAlone) hw
    obtain ⟨r, ht⟩ := Operation.accepted_iff.1 ha
    rw [hw, outcomeAlone, Operation.apply_of_taken ht] at ho
    exact .inr ⟨op, r, rfl, ht, ho⟩

theorem accepted_run_iff (hR : R.Conservative) (before : List (Operation R))
    (op : Operation R) :
    op.accepted (fresh.run before) = true ↔
      op.acceptedAlone = true ∧ ∀ w ∈ before, w.acceptedAlone = false := by
  have hfind := firstAccepted?_eq_find? hR (r := fresh) rfl before
  rcases run_fresh_cases hR before with ⟨hn, ho⟩ | ⟨w, r, hs, ht, ho⟩
  · have hb : ∀ w ∈ before, w.acceptedAlone = false := by
      simpa using List.find?_eq_none.1 (hfind.symm.trans hn)
    rw [Operation.accepted_congr (s := fresh) ho op]
    exact ⟨fun h => ⟨h, hb⟩, And.left⟩
  · have hf := (outcome_eq_iff.1 ho).1.trans ht.finished.2
    rw [Operation.not_accepted_of_finished hf op]
    refine ⟨nofun, fun h => ?_⟩
    have hw := hfind.symm.trans hs
    have ha : w.acceptedAlone = true := List.find?_some (p := Operation.acceptedAlone) hw
    rw [h.2 w (List.mem_of_find?_eq_some hw)] at ha
    cases ha

theorem findIdx?_acceptedAlone_iff {ops : List (Operation R)} {i : Nat} {op : Operation R}
    (hi : ops[i]? = some op) :
    ops.findIdx? (·.acceptedAlone) = some i ↔
      op.acceptedAlone = true ∧ ∀ w ∈ ops.take i, w.acceptedAlone = false := by
  obtain ⟨hlt, rfl⟩ := List.getElem?_eq_some_iff.1 hi
  rw [List.findIdx?_eq_some_iff_getElem]
  constructor
  · rintro ⟨_, hop, hbefore⟩
    refine ⟨hop, fun w hw => ?_⟩
    obtain ⟨j, hj, rfl⟩ := List.mem_take_iff_getElem.1 hw
    exact Bool.eq_false_iff.2 (hbefore j (by omega))
  · rintro ⟨hop, hbefore⟩
    refine ⟨hlt, hop, fun j hj => ?_⟩
    have hm : ops[j] ∈ ops.take i := List.mem_take_iff_getElem.2 ⟨j, by omega, rfl⟩
    simp [hbefore ops[j] hm]

theorem get?_headers_run (r : Response R) (ops : List (Operation R)) (name : String) :
    (r.run ops).headers.get? name = (lastHeader? name ops).or (r.headers.get? name) := by
  induction ops generalizing r with
  | nil => rfl
  | cons op ops ih =>
    rw [run_cons, ih, Operation.get?_headers_apply]
    cases hv : op.headerValue? name with
    | none => simp [lastHeader?, hv]
    | some value =>
      simp only [lastHeader?, List.filterMap_cons, hv, List.getLast?_cons]
      cases (ops.filterMap (Operation.headerValue? name)).getLast? <;> rfl

/-- In a run from a fresh response the write at a place is taken just if that place is the
first whose write a fresh response would take; an operation is refused by the rules, and then
changes nothing; the response ends as after the taken write alone, under the last value of
every header. -/
theorem run_fresh_writes_once (hR : R.Conservative) (ops : List (Operation R)) :
    (∀ i op, ops[i]? = some op →
      let r : Response R := fresh.run (ops.take i)
      (op.accepted r = true ↔ ops.findIdx? (·.acceptedAlone) = some i) ∧
      ∀ f, ((op.apply r).2 = .error f ↔ Refused r op f) ∧
        (Refused r op f → (op.apply r).1 = r)) ∧
    (fresh.run ops).outcome = outcomeAlone (ops.find? (·.acceptedAlone)) ∧
    ∀ name, (fresh.run ops).headers.get? name = lastHeader? name ops := by
  refine ⟨fun i op hi => ⟨?_, fun f => ⟨?_, ?_⟩⟩, run_outcome hR rfl ops, fun name => ?_⟩
  · rw [accepted_run_iff hR, findIdx?_acceptedAlone_iff hi]
  · exact Operation.apply_eq_error_iff
  · exact Operation.apply_eq_self_of_refused hR
  · rw [get?_headers_run]
    exact Option.or_none

theorem run_fresh_writes_once_lookup :
    Sample.lookupResult.Conservative ∧
      let ops : List (Operation Sample.lookupResult) :=
        [.header "trace" "1", .exception (.boom "disk"), .exception (.notFound "key"),
          .result (some 3), .header "trace" "2"]
      let r : Response Sample.lookupResult := fresh.run ops
      r.outcome = (true, .error, none, some ("key", ()), none, ()) ∧
        r.headers.get? "trace" = some "2" := by
  have hR : Sample.lookupResult.Conservative := Union.conservative (.valued _ _ _ _ _ _ _)
  obtain ⟨-, ho, hh⟩ := run_fresh_writes_once hR _
  exact ⟨hR, ho, hh "trace"⟩

end ServiceBinding.Response
