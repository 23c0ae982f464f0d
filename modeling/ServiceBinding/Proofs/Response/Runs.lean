import ServiceBinding.Proofs.Response.WriteOnce
import ServiceBinding.Proofs.SortedMap

/-!
# Runs on any shape

What holds of a run even if a shape's `setException` leaves another container behind when it
hands an error back: the code of an unfinished response never changes. Main statement: how a
response ends depends on the writes among its operations, in their order, and on the last value
of every header.
-/

namespace ServiceBinding

variable {ε : Type} {R : ResultShape ε}

open Operation (Taken lastHeader?)

theorem Response.ext_outcome {r s : Response R} (ho : r.outcome = s.outcome)
    (hh : r.headers = s.headers) : r = s := by
  obtain ⟨headers, result, finished, code⟩ := r
  obtain ⟨rfl, rfl, rfl⟩ := outcome_eq_iff.1 ho
  obtain rfl : headers = s.headers := hh
  rfl

variable [Throwable ε]

namespace Operation

theorem code_apply_of_not_accepted {op : Operation R} {r : Response R}
    (h : op.accepted r = false) :
    (op.apply r).1.finished = r.finished ∧ (op.apply r).1.code = r.code := by
  cases hw : op.isWrite with
  | false => cases op <;> cases hw; exact ⟨rfl, rfl⟩
  | true =>
    rcases taken_or_refused op r hw with ht | ⟨f, hf⟩
    · rw [accepted_iff.2 ht] at h
      cases h
    · obtain ⟨c, hc, -⟩ := exists_apply_of_refused hf
      rw [hc]
      exact ⟨rfl, rfl⟩

theorem outcome_apply_of_not_write {op : Operation R} (h : op.isWrite = false)
    (r : Response R) : (op.apply r).1.outcome = r.outcome := by
  cases op with
  | header name value => rfl
  | result value? => cases h
  | exception e => cases h

theorem outcome_apply_congr {r s : Response R} (h : r.outcome = s.outcome) (op : Operation R) :
    (op.apply r).1.outcome = (op.apply s).1.outcome := by
  obtain ⟨hf, hc, hr⟩ := Response.outcome_eq_iff.1 h
  cases op with
  | header name value => exact h
  | result value? =>
    simp only [apply, Response.writeResult, hf]
    split
    · exact h
    · split
      · simp [Response.outcome, hc, hr]
      · split
        · exact h
        · simp [Response.outcome, hc, hr]
  | exception e =>
    simp only [apply, Response.writeException, hf]
    split
    · exact h
    · next field hs =>
      split
      · exact h
      · rw [hr]
        rcases R.setException s.result field.id e with ⟨c, e' | _⟩
        · simp [Response.outcome, hc]
        · simp [Response.outcome]

end Operation

namespace Response

/-- The writes before the one that is taken may leave another container behind, but no other
code. -/
theorem run_cases {r : Response R} (hf : r.finished = false) (hc : r.code = .ok)
    (ops : List (Operation R)) :
    (r.firstAccepted? ops = none ∧ (r.run ops).finished = false ∧ (r.run ops).code = .ok) ∨
      ∃ op before after, r.firstAccepted? ops = some op ∧ before.code = .ok ∧
        Taken before op after ∧ (r.run ops).outcome = after.outcome := by
  induction ops generalizing r with
  | nil => exact .inl ⟨rfl, hf, hc⟩
  | cons op ops ih =>
    rw [firstAccepted?, run_cons]
    cases ha : op.accepted r with
    | false =>
      obtain ⟨hf', hc'⟩ := Operation.code_apply_of_not_accepted ha
      exact ih (hf'.trans hf) (hc'.trans hc)
    | true =>
      obtain ⟨r', ht⟩ := Operation.accepted_iff.1 ha
      rw [Operation.apply_of_taken ht]
      exact .inr ⟨op, r, r', rfl, hc, ht, run_outcome_of_finished ht.finished.2 ops⟩

theorem outcome_run_filter {r s : Response R} (h : r.outcome = s.outcome)
    (ops : List (Operation R)) :
    (r.run ops).outcome = (s.run (ops.filter (·.isWrite))).outcome := by
  induction ops generalizing r s with
  | nil => exact h
  | cons op ops ih =>
    cases hw : op.isWrite with
    | false =>
      rw [run_cons, List.filter_cons_of_neg (by simp [hw])]
      exact ih ((Operation.outcome_apply_of_not_write hw r).trans h)
    | true =>
      rw [run_cons, List.filter_cons_of_pos hw, run_cons]
      exact ih (Operation.outcome_apply_congr h op)

theorem run_eq_of_same_writes (r : Response R) {ops ops' : List (Operation R)}
    (hw : ops.filter (·.isWrite) = ops'.filter (·.isWrite))
    (hh : ∀ name, lastHeader? name ops = lastHeader? name ops') : r.run ops = r.run ops' := by
  have ho : (r.run ops).outcome = (r.run ops').outcome := by
    rw [outcome_run_filter rfl ops, outcome_run_filter rfl ops', hw]
  have hheaders : (r.run ops).headers = (r.run ops').headers := SortedMap.ext_get? fun name => by
    rw [get?_headers_run, get?_headers_run, hh]
  exact ext_outcome ho hheaders

end Response

end ServiceBinding
