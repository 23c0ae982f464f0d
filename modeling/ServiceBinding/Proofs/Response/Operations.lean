import ServiceBinding.Response
import Mathlib.Data.List.ReduceOption

/-!
# Operations on a response

The three things that a handler does to its response, as data, with the answer of each. Main
statements: the rules by which a write is taken or refused, which together say all that an
operation can do, and that a refused operation leaves the response alone if the shape's
`setException` leaves its container alone. None of these rules reads the headers.
-/

namespace ServiceBinding

variable {ε : Type} {R : ResultShape ε}

namespace ResultShape

def Declares (R : ResultShape ε) (e : ε) : Prop :=
  ∃ field, some field ∈ R.table.drop 1 ∧ field.accepts e

theorem selectException_eq_none_iff {e : ε} : R.selectException e = none ↔ ¬ R.Declares e := by
  simp [selectException, Declares, List.find?_eq_none, List.reduceOption_mem_iff]

theorem exists_selectException {e : ε} (h : R.Declares e) :
    ∃ field, R.selectException e = some field := by
  cases hs : R.selectException e with
  | none => exact absurd h (selectException_eq_none_iff.1 hs)
  | some field => exact ⟨field, rfl⟩

end ResultShape

inductive Operation (R : ResultShape ε)
  | header (name value : String)
  | result (value? : Option R.Success)
  | exception (e : ε)

inductive Refusal (ε : Type)
  | misuse (e : ResponseError)
  | handedBack (e : ε)

def Response.outcome (r : Response R) : Bool × StatusCode × R.Container :=
  (r.finished, r.code, r.result)

theorem Response.outcome_eq_iff {r s : Response R} :
    r.outcome = s.outcome ↔ r.finished = s.finished ∧ r.code = s.code ∧ r.result = s.result := by
  simp [outcome]

namespace Operation

def isWrite : Operation R → Bool
  | header _ _ => false
  | result _ | exception _ => true

def headerValue? (name : String) : Operation R → Option String
  | header n value => if n = name then some value else none
  | result _ | exception _ => none

def lastHeader? (name : String) (ops : List (Operation R)) : Option String :=
  (ops.filterMap (headerValue? name)).getLast?

inductive Taken (r : Response R) : Operation R → Response R → Prop
  | nothing (h : r.finished = false) : Taken r (.result none) { r with finished := true }
  | value (v : R.Success) (h : r.finished = false) (hs : R.successField ≠ none) :
    Taken r (.result (some v)) { r with result := R.setSuccess r.result v, finished := true }
  | stored (e : ε) (field : FieldSpec ε) (c : R.Container) (h : r.finished = false)
      (hf : R.selectException e = some field)
      (hs : R.setException r.result field.id e = (c, .ok ())) :
    Taken r (.exception e) { r with result := c, code := .error, finished := true }

/-- The rules of refusal. Whether a declared exception accepts the error is looked at before
whether the response is finished. -/
inductive Refused [Throwable ε] (r : Response R) : Operation R → Refusal ε → Prop
  | finishedResult (value? : Option R.Success) (h : r.finished = true) :
    Refused r (.result value?) (.misuse .alreadyFinished)
  | voidResult (v : R.Success) (h : r.finished = false) (hs : R.successField = none) :
    Refused r (.result (some v)) (.misuse (.voidResult R.name))
  | undeclared (e : ε) (hd : ¬ R.Declares e) : Refused r (.exception e) (.handedBack e)
  | finishedException (e : ε) (hd : R.Declares e) (h : r.finished = true) :
    Refused r (.exception e) (.handedBack (Throwable.ofResponse .alreadyFinished))
  | unfit (e e' : ε) (field : FieldSpec ε) (h : r.finished = false)
      (hf : R.selectException e = some field)
      (hs : (R.setException r.result field.id e).2 = .error e') :
    Refused r (.exception e) (.handedBack e')

theorem Taken.finished {op : Operation R} {r r' : Response R} (h : Taken r op r') :
    r.finished = false ∧ r'.finished = true := by
  cases h with
  | nothing h => exact ⟨h, rfl⟩
  | value v h hs => exact ⟨h, rfl⟩
  | stored e field c h hf hs => exact ⟨h, rfl⟩

theorem Taken.headers {op : Operation R} {r r' : Response R} (h : Taken r op r') :
    r'.headers = r.headers := by
  cases h <;> rfl

theorem Taken.congr {op : Operation R} {r r' s : Response R} (h : Taken r op r')
    (hrs : r.outcome = s.outcome) : ∃ s', Taken s op s' ∧ s'.outcome = r'.outcome := by
  obtain ⟨hf, hc, hr⟩ := Response.outcome_eq_iff.1 hrs
  cases h with
  | nothing h => exact ⟨_, .nothing (hf ▸ h), by simp [Response.outcome, hc, hr]⟩
  | value v h hs => exact ⟨_, .value v (hf ▸ h) hs, by simp [Response.outcome, hc, hr]⟩
  | stored e field c h hs ho =>
    exact ⟨_, .stored e field c (hf ▸ h) hs (hr ▸ ho), by simp [Response.outcome]⟩

variable [Throwable ε]

def apply : Operation R → Response R → Response R × Except (Refusal ε) Unit
  | header name value, r => (r.writeHeader name value, .ok ())
  | result value?, r =>
    ((r.writeResult value?).1, (r.writeResult value?).2.mapError .misuse)
  | exception e, r => ((r.writeException e).1, (r.writeException e).2.mapError .handedBack)

def accepted (op : Operation R) (r : Response R) : Bool := op.isWrite && (op.apply r).2.isOk

def acceptedAlone (op : Operation R) : Bool := op.accepted .fresh

theorem apply_of_taken {op : Operation R} {r r' : Response R} (h : Taken r op r') :
    op.apply r = (r', .ok ()) := by
  cases h with
  | nothing h => simp [apply, Response.writeResult, h, Except.mapError]
  | value v h hs =>
    obtain ⟨field, hf⟩ := Option.ne_none_iff_exists'.1 hs
    simp [apply, Response.writeResult, h, hf, Except.mapError]
  | stored e field c h hf hs =>
    simp [apply, Response.writeException, h, hf, hs, Except.mapError]

theorem apply_of_refused {op : Operation R} {r : Response R} {f : Refusal ε}
    (h : Refused r op f) : (op.apply r).2 = .error f := by
  cases h with
  | finishedResult value? h => simp [apply, Response.writeResult, h, Except.mapError]
  | voidResult v h hs => simp [apply, Response.writeResult, h, hs, Except.mapError]
  | undeclared e hd =>
    have hs := ResultShape.selectException_eq_none_iff.2 hd
    simp [apply, Response.writeException, hs, Except.mapError]
  | finishedException e hd h =>
    obtain ⟨field, hf⟩ := ResultShape.exists_selectException hd
    simp [apply, Response.writeException, hf, h, Except.mapError]
  | unfit e e' field h hf hs =>
    obtain ⟨c, hc⟩ : ∃ c, R.setException r.result field.id e = (c, .error e') :=
      ⟨_, Prod.ext rfl hs⟩
    simp [apply, Response.writeException, hf, h, hc, Except.mapError]

/-- A refused operation leaves nothing behind but what `setException` makes of the container. -/
theorem exists_apply_of_refused {op : Operation R} {r : Response R} {f : Refusal ε}
    (h : Refused r op f) :
    ∃ c, (op.apply r).1 = { r with result := c } ∧ (R.Conservative → c = r.result) := by
  cases h with
  | finishedResult value? h =>
    have hself : ((result value?).apply r).1 = r := by simp [apply, Response.writeResult, h]
    exact ⟨r.result, hself, fun _ => rfl⟩
  | voidResult v h hs =>
    have hself : ((result (some v)).apply r).1 = r := by
      simp [apply, Response.writeResult, h, hs]
    exact ⟨r.result, hself, fun _ => rfl⟩
  | undeclared e hd =>
    have hs := ResultShape.selectException_eq_none_iff.2 hd
    have hself : ((exception e).apply r).1 = r := by simp [apply, Response.writeException, hs]
    exact ⟨r.result, hself, fun _ => rfl⟩
  | finishedException e hd h =>
    obtain ⟨field, hf⟩ := ResultShape.exists_selectException hd
    have hself : ((exception e).apply r).1 = r := by
      simp [apply, Response.writeException, hf, h]
    exact ⟨r.result, hself, fun _ => rfl⟩
  | unfit e e' field h hf hs =>
    obtain ⟨c, hc⟩ : ∃ c, R.setException r.result field.id e = (c, .error e') :=
      ⟨_, Prod.ext rfl hs⟩
    have hself : R.Conservative → c = r.result := fun hR => by
      simpa only [hc] using hR _ _ _ _ hs
    exact ⟨c, by simp [apply, Response.writeException, hf, h, hc], hself⟩

theorem apply_eq_self_of_refused (hR : R.Conservative) {op : Operation R} {r : Response R}
    {f : Refusal ε} (h : Refused r op f) : (op.apply r).1 = r := by
  obtain ⟨c, hc, hself⟩ := exists_apply_of_refused h
  rw [hc, hself hR]

theorem taken_or_refused (op : Operation R) (r : Response R) (hw : op.isWrite = true) :
    (∃ r', Taken r op r') ∨ ∃ f, Refused r op f := by
  cases op with
  | header name value => cases hw
  | result value? =>
    cases h : r.finished with
    | true => exact .inr ⟨_, .finishedResult value? h⟩
    | false =>
      cases value? with
      | none => exact .inl ⟨_, .nothing h⟩
      | some v =>
        by_cases hs : R.successField = none
        · exact .inr ⟨_, .voidResult v h hs⟩
        · exact .inl ⟨_, .value v h hs⟩
  | exception e =>
    by_cases hd : R.Declares e
    · cases h : r.finished with
      | true => exact .inr ⟨_, .finishedException e hd h⟩
      | false =>
        obtain ⟨field, hf⟩ := ResultShape.exists_selectException hd
        rcases hs : R.setException r.result field.id e with ⟨c, e' | _⟩
        · exact .inr ⟨_, .unfit e e' field h hf (congrArg Prod.snd hs)⟩
        · exact .inl ⟨_, .stored e field c h hf hs⟩
    · exact .inr ⟨_, .undeclared e hd⟩

theorem apply_eq_error_iff {op : Operation R} {r : Response R} {f : Refusal ε} :
    (op.apply r).2 = .error f ↔ Refused r op f := by
  refine ⟨fun h => ?_, apply_of_refused⟩
  cases hw : op.isWrite with
  | false => cases op <;> cases hw; cases h
  | true =>
    rcases taken_or_refused op r hw with ⟨r', ht⟩ | ⟨f', hf⟩
    · rw [apply_of_taken ht] at h
      cases h
    · rw [apply_of_refused hf] at h
      cases h
      exact hf

theorem accepted_iff {op : Operation R} {r : Response R} :
    op.accepted r = true ↔ ∃ r', Taken r op r' := by
  constructor
  · intro h
    obtain ⟨hw, ho⟩ := Bool.and_eq_true_iff.1 h
    rcases taken_or_refused op r hw with ht | ⟨f, hf⟩
    · exact ht
    · rw [apply_of_refused hf] at ho
      cases ho
  · rintro ⟨r', ht⟩
    have hw : op.isWrite = true := by cases ht <;> rfl
    simp [accepted, hw, apply_of_taken ht, Except.isOk, Except.toBool]

theorem accepted_congr {r s : Response R} (h : r.outcome = s.outcome) (op : Operation R) :
    op.accepted r = op.accepted s := by
  rw [Bool.eq_iff_iff, accepted_iff, accepted_iff]
  constructor
  · rintro ⟨r', ht⟩
    obtain ⟨s', hs, -⟩ := ht.congr h
    exact ⟨s', hs⟩
  · rintro ⟨s', ht⟩
    obtain ⟨r', hr, -⟩ := ht.congr h.symm
    exact ⟨r', hr⟩

theorem not_accepted_of_finished {r : Response R} (h : r.finished = true) (op : Operation R) :
    op.accepted r = false := by
  refine Bool.eq_false_iff.2 fun ha => ?_
  obtain ⟨r', ht⟩ := accepted_iff.1 ha
  rw [ht.finished.1] at h
  cases h

theorem outcome_apply_of_finished {r : Response R} (h : r.finished = true)
    (op : Operation R) : (op.apply r).1.outcome = r.outcome := by
  cases op with
  | header name value => rfl
  | result value? => simp [apply, Response.writeResult, h]
  | exception e =>
    simp only [apply, Response.writeException, h, if_true]
    cases R.selectException e <;> rfl

theorem outcome_of_not_accepted (hR : R.Conservative) {op : Operation R} {r : Response R}
    (h : op.accepted r = false) : (op.apply r).1.outcome = r.outcome := by
  cases hw : op.isWrite with
  | false => cases op <;> cases hw; rfl
  | true =>
    rcases taken_or_refused op r hw with ht | ⟨f, hf⟩
    · rw [accepted_iff.2 ht] at h
      cases h
    · rw [apply_eq_self_of_refused hR hf]

theorem headers_apply_of_write {op : Operation R} (hw : op.isWrite = true) (r : Response R) :
    (op.apply r).1.headers = r.headers := by
  cases op with
  | header name value => cases hw
  | result value? =>
    simp only [apply, Response.writeResult]
    repeat' split
    all_goals rfl
  | exception e =>
    simp only [apply, Response.writeException]
    repeat' split
    all_goals rfl

theorem get?_headers_apply (op : Operation R) (r : Response R) (name : String) :
    (op.apply r).1.headers.get? name = (op.headerValue? name).or (r.headers.get? name) := by
  cases op with
  | header n value =>
    by_cases h : n = name
    · simp [apply, Response.writeHeader, headerValue?, h]
    · simp [apply, Response.writeHeader, headerValue?, h, Ne.symm h]
  | result value? => rw [headers_apply_of_write rfl]; rfl
  | exception e => rw [headers_apply_of_write rfl]; rfl

end Operation

end ServiceBinding
