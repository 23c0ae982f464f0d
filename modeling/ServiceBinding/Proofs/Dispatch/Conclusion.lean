import ServiceBinding.Proofs.Response.Operations

/-!
# How a call concludes

A handler leaves behind its response, and a value still to be stored or the error that it
raised. Main statement: a conclusion either settles, by one of three rules, or is refused,
by one of four, and the rules give the settled response and the error.
-/

namespace ServiceBinding

variable {ε : Type} {R : ResultShape ε}

open Operation (Taken)

structure Conclusion (R : ResultShape ε) where
  response : Response R
  ending : Except ε (Option R.Success)

namespace Conclusion

inductive Settles (c : Conclusion R) : Response R → Prop
  | kept (value? : Option R.Success) (he : c.ending = .ok value?)
      (h : value? = none ∨ c.response.finished = true) : Settles c c.response
  | stored (v : R.Success) (r : Response R) (he : c.ending = .ok (some v))
      (ht : Taken c.response (.result (some v)) r) : Settles c r
  | encoded (e : ε) (r : Response R) (he : c.ending = .error e)
      (ht : Taken c.response (.exception e) r) : Settles c r

theorem Settles.headers {c : Conclusion R} {r : Response R} (h : c.Settles r) :
    r.headers = c.response.headers := by
  cases h with
  | kept value? he h => rfl
  | stored v r he ht => exact ht.headers
  | encoded e r he ht => exact ht.headers

variable [Throwable ε]

/-- Only a raised error is matched with the declared exceptions, and that before the response
is looked at. -/
inductive Refused (c : Conclusion R) : ε → Prop
  | voidResult (v : R.Success) (he : c.ending = .ok (some v))
      (h : c.response.finished = false) (hs : R.successField = none) :
    Refused c (Throwable.ofResponse (.voidResult R.name))
  | undeclared (e : ε) (he : c.ending = .error e) (hd : ¬ R.Declares e) : Refused c e
  | finished (e : ε) (he : c.ending = .error e) (hd : R.Declares e)
      (h : c.response.finished = true) : Refused c (Throwable.ofResponse .alreadyFinished)
  | unfit (e e' : ε) (field : FieldSpec ε) (he : c.ending = .error e)
      (h : c.response.finished = false) (hf : R.selectException e = some field)
      (hs : (R.setException c.response.result field.id e).2 = .error e') : Refused c e'

def settled (c : Conclusion R) : Except ε (Response R) :=
  match c.ending with
  | .ok none => .ok c.response
  | .ok (some v) =>
    if c.response.finished then .ok c.response
    else
      match c.response.writeResult (some v) with
      | (r, .ok ()) => .ok r
      | (_, .error e) => .error (Throwable.ofResponse e)
  | .error e =>
    match c.response.writeException e with
    | (r, .ok ()) => .ok r
    | (_, .error e') => .error e'

theorem settled_of_settles {c : Conclusion R} {r : Response R} (h : c.Settles r) :
    c.settled = .ok r := by
  cases h with
  | kept value? he h =>
    cases value? with
    | none => simp [settled, he]
    | some v =>
      have hf : c.response.finished = true := h.resolve_left nofun
      simp [settled, he, hf]
  | stored v r he ht =>
    cases ht with
    | value v h hs =>
      obtain ⟨field, hf⟩ := Option.ne_none_iff_exists'.1 hs
      simp [settled, he, h, Response.writeResult, hf]
  | encoded e r he ht =>
    cases ht with
    | stored e field s h hf hs => simp [settled, he, Response.writeException, hf, h, hs]

theorem settled_of_refused {c : Conclusion R} {e' : ε} (h : c.Refused e') :
    c.settled = .error e' := by
  cases h with
  | voidResult v he h hs => simp [settled, he, h, Response.writeResult, hs]
  | undeclared e he hd =>
    have hf := ResultShape.selectException_eq_none_iff.2 hd
    simp [settled, he, Response.writeException, hf]
  | finished e he hd h =>
    obtain ⟨field, hf⟩ := ResultShape.exists_selectException hd
    simp [settled, he, Response.writeException, hf, h]
  | unfit e _ field he h hf hs =>
    obtain ⟨s, hc⟩ : ∃ s, R.setException c.response.result field.id e = (s, .error e') :=
      ⟨_, Prod.ext rfl hs⟩
    simp [settled, he, Response.writeException, hf, h, hc]

theorem settles_or_refused (c : Conclusion R) : (∃ r, c.Settles r) ∨ ∃ e, c.Refused e := by
  cases he : c.ending with
  | ok value? =>
    by_cases hk : value? = none ∨ c.response.finished = true
    · exact .inl ⟨_, .kept value? he hk⟩
    · rw [not_or, Bool.not_eq_true] at hk
      obtain ⟨v, rfl⟩ := Option.ne_none_iff_exists'.1 hk.1
      rcases Operation.taken_or_refused (.result (some v)) c.response rfl with ⟨r, ht⟩ | ⟨f, hf⟩
      · exact .inl ⟨r, .stored v r he ht⟩
      · cases hf with
        | finishedResult _ h => exact absurd h (by simp [hk.2])
        | voidResult _ h hs => exact .inr ⟨_, .voidResult v he h hs⟩
  | error e =>
    rcases Operation.taken_or_refused (.exception e) c.response rfl with ⟨r, ht⟩ | ⟨f, hf⟩
    · exact .inl ⟨r, .encoded e r he ht⟩
    · cases hf with
      | undeclared _ hd => exact .inr ⟨_, .undeclared e he hd⟩
      | finishedException _ hd h => exact .inr ⟨_, .finished e he hd h⟩
      | unfit _ e' field h hs ho => exact .inr ⟨_, .unfit e e' field he h hs ho⟩

theorem settled_eq_ok_iff {c : Conclusion R} {r : Response R} :
    c.settled = .ok r ↔ c.Settles r := by
  refine ⟨fun h => ?_, settled_of_settles⟩
  rcases c.settles_or_refused with ⟨r', hs⟩ | ⟨e, hr⟩
  · rw [settled_of_settles hs] at h
    cases h
    exact hs
  · rw [settled_of_refused hr] at h
    cases h

theorem settled_eq_error_iff {c : Conclusion R} {e : ε} :
    c.settled = .error e ↔ c.Refused e := by
  refine ⟨fun h => ?_, settled_of_refused⟩
  rcases c.settles_or_refused with ⟨r, hs⟩ | ⟨e', hr⟩
  · rw [settled_of_settles hs] at h
    cases h
  · rw [settled_of_refused hr] at h
    cases h
    exact hr

end Conclusion

end ServiceBinding
