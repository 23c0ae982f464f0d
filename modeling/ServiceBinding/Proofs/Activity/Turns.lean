import Mathlib.Data.List.MinMax
import ServiceBinding.Proofs.Activity

/-!
# Activities by turns

Activities share one thread: whichever is not done may have the next turn, and runs to its
next pause or to its end. Main statements: after any schedule an activity stands where its own
turns have brought it, with the events of these turns in the log; an activity that is done has
logged and answered what it does alone; and taking turns in rounds is one such schedule, which
ends.
-/

namespace ServiceBinding.Activity

variable {α β : Type}

def turns : Nat → Activity α → List Event × Activity α
  | 0, a => ([], a)
  | n + 1, a => (a.turn.1 ++ (turns n a.turn.2).1, (turns n a.turn.2).2)

theorem eq_done_of_isDone {a : Activity α} (h : a.isDone = true) : a = done a.result := by
  cases a with
  | done a => rfl
  | log e next => cases h
  | pause next => cases h

theorem events_turn (a : Activity α) : a.turn.1 ++ a.turn.2.events = a.events := by
  induction a with
  | done a => rfl
  | log e next ih => exact congrArg (e :: ·) ih
  | pause next ih => rfl

theorem result_turn (a : Activity α) : a.turn.2.result = a.result := by
  induction a with
  | done a => rfl
  | log e next ih => exact ih
  | pause next ih => rfl

theorem turn_of_isDone {a : Activity α} (h : a.isDone = true) : a.turn = ([], a) := by
  rw [eq_done_of_isDone h]
  rfl

theorem isDone_turn_or_pauses_turn (a : Activity α) :
    a.turn.2.isDone = true ∨ a.turn.2.pauses < a.pauses := by
  induction a with
  | done a => exact .inl rfl
  | log e next ih => exact ih
  | pause next ih => exact .inr (Nat.lt_succ_self _)

theorem isDone_turn_of_pauses_eq_zero {a : Activity α} (h : a.pauses = 0) :
    a.turn.2.isDone = true := by
  rcases a.isDone_turn_or_pauses_turn with hd | hp
  · exact hd
  · omega

theorem pauses_bind (a : Activity α) (f : α → Activity β) :
    (a >>= f).pauses = a.pauses + (f a.result).pauses := by
  induction a with
  | done a => exact (Nat.zero_add _).symm
  | log e next ih => exact ih
  | pause next ih =>
    have hp : (pause next >>= f).pauses = (next >>= f).pauses + 1 := rfl
    rw [hp, ih, pauses, Nat.add_right_comm]
    rfl

theorem pauses_bind_eq_zero {a : Activity α} {f : α → Activity β}
    (ha : a.pauses = 0) (hf : ∀ x, (f x).pauses = 0) : (a >>= f).pauses = 0 := by
  rw [pauses_bind, ha, hf]

theorem events_turns (n : Nat) (a : Activity α) :
    (a.turns n).1 ++ (a.turns n).2.events = a.events := by
  induction n generalizing a with
  | zero => rfl
  | succ n ih => rw [turns, List.append_assoc, ih, events_turn]

theorem result_turns (n : Nat) (a : Activity α) : (a.turns n).2.result = a.result := by
  induction n generalizing a with
  | zero => rfl
  | succ n ih => rw [turns, ih, result_turn]

theorem turns_of_isDone {a : Activity α} (h : a.isDone = true) (n : Nat) :
    a.turns n = ([], a) := by
  induction n with
  | zero => rfl
  | succ n ih => simp only [turns, turn_of_isDone h, ih, List.nil_append]

theorem isDone_turns {n : Nat} {a : Activity α} (h : a.pauses < n) :
    (a.turns n).2.isDone = true := by
  induction n generalizing a with
  | zero => cases h
  | succ n ih =>
    rcases a.isDone_turn_or_pauses_turn with hd | hp
    · rw [turns, turns_of_isDone hd]
      exact hd
    · exact ih (by omega)

theorem turns_eq_of_isDone {n : Nat} {a : Activity α} (h : (a.turns n).2.isDone = true) :
    a.turns n = (a.events, done a.result) := by
  have hd := eq_done_of_isDone h
  rw [result_turns] at hd
  have he := events_turns n a
  rw [hd] at he
  exact Prod.ext ((List.append_nil _).symm.trans he) hd

/-- Some activities, the events logged on the way with the place of the activity that logged
them, and what is left of the activities. -/
inductive Scheduled : List (Activity α) → List (Nat × Event) → List (Activity α) → Prop
  | stop (as : List (Activity α)) : Scheduled as [] as
  | turn {as : List (Activity α)} {log : List (Nat × Event)} {left : List (Activity α)}
      (i : Nat) (a : Activity α) (ha : as[i]? = some a) (hd : a.isDone = false)
      (rest : Scheduled (as.set i a.turn.2) log left) :
    Scheduled as (a.turn.1.map (i, ·) ++ log) left

def ownEvents (i : Nat) (log : List (Nat × Event)) : List Event :=
  (log.filter (·.1 = i)).map Prod.snd

theorem ownEvents_append (i : Nat) (log more : List (Nat × Event)) :
    ownEvents i (log ++ more) = ownEvents i log ++ ownEvents i more := by
  simp [ownEvents]

theorem ownEvents_map_self (i : Nat) (es : List Event) : ownEvents i (es.map (i, ·)) = es := by
  simp [ownEvents, List.filter_map, Function.comp_def]

theorem ownEvents_map_of_ne {i j : Nat} (h : j ≠ i) (es : List Event) :
    ownEvents i (es.map (j, ·)) = [] := by
  simp [ownEvents, List.filter_map, Function.comp_def, h]

theorem Scheduled.trans {as mid left : List (Activity α)} {log more : List (Nat × Event)}
    (h : Scheduled as log mid) (h' : Scheduled mid more left) :
    Scheduled as (log ++ more) left := by
  induction h with
  | stop as => exact h'
  | turn i a ha hd rest ih =>
    rw [List.append_assoc]
    exact .turn i a ha hd (ih h')

theorem Scheduled.length_eq {as left : List (Activity α)} {log : List (Nat × Event)}
    (h : Scheduled as log left) : left.length = as.length := by
  induction h with
  | stop as => rfl
  | turn i a ha hd rest ih => rw [ih, List.length_set]

/-- The turns of the others neither move an activity nor add to its events. -/
theorem Scheduled.exists_turns {as left : List (Activity α)} {log : List (Nat × Event)}
    (h : Scheduled as log left) {i : Nat} {a : Activity α} (ha : as[i]? = some a) :
    ∃ n, left[i]? = some (a.turns n).2 ∧ ownEvents i log = (a.turns n).1 := by
  induction h generalizing a with
  | stop as => exact ⟨0, ha, rfl⟩
  | turn j b hb hd rest ih =>
    by_cases hji : j = i
    · subst hji
      obtain rfl : b = a := Option.some.inj (hb.symm.trans ha)
      have hset : (List.set _ j b.turn.2)[j]? = some b.turn.2 :=
        List.getElem?_set_self (List.getElem?_eq_some_iff.1 hb).1
      obtain ⟨n, hleft, hown⟩ := ih hset
      refine ⟨n + 1, hleft, ?_⟩
      rw [ownEvents_append, ownEvents_map_self, hown, turns]
    · obtain ⟨n, hleft, hown⟩ := ih ((List.getElem?_set_ne hji).trans ha)
      refine ⟨n, hleft, ?_⟩
      rw [ownEvents_append, ownEvents_map_of_ne hji, hown, List.nil_append]

theorem Scheduled.of_answers {as : List (Activity α)} {log : List (Nat × Event)}
    {answers : List α} (h : Scheduled as log (answers.map done)) {i : Nat} {a : Activity α}
    (ha : as[i]? = some a) : answers[i]? = some a.result ∧ ownEvents i log = a.events := by
  obtain ⟨n, hn, ho⟩ := h.exists_turns ha
  rw [List.getElem?_map, Option.map_eq_some_iff] at hn
  obtain ⟨answer, hi, hd⟩ := hn
  have ht : a.turns n = (a.events, done a.result) := turns_eq_of_isDone (hd ▸ rfl)
  rw [ht] at hd ho
  exact ⟨hi.trans (congrArg some (done.inj hd)), ho⟩

theorem Scheduled.answers_eq {as : List (Activity α)} {log : List (Nat × Event)}
    {answers : List α} (h : Scheduled as log (answers.map done)) :
    answers = as.map (·.result) := by
  have hl : answers.length = as.length := by
    rw [← h.length_eq, List.length_map]
  refine List.ext_getElem? fun i => ?_
  rw [List.getElem?_map]
  cases ha : as[i]? with
  | none => exact List.getElem?_eq_none (hl ▸ List.getElem?_eq_none_iff.1 ha)
  | some a => exact (h.of_answers ha).1

theorem scheduled_round (before as : List (Activity α)) :
    ∃ log, Scheduled (before ++ as) log (before ++ (round as).2) ∧
      log.map Prod.snd = (round as).1 := by
  induction as generalizing before with
  | nil => exact ⟨[], .stop _, rfl⟩
  | cons a as ih =>
    obtain ⟨log, hs, hl⟩ := ih (before ++ [a.turn.2])
    simp only [List.append_assoc, List.singleton_append] at hs
    cases hd : a.isDone with
    | true =>
      have ht := turn_of_isDone hd
      rw [ht] at hs
      refine ⟨log, ?_, ?_⟩
      · simpa [round, ht] using hs
      · simpa [round, ht] using hl
    | false =>
      have hi : (before ++ a :: as)[before.length]? = some a := by simp
      have hset : (before ++ a :: as).set before.length a.turn.2 = before ++ a.turn.2 :: as := by
        simp
      refine ⟨_, .turn before.length a hi hd (hset ▸ hs), ?_⟩
      simpa [round, Function.comp_def] using hl

theorem scheduled_rounds (n : Nat) (as : List (Activity α)) :
    ∃ log, Scheduled as log (as.map fun a => (a.turns n).2) ∧ log.map Prod.snd = rounds n as := by
  induction n generalizing as with
  | zero => exact ⟨[], by simpa [turns] using .stop as, rfl⟩
  | succ n ih =>
    obtain ⟨first, hfirst, hlfirst⟩ := scheduled_round [] as
    obtain ⟨log, hs, hl⟩ := ih (round as).2
    refine ⟨first ++ log, hfirst.trans ?_, ?_⟩
    · simpa [round, turns, Function.comp_def] using hs
    · rw [List.map_append, hlfirst, hl, rounds]

theorem pauses_le_foldl_max {as : List (Activity α)} {a : Activity α} (ha : a ∈ as) :
    a.pauses ≤ (as.map (·.pauses)).foldl max 0 := by
  rw [← List.foldr_eq_foldl]
  exact List.le_max_of_le' 0 (List.mem_map_of_mem ha) le_rfl

theorem exists_scheduled_together (as : List (Activity α)) :
    ∃ log, Scheduled as log ((as.map (·.result)).map done) ∧
      log.map Prod.snd = together as := by
  obtain ⟨log, hs, hl⟩ := scheduled_rounds ((as.map (·.pauses)).foldl max 0 + 1) as
  refine ⟨log, ?_, hl⟩
  rw [List.map_map]
  convert hs using 1
  refine List.map_congr_left fun a ha => ?_
  have hd := isDone_turns (Nat.lt_succ_of_le (pauses_le_foldl_max ha))
  exact (congrArg Prod.snd (turns_eq_of_isDone hd)).symm

theorem Scheduled.exists_completed {as left : List (Activity α)} {log : List (Nat × Event)}
    (h : Scheduled as log left) :
    ∃ more, ∃ answers : List α, Scheduled as (log ++ more) (answers.map done) := by
  obtain ⟨more, hmore, -⟩ := exists_scheduled_together left
  exact ⟨more, _, h.trans hmore⟩

end ServiceBinding.Activity
