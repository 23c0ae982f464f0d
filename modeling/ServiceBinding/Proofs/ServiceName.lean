import Mathlib.Data.List.Infix
import ServiceBinding.Proofs.Registration
import ServiceBinding.Sample.Modules
import ServiceBinding.Sample.Shapes

/-!
# The service that a path names

In a run of colons the double colons overlap, so that a path can be cut there in several ways.
Main statement: just one text without a double colon is the whole path, or follows a double
colon of it and does not begin with a colon. Without an override this text is the service, and
a registration lacks a service just if the path is empty or ends with a double colon.
-/

namespace ServiceBinding

theorem toList_surjective : Function.Surjective String.toList :=
  fun cs => ⟨String.ofList cs, String.toList_ofList⟩

namespace ServiceModule

def Undivided (cs : List Char) : Prop := ¬ [':', ':'] <:+: cs

theorem undivided_nil : Undivided [] := by simp [Undivided]

theorem undivided_cons_iff {c : Char} {cs : List Char} :
    Undivided (c :: cs) ↔ ¬ [':', ':'] <+: c :: cs ∧ Undivided cs := by
  rw [Undivided, List.infix_cons_iff, not_or]
  rfl

theorem undivided_reverse_iff {cs : List Char} : Undivided cs.reverse ↔ Undivided cs := by
  have hcolons : [':', ':'].reverse <:+: cs.reverse ↔ [':', ':'] <:+: cs := List.reverse_infix
  exact not_congr hcolons

theorem colons_prefix_iff {c : Char} {s rest : List Char} :
    [':', ':'] <+: c :: (s ++ ':' :: rest) ↔ [':', ':'] <+: c :: (s ++ [':']) := by
  cases s with
  | nil => simp [List.cons_prefix_cons]
  | cons d s => simp [List.cons_prefix_cons]

theorem lastSegment_cons {c : Char} {cs : List Char} (h : ¬ [':', ':'] <+: c :: cs) :
    lastSegment (c :: cs) = c :: lastSegment cs := by
  rw [lastSegment]
  rintro rest rfl rfl
  exact h (by simp)

theorem lastSegment_of_undivided {cs : List Char} (h : Undivided cs) : lastSegment cs = cs := by
  induction cs with
  | nil => rfl
  | cons c cs ih =>
    obtain ⟨hfront, hrest⟩ := undivided_cons_iff.1 h
    rw [lastSegment_cons hfront, ih hrest]

theorem lastSegment_append {s : List Char} (q : List Char) (h : Undivided (s ++ [':'])) :
    lastSegment (s ++ ':' :: ':' :: q) = s := by
  induction s with
  | nil => rfl
  | cons c s ih =>
    obtain ⟨hfront, hrest⟩ := undivided_cons_iff.1 h
    rw [List.cons_append, lastSegment_cons (mt colons_prefix_iff.1 hfront), ih hrest]

theorem undivided_or_cut (cs : List Char) :
    Undivided cs ∨ ∃ s q, cs = s ++ ':' :: ':' :: q ∧ Undivided (s ++ [':']) := by
  induction cs with
  | nil => exact .inl undivided_nil
  | cons c cs ih =>
    by_cases hfront : [':', ':'] <+: c :: cs
    · obtain ⟨q, hq⟩ := hfront
      exact .inr ⟨[], q, hq.symm, fun h => absurd h.length_le (by decide)⟩
    · rcases ih with hrest | ⟨s, q, rfl, hs⟩
      · exact .inl (undivided_cons_iff.2 ⟨hfront, hrest⟩)
      · have hshort : ¬ [':', ':'] <+: c :: (s ++ [':']) := mt colons_prefix_iff.2 hfront
        exact .inr ⟨c :: s, q, rfl, undivided_cons_iff.2 ⟨hshort, hs⟩⟩

theorem lastSegment_eq_iff {cs s : List Char} :
    lastSegment cs = s ↔
      (cs = s ∧ Undivided s) ∨ ∃ q, cs = s ++ ':' :: ':' :: q ∧ Undivided (s ++ [':']) := by
  constructor
  · rintro rfl
    rcases undivided_or_cut cs with hcs | ⟨s, q, rfl, hs⟩
    · rw [lastSegment_of_undivided hcs]
      exact .inl ⟨rfl, hcs⟩
    · rw [lastSegment_append q hs]
      exact .inr ⟨q, rfl, hs⟩
  · rintro (⟨rfl, hs⟩ | ⟨q, rfl, hs⟩)
    · exact lastSegment_of_undivided hs
    · exact lastSegment_append q hs

/-- The text has no double colon, and it is the whole path or what follows a double colon of it.
In the latter case it does not begin with a colon. -/
structure TrailingSegment (path s : String) : Prop where
  undivided : ∀ a b, s ≠ a ++ "::" ++ b
  trailing : path = s ∨ (∃ q, path = q ++ "::" ++ s) ∧ ∀ t, s ≠ ":" ++ t

theorem undivided_toList_iff {s : String} :
    Undivided s.toList ↔ ∀ a b, s ≠ a ++ "::" ++ b := by
  have hcolons : "::".toList = [':', ':'] := rfl
  simp only [Undivided, List.IsInfix, toList_surjective.exists, ← hcolons, ← String.toList_append,
    String.toList_inj, not_exists, ne_comm]

theorem undivided_concat_iff {s : String} :
    Undivided (s.toList.reverse ++ [':']) ↔
      (∀ a b, s ≠ a ++ "::" ++ b) ∧ ∀ t, s ≠ ":" ++ t := by
  have hcolon : ":".toList = [':'] := rfl
  have hbegins : [':', ':'] <+: ':' :: s.toList ↔ ∃ t, s = ":" ++ t := by
    rw [List.cons_prefix_cons, and_iff_right rfl]
    simp only [List.IsPrefix, toList_surjective.exists, ← hcolon, ← String.toList_append,
      String.toList_inj, eq_comm]
  rw [← List.reverse_cons, undivided_reverse_iff, undivided_cons_iff, hbegins, not_exists,
    undivided_toList_iff, and_comm]

theorem serviceName_eq_iff {m : ServiceModule} {s : String} :
    m.serviceName = s ↔ TrailingSegment m.path s := by
  have hchars : m.serviceName = s ↔ lastSegment m.path.toList.reverse = s.toList.reverse := by
    rw [serviceName, ← String.toList_inj, String.toList_ofList, List.reverse_eq_iff]
  have hwhole : m.path.toList.reverse = s.toList.reverse ↔ m.path = s := by
    rw [List.reverse_inj, String.toList_inj]
  have hafter : (∃ q, m.path.toList.reverse = s.toList.reverse ++ ':' :: ':' :: q) ↔
      ∃ q, m.path = q ++ "::" ++ s := by
    rw [(List.reverse_surjective.comp toList_surjective).exists]
    refine exists_congr fun q => ?_
    have hreverse : s.toList.reverse ++ ':' :: ':' :: q.toList.reverse =
        (q ++ "::" ++ s).toList.reverse := by simp [String.toList_append]
    rw [Function.comp_apply, hreverse, List.reverse_inj, String.toList_inj]
  rw [hchars, lastSegment_eq_iff, hwhole, undivided_reverse_iff, undivided_toList_iff,
    undivided_concat_iff, exists_and_right, hafter]
  constructor
  · rintro (⟨hpath, hs⟩ | ⟨hq, hs, hcolon⟩)
    · exact ⟨hs, .inl hpath⟩
    · exact ⟨hs, .inr ⟨hq, hcolon⟩⟩
  · rintro ⟨hs, hpath | ⟨hq, hcolon⟩⟩
    · exact .inl ⟨hpath, hs⟩
    · exact .inr ⟨hq, hs, hcolon⟩

theorem serviceName_eq_empty_iff {m : ServiceModule} :
    m.serviceName = "" ↔ m.path = "" ∨ ∃ q, m.path = q ++ "::" := by
  have hundivided : ∀ a b, "" ≠ a ++ "::" ++ b := fun a b h => by simpa using h.symm
  have hcolon : ∀ t, "" ≠ ":" ++ t := fun t h => by simpa using h.symm
  have hends : (∃ q, m.path = q ++ "::" ++ "") ↔ ∃ q, m.path = q ++ "::" := by
    simp only [String.append_empty]
  rw [serviceName_eq_iff, ← hends]
  constructor
  · intro h
    exact h.trailing.imp_right And.left
  · intro h
    exact ⟨hundivided, h.imp_right fun hq => ⟨hq, hcolon⟩⟩

end ServiceModule

namespace Dispatcher

variable {ε : Type} {A : ArgsShape} {R : ResultShape ε}

theorem missingService_iff {d : Dispatcher ε} {m : ServiceModule} {h : Handler A R}
    {method? service? : Option String} :
    d.register m h method? service? = .error .missingService ↔
      nameOr service? m.serviceName = "" := by
  rw [register_eq_error_iff]
  constructor
  · intro hr
    cases hr with
    | missingService hs => exact hs
  · exact .missingService

theorem context?_enroll (d : Dispatcher ε) (h : Handler A R) (service method : String) :
    (d.enroll h service method).dispatcher.context? (endpointName service method) =
      some ⟨service, endpointName service method⟩ := by
  rw [context?, enroll, add, SortedMap.get?_insert, if_pos rfl]
  exact congrArg some (h.context_bound _)

/-- A path has one trailing segment. A registration that overrides no service has this segment as
its service, and lacks a service just if the segment is empty, as it is for the empty path and for
the paths that end with a double colon. -/
theorem service_from_path (m : ServiceModule) :
    (∀ s, ServiceModule.TrailingSegment m.path s ↔ s = m.serviceName) ∧
    ∀ (A : ArgsShape) (R : ResultShape ε) (d : Dispatcher ε) (h : Handler A R)
      (method? service? : Option String), service? = none ∨ service? = some "" →
      let service := m.serviceName
      let method := nameOr method? h.name
      let outcome := d.register m h method? service?
      (outcome = .error .missingService ↔ m.path = "" ∨ ∃ q, m.path = q ++ "::") ∧
      (outcome ≠ .error .missingService → service ≠ "") ∧
      (∀ r, outcome = .ok r ↔
        Admissible d.convention m h service method ∧ d.enroll h service method = r) ∧
      (∀ e, outcome = .error e ↔ Rejected d.convention m h service method e) ∧
      ∀ r, outcome = .ok r → r.endpoint = service ++ "::" ++ method ∧
        r.dispatcher.context? r.endpoint = some ⟨service, r.endpoint⟩ := by
  refine ⟨fun s => ServiceModule.serviceName_eq_iff.symm.trans eq_comm, ?_⟩
  intro A R d h method? service? hnone service method outcome
  have hname : nameOr service? m.serviceName = service := by
    rcases hnone with rfl | rfl <;> rfl
  have hmissing : outcome = .error .missingService ↔ service = "" := by
    rw [← hname]
    exact missingService_iff
  have hok : ∀ r, outcome = .ok r ↔
      Admissible d.convention m h service method ∧ d.enroll h service method = r := by
    rw [← hname]
    exact fun r => register_eq_ok_iff
  have herror : ∀ e, outcome = .error e ↔ Rejected d.convention m h service method e := by
    rw [← hname]
    exact fun e => register_eq_error_iff
  refine ⟨hmissing.trans ServiceModule.serviceName_eq_empty_iff, mt hmissing.2, hok, herror,
    fun r hr => ?_⟩
  obtain ⟨-, rfl⟩ := (hok r).1 hr
  exact ⟨rfl, context?_enroll d h service method⟩

open Sample in
-- in a run of three colons the cut is at the last two
theorem service_from_path_colons :
    let h : Handler helloArgs helloResult := .legacy ⟨"hello", fun _ _ => .done (.ok none)⟩
    let register (path : String) : Except RegisterError (Registered Thrown) :=
      (empty .legacy).register ⟨path, allMethods⟩ h none (some "")
    ServiceModule.TrailingSegment "gen:::Three" "Three" ∧
      ¬ ServiceModule.TrailingSegment "gen:::Three" ":Three" ∧
      (∃ r, register "gen:::Three" = .ok r ∧ r.endpoint = "Three::hello" ∧
        r.dispatcher.context? "Three::hello" = some ⟨"Three", "Three::hello"⟩) ∧
      register "gen:::" = .error .missingService := by
  intro h register
  obtain ⟨hsegment, hregister⟩ := service_from_path (ε := Thrown) ⟨"gen:::Three", allMethods⟩
  have hname : ServiceModule.serviceName ⟨"gen:::Three", allMethods⟩ = "Three" := by decide
  rw [hname] at hsegment hregister
  obtain ⟨-, -, hok, -, htold⟩ := hregister _ _ (empty .legacy) h none (some "") (.inr rfl)
  have hadm : Admissible .legacy ⟨"gen:::Three", allMethods⟩ h "Three" "hello" :=
    ⟨by decide, by decide, ⟨[], allMethods.tail, rfl, by simp⟩, rfl⟩
  have hr := (hok _).2 ⟨hadm, rfl⟩
  obtain ⟨-, hregister⟩ := service_from_path (ε := Thrown) ⟨"gen:::", allMethods⟩
  obtain ⟨hmissing, -⟩ := hregister _ _ (empty .legacy) h none (some "") (.inr rfl)
  refine ⟨(hsegment "Three").2 rfl, ?_, ⟨_, hr, htold _ hr⟩, hmissing.2 (.inr ⟨"gen:", rfl⟩)⟩
  rw [hsegment]
  decide

end Dispatcher

end ServiceBinding
