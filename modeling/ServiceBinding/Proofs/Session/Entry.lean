import ServiceBinding.Proofs.Session.Log

/-!
# The entries of a dispatcher's table

Main statement: whatever a session has registered, replaced or failed to register, each entry
of the table stems from one of its registrations. The entry is named by a service and a method,
bound to its own name and to the dispatcher's convention, and has the containers that the
registered module declares for the method.
-/

namespace ServiceBinding

variable {ε : Type}

structure Enrolled (c : Convention) (m : ServiceModule) (service method name : String)
    (e : Endpoint ε) : Prop where
  service_ne : service ≠ ""
  method_ne : method ≠ ""
  name_eq : name = service ++ "::" ++ method
  context_eq : e.strategy.context = ⟨service, name⟩
  convention_eq : e.strategy.convention = c
  declared : m.Declares method e.args.name e.result.name

theorem Admissible.enrolled {A : ArgsShape} {R : ResultShape ε} {c : Convention}
    {m : ServiceModule} {h : Handler A R} {service method : String}
    (ha : Admissible c m h service method) :
    Enrolled c m service method (endpointName service method)
      ⟨A, R, h.bound ⟨service, endpointName service method⟩⟩ where
  service_ne := ha.service_ne
  method_ne := ha.method_ne
  name_eq := rfl
  context_eq := h.context_bound _
  convention_eq := (h.convention_bound _).trans ha.convention
  declared := ha.declared

namespace Dispatcher

/-- Each entry of the table stems from one of the steps. -/
def Accounted (d : Dispatcher ε) (steps : List (Step ε)) : Prop :=
  ∀ name e, (name, e) ∈ d.endpoints.entries → ∃ m h method? service?,
    Step.register m h method? service? ∈ steps ∧
      Enrolled d.convention m (nameOr service? m.serviceName) (nameOr method? h.handler.name)
        name e

theorem accounted_empty (c : Convention) : (empty c : Dispatcher ε).Accounted [] :=
  fun _ _ he => absurd he List.not_mem_nil

variable [Throwable ε]

theorem enrolled_of_logged? {d : Dispatcher ε} {m : ServiceModule} {h : AnyHandler ε}
    {method? service? : Option String} {name : String} {e : Endpoint ε}
    (he : (Step.register m h method? service?).logged?
      (d.step (.register m h method? service?)).answer = some (name, e)) :
    Enrolled d.convention m (nameOr service? m.serviceName) (nameOr method? h.handler.name)
      name e := by
  have hanswer := exists_logged_iff.1 ⟨e, he⟩
  simp only [step] at he hanswer
  cases hr : d.register m h.handler method? service? with
  | error e => simp [hr] at hanswer
  | ok r =>
    obtain ⟨hadm, rfl⟩ := register_eq_ok_iff.1 hr
    simp only [hr, Step.logged?, Option.some.injEq, Prod.mk.injEq] at he
    obtain ⟨rfl, rfl⟩ := he
    exact hadm.enrolled

theorem entry_or_old {d : Dispatcher ε} {s : Step ε} {name : String} {e : Endpoint ε}
    (h : (name, e) ∈ (d.step s).dispatcher.endpoints.entries) :
    s.logged? (d.step s).answer = some (name, e) ∨ (name, e) ∈ d.endpoints.entries := by
  rw [step_dispatcher] at h
  exact (SortedMap.mem_insertAll h).imp_left Option.mem_toList.1

theorem Accounted.step {d : Dispatcher ε} {past : List (Step ε)} (hd : d.Accounted past)
    (s : Step ε) : (d.step s).dispatcher.Accounted (past ++ [s]) := by
  intro name e he
  rw [convention_step]
  rcases entry_or_old he with hnew | hold
  · cases s with
    | call c => cases hnew
    | register m h method? service? =>
      exact ⟨m, h, method?, service?, List.mem_append_right _ List.mem_cons_self,
        enrolled_of_logged? hnew⟩
  · obtain ⟨m, h, method?, service?, hmem, henrolled⟩ := hd name e hold
    exact ⟨m, h, method?, service?, List.mem_append_left _ hmem, henrolled⟩

theorem Accounted.after {d : Dispatcher ε} {past : List (Step ε)} (hd : d.Accounted past)
    (steps : List (Step ε)) : (d.after steps).Accounted (past ++ steps) := by
  induction steps generalizing d past with
  | nil => rwa [List.append_nil]
  | cons s steps ih =>
    rw [List.append_cons]
    exact ih (hd.step s)

theorem entries_after_empty (c : Convention) (steps : List (Step ε)) :
    (∀ k, ((empty c : Dispatcher ε).after (steps.take k)).convention = c) ∧
      ∀ name e, (name, e) ∈ ((empty c : Dispatcher ε).after steps).endpoints.entries →
        ∃ m h method? service?, Step.register m h method? service? ∈ steps ∧
          Enrolled c m (nameOr service? m.serviceName) (nameOr method? h.handler.name) name e := by
  refine ⟨fun k => convention_after _ _, fun name e he => ?_⟩
  have hall := (accounted_empty c).after steps name e he
  rwa [convention_after] at hall

open Sample in
theorem entries_after_empty_dup :
    let handler : Handler helloArgs helloResult := .legacy ⟨"hello", fun _ _ => .done (.ok none)⟩
    let tricky (method : String) : Step Thrown :=
      .register ⟨"gen::Tricky", trickyMethods⟩ ⟨_, _, handler⟩ (some method) none
    let steps := [tricky "dup", tricky "pud"]
    let e : Endpoint Thrown := ⟨_, _, handler.bound ⟨"Tricky", "Tricky::dup"⟩⟩
    ("Tricky::dup", e) ∈ ((empty .legacy : Dispatcher Thrown).after steps).endpoints.entries ∧
      ∃ m h method? service?, Step.register m h method? service? ∈ steps ∧
        Enrolled .legacy m (nameOr service? m.serviceName) (nameOr method? h.handler.name)
          "Tricky::dup" e := by
  intro handler tricky steps e
  have he : ("Tricky::dup", e) ∈
      ((empty .legacy : Dispatcher Thrown).after steps).endpoints.entries :=
    List.mem_singleton.2 rfl
  exact ⟨he, (entries_after_empty .legacy steps).2 _ e he⟩

end Dispatcher

end ServiceBinding
