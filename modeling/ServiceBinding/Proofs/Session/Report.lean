import ServiceBinding.Proofs.Dispatch.Events
import ServiceBinding.Proofs.Session.Log

/-!
# What a session reports of its registrations

Besides what its calls log, a session reports each registration that goes through, and warns
where it takes the place of an earlier one. Main statement: the reports are the endpoints that
the session has answered, in order; the warnings and the entries of the table are as many as
the reports; and each warning follows the report of a name that was answered before.
-/

namespace ServiceBinding

variable {ε : Type}

namespace Event

def isRegistered (e : Event) : Bool := e.message = "registered endpoint"

def isReplaced (e : Event) : Bool :=
  e.message = "endpoint registered twice, replacing the earlier handler"

theorem isRegistered_iff {e : Event} : e.isRegistered ↔ ∃ name c, e = .registered name c := by
  rcases e with _ | _ | _ | _ | ⟨_ | _⟩ | _ <;> simp [isRegistered, message]

theorem isReplaced_iff {e : Event} : e.isReplaced ↔ ∃ name, e = .replaced name := by
  rcases e with _ | _ | _ | _ | ⟨_ | _⟩ | _ <;> simp [isReplaced, message]

def IsOfCall (e : Event) : Prop := e.isRegistered = false ∧ e.isReplaced = false

theorem isOfCall_iff {e : Event} :
    e.IsOfCall ↔ (∀ name c, e ≠ .registered name c) ∧ ∀ name, e ≠ .replaced name := by
  rw [IsOfCall, ← Bool.not_eq_true, ← Bool.not_eq_true, isRegistered_iff, isReplaced_iff]
  simp only [not_exists, ne_eq]

end Event

def StepAnswer.returned? : StepAnswer ε → Option String
  | .registered (.ok name) => some name
  | _ => none

theorem StepAnswer.returned?_eq_some_iff {answer : StepAnswer ε} {name : String} :
    answer.returned? = some name ↔ answer = .registered (.ok name) := by
  rcases answer with ⟨_ | _⟩ | _ <;> simp [returned?]

namespace Dispatcher

/-- What a step does to the table, logs about it and answers. -/
inductive Effect (d : Dispatcher ε) : StepOutcome ε → Prop
  | registered (name : String) (e : Endpoint ε) :
    Effect d ⟨.registered (.ok name), .registered name d.convention ::
      (if d.endpoints.contains name then [.replaced name] else []),
      ⟨d.convention, d.endpoints.insert name e⟩⟩
  | refused (err : RegisterError) : Effect d ⟨.registered (.error err), [], d⟩
  | called (r : Except (DispatchError ε) WireResponse) (events : List Event)
      (h : ∀ e ∈ events, e.IsOfCall) : Effect d ⟨.called r, events, d⟩

theorem effect_enroll {A : ArgsShape} {R : ResultShape ε} {d : Dispatcher ε} {h : Handler A R}
    (hc : h.convention = d.convention) (service method : String) :
    let r := d.enroll h service method
    d.Effect ⟨.registered (.ok r.endpoint), r.events, r.dispatcher⟩ := by
  intro r
  have hbound := h.convention_bound ⟨service, r.endpoint⟩
  have hevents : r.events = .registered r.endpoint d.convention ::
      if d.endpoints.contains r.endpoint then [.replaced r.endpoint] else [] := by
    rw [← hc, ← hbound]
    rfl
  rw [hevents]
  exact .registered _ _

namespace Effect

variable {d : Dispatcher ε} {outcome : StepOutcome ε}

theorem filter_isRegistered (h : d.Effect outcome) :
    outcome.events.filter Event.isRegistered =
      outcome.answer.returned?.toList.map (.registered · d.convention) := by
  cases h with
  | registered name e =>
    cases d.endpoints.contains name <;> rfl
  | refused err => rfl
  | called r events h => exact List.filter_eq_nil_iff.2 fun e he => by simp [(h e he).1]

theorem countP_isReplaced_add_size (h : d.Effect outcome) :
    outcome.events.countP Event.isReplaced + outcome.dispatcher.endpoints.size =
      outcome.answer.returned?.toList.length + d.endpoints.size := by
  cases h with
  | registered name e =>
    have hwarned : (Event.registered name d.convention ::
        if d.endpoints.contains name then [.replaced name] else []).countP Event.isReplaced =
          if d.endpoints.contains name then 1 else 0 := by
      cases d.endpoints.contains name <;> rfl
    rw [hwarned, SortedMap.size_insert, StepAnswer.returned?, Option.toList_some,
      List.length_singleton]
    split <;> omega
  | refused err => rfl
  | called r events h =>
    have hnone : events.countP Event.isReplaced = 0 :=
      List.countP_eq_zero.2 fun e he => by simp [(h e he).2]
    rw [hnone]
    rfl

theorem events_of_registered {name : String} (h : d.Effect outcome)
    (hname : outcome.answer = .registered (.ok name)) :
    outcome.events = .registered name d.convention ::
      if d.endpoints.contains name then [.replaced name] else [] := by
  cases h with
  | registered name' e =>
    cases hname
    rfl
  | refused err => cases hname
  | called r events h => cases hname

theorem events_of_refused {err : RegisterError} (h : d.Effect outcome)
    (herr : outcome.answer = .registered (.error err)) : outcome.events = [] := by
  cases h with
  | registered name e => cases herr
  | refused err => rfl
  | called r events h => cases herr

theorem of_isReplaced {front back : List Event} {e : Event} (h : d.Effect outcome)
    (hsplit : outcome.events = front ++ e :: back) (he : e.isReplaced) :
    ∃ name, e = .replaced name ∧ front = [.registered name d.convention] ∧
      outcome.answer = .registered (.ok name) ∧ d.endpoints.contains name := by
  obtain ⟨warned, rfl⟩ := Event.isReplaced_iff.1 he
  cases h with
  | registered name _ =>
    rcases front with _ | ⟨first, front⟩
    · cases hsplit
    · obtain ⟨rfl, hrest⟩ := List.cons.inj hsplit
      split at hrest
      next hold =>
        rcases front with _ | ⟨second, front⟩
        · cases hrest
          exact ⟨_, rfl, rfl, rfl, hold⟩
        · simp at hrest
      next => simp at hrest
  | refused err => simp at hsplit
  | called r events h =>
    obtain rfl : events = front ++ .replaced warned :: back := hsplit
    have hcall := h (.replaced warned) (List.mem_append_right _ List.mem_cons_self)
    exact absurd he (by simp [hcall.2])

end Effect

end Dispatcher

variable [Throwable ε]

theorem Conclusion.isOfCall_of_mem_log {R : ResultShape ε} {c : Conclusion R}
    {convention : Convention} {here : String} : ∀ e ∈ c.log convention here, e.IsOfCall := by
  rcases c.settles_or_refused with ⟨r, hs⟩ | ⟨left, hr⟩
  · have hsettled := settled_of_settles hs
    by_cases hd : c.Drops
    · rw [log_of_drops _ _ hd hsettled]
      simp [Event.isOfCall_iff]
    · rw [log_of_not_drops _ _ hd hsettled]
      simp [Event.isOfCall_iff]
  · have hsettled := settled_of_refused hr
    rcases hr.raised_or_returned with ⟨e, he⟩ | ⟨v, he, -⟩
    · rw [log_of_raised _ _ he hsettled]
      simp [Event.isOfCall_iff]
    · rw [log_of_returned _ _ he hsettled]
      exact nofun

namespace Dispatcher

theorem isOfCall_of_mem_handle {d : Dispatcher ε} {call : InboundCall} :
    ∀ e ∈ (d.handle call).events, e.IsOfCall := by
  have hdispatching : (Event.dispatching call.endpoint).IsOfCall := by simp [Event.isOfCall_iff]
  rcases d.unread_or_read call with ⟨err, hu⟩ | ⟨e, request, he, hq⟩
  · rw [handle_of_unread hu]
    exact List.forall_mem_singleton.2 hdispatching
  · rw [handle_of_served he hq, Activity.events_log, e.events_serve]
    exact List.forall_mem_cons.2 ⟨hdispatching, Conclusion.isOfCall_of_mem_log⟩

theorem effect_step (d : Dispatcher ε) (s : Step ε) : d.Effect (d.step s) := by
  cases s with
  | call c => exact .called _ _ isOfCall_of_mem_handle
  | register m h method? service? =>
    cases hr : d.register m h.handler method? service? with
    | error err =>
      simp only [step, hr]
      exact .refused err
    | ok r =>
      obtain ⟨hadm, rfl⟩ := register_eq_ok_iff.1 hr
      simp only [step, hr]
      exact effect_enroll hadm.convention _ _

def reported (d : Dispatcher ε) (steps : List (Step ε)) : List Event :=
  (d.run steps).flatMap (·.events)

def returned (d : Dispatcher ε) (steps : List (Step ε)) : List String :=
  (d.run steps).filterMap (·.answer.returned?)

theorem reported_cons (d : Dispatcher ε) (s : Step ε) (steps : List (Step ε)) :
    d.reported (s :: steps) = (d.step s).events ++ (d.step s).dispatcher.reported steps := rfl

theorem returned_cons (d : Dispatcher ε) (s : Step ε) (steps : List (Step ε)) :
    d.returned (s :: steps) =
      (d.step s).answer.returned?.toList ++ (d.step s).dispatcher.returned steps := by
  rw [returned, run_cons, List.filterMap_cons]
  cases (d.step s).answer.returned? <;> rfl

theorem mem_returned_iff {d : Dispatcher ε} {steps : List (Step ε)} {name : String} :
    name ∈ d.returned steps ↔
      ∃ outcome ∈ d.run steps, outcome.answer = .registered (.ok name) := by
  simp only [returned, List.mem_filterMap, StepAnswer.returned?_eq_some_iff]

theorem filter_isRegistered_reported (d : Dispatcher ε) (steps : List (Step ε)) :
    (d.reported steps).filter Event.isRegistered =
      (d.returned steps).map (.registered · d.convention) := by
  induction steps generalizing d with
  | nil => rfl
  | cons s steps ih =>
    rw [reported_cons, returned_cons, List.filter_append, List.map_append, ih, convention_step,
      (d.effect_step s).filter_isRegistered]

theorem countP_isReplaced_reported_add_size (d : Dispatcher ε) (steps : List (Step ε)) :
    (d.reported steps).countP Event.isReplaced + (d.after steps).endpoints.size =
      (d.returned steps).length + d.endpoints.size := by
  induction steps generalizing d with
  | nil => rfl
  | cons s steps ih =>
    have hstep := (d.effect_step s).countP_isReplaced_add_size
    have hrest := ih (d.step s).dispatcher
    have hafter : d.after (s :: steps) = (d.step s).dispatcher.after steps := rfl
    rw [reported_cons, returned_cons, List.countP_append, List.length_append, hafter]
    omega

theorem exists_step_of_reported {d : Dispatcher ε} {steps : List (Step ε)}
    {before after : List Event} {e : Event} (h : d.reported steps = before ++ e :: after) :
    ∃ past s rest front back, steps = past ++ s :: rest ∧ before = d.reported past ++ front ∧
      ((d.after past).step s).events = front ++ e :: back := by
  induction steps generalizing d before with
  | nil => simp [reported, run] at h
  | cons s steps ih =>
    rw [reported_cons] at h
    obtain ⟨back, hs⟩ | ⟨front, rfl, hrest⟩ : (∃ back, (d.step s).events = before ++ e :: back) ∨
        ∃ front, before = (d.step s).events ++ front ∧
          (d.step s).dispatcher.reported steps = front ++ e :: after := by
      rcases List.append_eq_append_iff.1 h with hlater | ⟨back, hs, hback⟩
      · exact .inr hlater
      · cases back with
        | nil => exact .inr ⟨[], by rw [hs, List.append_nil, List.append_nil], hback.symm⟩
        | cons e' back => exact .inl ⟨back, by rw [hs, (List.cons.inj hback).1]⟩
    · exact ⟨[], s, steps, before, back, rfl, rfl, hs⟩
    · obtain ⟨past, t, rest, front', back, rfl, rfl, ht⟩ := ih hrest
      exact ⟨s :: past, t, rest, front', back, rfl, by rw [reported_cons, List.append_assoc], ht⟩

theorem contains_after_empty_iff (c : Convention) {steps : List (Step ε)} {name : String} :
    ((empty c : Dispatcher ε).after steps).endpoints.contains name ↔
      name ∈ (empty c : Dispatcher ε).returned steps := by
  rw [mem_returned_iff, ← mem_names_after_empty, names, SortedMap.mem_keys_iff,
    SortedMap.contains, Option.isSome_iff_exists]

/-- A session that starts with an empty table reports the endpoints that it answers, in order, and
the reports without a warning are as many as the entries of the table. A refused registration logs
nothing. One that goes through is reported, with a warning right after its report just if its
endpoint was answered before. -/
theorem registrations_reported (c : Convention) (steps : List (Step ε)) :
    let d : Dispatcher ε := empty c
    let events := d.reported steps
    events.filter Event.isRegistered = (d.returned steps).map (.registered · c) ∧
    events.countP Event.isRegistered = (d.returned steps).length ∧
    (d.after steps).names.length ≤ (d.returned steps).length ∧
    events.countP Event.isReplaced =
      (d.returned steps).length - (d.after steps).names.length ∧
    (∀ outcome ∈ d.run steps, ∀ err, outcome.answer = .registered (.error err) →
      outcome.events = []) ∧
    (∀ past s rest name, steps = past ++ s :: rest →
      ((d.after past).step s).answer = .registered (.ok name) →
      ((d.after past).step s).events =
        .registered name c :: if name ∈ d.returned past then [.replaced name] else []) ∧
    ∀ before e after, events = before ++ e :: after → e.isReplaced →
      ∃ name past s rest, e = .replaced name ∧ steps = past ++ s :: rest ∧
        name ∈ d.returned past ∧ ((d.after past).step s).answer = .registered (.ok name) ∧
        before = d.reported past ++ [.registered name c] := by
  intro d events
  have hfilter : events.filter Event.isRegistered = (d.returned steps).map (.registered · c) :=
    d.filter_isRegistered_reported steps
  have hcount : events.countP Event.isReplaced + (d.after steps).names.length =
      (d.returned steps).length := by
    have hsize : (d.after steps).names.length = (d.after steps).endpoints.size := List.length_map _
    rw [hsize]
    exact d.countP_isReplaced_reported_add_size steps
  have hconvention : ∀ past, (d.after past).convention = c := convention_after d
  refine ⟨hfilter, ?_, by omega, by omega, ?refused, ?registered, ?warned⟩
  · rw [List.countP_eq_length_filter, hfilter, List.length_map]
  case refused =>
    intro outcome hmem err herr
    obtain ⟨i, hi⟩ := List.mem_iff_getElem?.1 hmem
    rw [getElem?_run] at hi
    obtain ⟨s, -, rfl⟩ := Option.map_eq_some_iff.1 hi
    exact (effect_step _ s).events_of_refused herr
  case registered =>
    intro past s rest name hsteps hname
    have hold : (d.after past).endpoints.contains name ↔ name ∈ d.returned past :=
      contains_after_empty_iff c
    rw [((d.after past).effect_step s).events_of_registered hname, hconvention]
    simp only [hold]
  case warned =>
    intro before e after hsplit he
    obtain ⟨past, s, rest, front, back, hsteps, rfl, hs⟩ := exists_step_of_reported hsplit
    obtain ⟨name, rfl, rfl, hname, hold⟩ := ((d.after past).effect_step s).of_isReplaced hs he
    refine ⟨name, past, s, rest, rfl, hsteps, (contains_after_empty_iff c).1 hold, hname, ?_⟩
    rw [hconvention]

open Sample in
theorem registrations_reported_files :
    let m : ServiceModule := ⟨"gen::Files", [helloMethod "a::get", helloMethod "get"]⟩
    let h : AnyHandler Thrown :=
      ⟨helloArgs, helloResult, .legacy ⟨"get", fun _ _ => .done (.ok none)⟩⟩
    let register (service : String) (method? : Option String) : Step Thrown :=
      .register m h method? (some service)
    let nested := register "Files" (some "a::get")
    let unknown := register "Files" (some "put")
    let call : Step Thrown := .call (.of "Files::a::get" .empty helloArgs ("Ada", ()) ⟨.empty, 0⟩)
    let inner := register "Files::a" none
    let d : Dispatcher Thrown := empty .legacy
    let past := [nested, unknown, call]
    let refused := (d.step nested).dispatcher.step unknown
    refused.answer = .registered (.error (.unknownMethod "Files" "put")) ∧ refused.events = [] ∧
      ((d.after past).step inner).answer = .registered (.ok "Files::a::get") ∧
      ((d.after past).step inner).events =
        [.registered "Files::a::get" .legacy, .replaced "Files::a::get"] ∧
      (d.reported (past ++ [inner])).countP Event.isRegistered = 2 ∧
      (d.reported (past ++ [inner])).countP Event.isReplaced = 1 ∧
      ∃ name earlier s rest, .replaced "Files::a::get" = Event.replaced name ∧
        past ++ [inner] = earlier ++ s :: rest ∧ name ∈ d.returned earlier ∧
        ((d.after earlier).step s).answer = .registered (.ok name) ∧
        d.reported past ++ [.registered "Files::a::get" .legacy] =
          d.reported earlier ++ [.registered name .legacy] := by
  intro m h register nested unknown call inner d past refused
  obtain ⟨-, hcount, -, hwarned, hrefused, hregistered, hfollows⟩ :=
    registrations_reported .legacy (past ++ [inner])
  have hanswer : refused.answer = .registered (.error (.unknownMethod "Files" "put")) := rfl
  have hinner : ((d.after past).step inner).answer = .registered (.ok "Files::a::get") := rfl
  have hreturned : d.returned (past ++ [inner]) = ["Files::a::get", "Files::a::get"] := rfl
  have hnames : (d.after (past ++ [inner])).names = ["Files::a::get"] := by decide +kernel
  have hevents : ((d.after past).step inner).events =
      [.registered "Files::a::get" .legacy, .replaced "Files::a::get"] :=
    hregistered past inner [] _ rfl hinner
  have hsplit : d.reported (past ++ [inner]) =
      (d.reported past ++ [.registered "Files::a::get" .legacy]) ++
        [.replaced "Files::a::get"] := by
    have hlast : (d.after past).run [inner] = [(d.after past).step inner] := rfl
    rw [reported, run_append, List.flatMap_append, hlast, List.flatMap_singleton, hevents,
      List.append_assoc]
    rfl
  rw [hreturned] at hcount hwarned
  rw [hnames] at hwarned
  exact ⟨hanswer, hrefused refused (.tail _ (.head _)) _ hanswer, hinner, hevents, hcount, hwarned,
    hfollows _ _ [] hsplit rfl⟩

end Dispatcher

end ServiceBinding
