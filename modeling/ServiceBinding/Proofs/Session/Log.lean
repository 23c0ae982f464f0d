import Mathlib.Control.Monad.Basic
import ServiceBinding.Proofs.Registration
import ServiceBinding.Proofs.SortedMap
import ServiceBinding.Proofs.Text.Order
import ServiceBinding.Sample.Modules
import ServiceBinding.Sample.Shapes
import ServiceBinding.Session

/-!
# The log of registrations

A registration that goes through is logged under the name it was answered. Main statement:
after any session the table of a dispatcher is this log, of which the last entry under a name
counts, so that nothing but the registrations of an endpoint has a say in its calls.
-/

namespace ServiceBinding

variable {ε : Type}

theorem Dispatcher.names_ascending (d : Dispatcher ε) :
    d.names.Pairwise fun a b => Utf8.bytes a < Utf8.bytes b :=
  d.endpoints.keys_ascending.imp Utf8.bytes_lt_bytes

variable [Throwable ε]

def Step.logged? : Step ε → StepAnswer ε → Option (String × Endpoint ε)
  | .register m h _ service?, .registered (.ok name) =>
    some (name, ⟨h.args, h.result, h.handler.bound ⟨nameOr service? m.serviceName, name⟩⟩)
  | _, _ => none

namespace Dispatcher

def log (d : Dispatcher ε) (steps : List (Step ε)) : List (String × Endpoint ε) :=
  (steps.zip (d.run steps)).filterMap fun (s, outcome) => s.logged? outcome.answer

theorem step_dispatcher (d : Dispatcher ε) (s : Step ε) :
    (d.step s).dispatcher =
      ⟨d.convention, d.endpoints.insertAll (s.logged? (d.step s).answer).toList⟩ := by
  cases s with
  | call c => rfl
  | register m h method? service? =>
    cases hr : d.register m h.handler method? service? with
    | error e => simp only [step, hr]; rfl
    | ok r =>
      obtain ⟨-, rfl⟩ := register_eq_ok_iff.1 hr
      simp only [step, hr]
      rfl

theorem convention_step (d : Dispatcher ε) (s : Step ε) :
    (d.step s).dispatcher.convention = d.convention := by
  rw [step_dispatcher]

theorem answer_register (d : Dispatcher ε) (m : ServiceModule) (h : AnyHandler ε)
    (method? service? : Option String) : (d.step (.register m h method? service?)).answer =
      .registered ((d.register m h.handler method? service?).map (·.endpoint)) := by
  simp only [step]
  cases d.register m h.handler method? service? <;> rfl

theorem step_answer_congr {d d' : Dispatcher ε} {s : Step ε} (hc : d.convention = d'.convention)
    (he : ∀ call, s = .call call →
      d.endpoints.get? call.endpoint = d'.endpoints.get? call.endpoint) :
    (d.step s).answer = (d'.step s).answer := by
  cases s with
  | call c => simp only [step, handle, he c rfl]
  | register m h method? service? =>
    rw [answer_register, answer_register, register_endpoint_congr hc]

theorem logged?_congr {d d' : Dispatcher ε} (hc : d.convention = d'.convention) (s : Step ε) :
    s.logged? (d.step s).answer = s.logged? (d'.step s).answer := by
  cases s with
  | call c => rfl
  | register m h method? service? => rw [step_answer_congr hc (by rintro _ ⟨⟩)]

theorem exists_logged_iff {s : Step ε} {d : Dispatcher ε} {name : String} :
    (∃ e, s.logged? (d.step s).answer = some (name, e)) ↔
      (d.step s).answer = .registered (.ok name) := by
  cases s with
  | call c => simp [step, Step.logged?]
  | register m h method? service? =>
    simp only [step]
    cases d.register m h.handler method? service? <;> simp [Step.logged?]

theorem get?_step {d : Dispatcher ε} {s : Step ε} {name : String}
    (h : (d.step s).answer ≠ .registered (.ok name)) :
    (d.step s).dispatcher.endpoints.get? name = d.endpoints.get? name := by
  have hnone : SortedMap.lastValue? name (s.logged? (d.step s).answer).toList = none :=
    SortedMap.lastValue?_eq_none_iff.2 fun e he =>
      h (exists_logged_iff.1 ⟨e, Option.mem_toList.1 he⟩)
  rw [step_dispatcher, SortedMap.get?_insertAll, hnone, Option.none_or]

theorem step_of_registered {d : Dispatcher ε} {s : Step ε} {name : String}
    (h : (d.step s).answer = .registered (.ok name)) :
    ∃ e, ∀ d' : Dispatcher ε, d'.convention = d.convention →
      (d'.step s).dispatcher = ⟨d'.convention, d'.endpoints.insert name e⟩ := by
  obtain ⟨e, he⟩ := exists_logged_iff.2 h
  refine ⟨e, fun d' hc => ?_⟩
  rw [step_dispatcher, logged?_congr hc, he]
  rfl

theorem step_comm {d : Dispatcher ε} {s t : Step ε} {a b : String} (hab : a ≠ b)
    (hs : (d.step s).answer = .registered (.ok a))
    (ht : ((d.step s).dispatcher.step t).answer = .registered (.ok b)) :
    ((d.step s).dispatcher.step t).dispatcher = ((d.step t).dispatcher.step s).dispatcher := by
  obtain ⟨e, hs⟩ := step_of_registered hs
  obtain ⟨f, ht⟩ := step_of_registered ht
  have hc : (d.step s).dispatcher.convention = d.convention := convention_step d s
  have hc' : (d.step t).dispatcher.convention = d.convention := convention_step d t
  have hst : ((d.step s).dispatcher.step t).dispatcher =
      ⟨d.convention, (d.endpoints.insert a e).insert b f⟩ := by rw [ht _ rfl, hs d rfl]
  have hts : ((d.step t).dispatcher.step s).dispatcher =
      ⟨d.convention, (d.endpoints.insert b f).insert a e⟩ := by rw [hs _ hc', ht d hc.symm]
  rw [hst, hts, SortedMap.insert_comm hab]

theorem run_cons (d : Dispatcher ε) (s : Step ε) (steps : List (Step ε)) :
    d.run (s :: steps) = d.step s :: (d.step s).dispatcher.run steps := rfl

theorem after_append (d : Dispatcher ε) (steps more : List (Step ε)) :
    d.after (steps ++ more) = (d.after steps).after more := List.foldl_append

theorem log_cons (d : Dispatcher ε) (s : Step ε) (steps : List (Step ε)) :
    d.log (s :: steps) =
      (s.logged? (d.step s).answer).toList ++ (d.step s).dispatcher.log steps := by
  simp only [log, run_cons, List.zip_cons_cons, List.filterMap_cons]
  cases s.logged? (d.step s).answer <;> rfl

theorem convention_after (d : Dispatcher ε) (steps : List (Step ε)) :
    (d.after steps).convention = d.convention := by
  induction steps generalizing d with
  | nil => rfl
  | cons s steps ih => exact (ih _).trans (convention_step d s)

theorem getElem?_run (d : Dispatcher ε) (steps : List (Step ε)) (i : Nat) :
    (d.run steps)[i]? = steps[i]?.map (d.after (steps.take i)).step := by
  induction steps generalizing d i with
  | nil => rfl
  | cons s steps ih =>
    cases i with
    | zero => rfl
    | succ i => exact ih (d.step s).dispatcher i

/-- The table after a session is the log written over the table before it. -/
theorem endpoints_after (d : Dispatcher ε) (steps : List (Step ε)) :
    (d.after steps).endpoints = d.endpoints.insertAll (d.log steps) := by
  induction steps generalizing d with
  | nil => rfl
  | cons s steps ih =>
    have hs : (d.step s).dispatcher.endpoints =
        d.endpoints.insertAll (s.logged? (d.step s).answer).toList := by rw [step_dispatcher]
    have hafter : d.after (s :: steps) = (d.step s).dispatcher.after steps := rfl
    rw [hafter, ih, log_cons, hs, SortedMap.insertAll, SortedMap.insertAll, SortedMap.insertAll,
      List.foldl_append]

theorem run_append (d : Dispatcher ε) (steps more : List (Step ε)) :
    d.run (steps ++ more) = d.run steps ++ (d.after steps).run more := by
  induction steps generalizing d with
  | nil => rfl
  | cons s steps ih =>
    rw [List.cons_append, run_cons, run_cons, ih]
    rfl

theorem length_run (d : Dispatcher ε) (steps : List (Step ε)) :
    (d.run steps).length = steps.length := by
  induction steps generalizing d with
  | nil => rfl
  | cons s steps ih => rw [run_cons, List.length_cons, ih, List.length_cons]

theorem getElem?_run_append (d : Dispatcher ε) (steps more : List (Step ε)) (i : Nat) :
    (d.run (steps ++ more))[steps.length + i]? = ((d.after steps).run more)[i]? := by
  rw [run_append, List.getElem?_append_right (length_run d steps ▸ Nat.le_add_right _ _),
    length_run, Nat.add_sub_cancel_left]

theorem drop_run_append (d : Dispatcher ε) (steps more : List (Step ε)) (n : Nat) :
    (d.run (steps ++ more)).drop (steps.length + n) = ((d.after steps).run more).drop n := by
  rw [run_append, ← length_run d steps, List.drop_length_add_append]

theorem log_congr {d d' : Dispatcher ε} (hc : d.convention = d'.convention)
    (steps : List (Step ε)) : d.log steps = d'.log steps := by
  induction steps generalizing d d' with
  | nil => rfl
  | cons s steps ih =>
    have hs : (d.step s).dispatcher.convention = (d'.step s).dispatcher.convention := by
      rw [convention_step, convention_step, hc]
    rw [log_cons, log_cons, logged?_congr hc, ih hs]

theorem exists_log_iff {d : Dispatcher ε} {steps : List (Step ε)} {name : String} :
    (∃ e, (name, e) ∈ d.log steps) ↔
      ∃ outcome ∈ d.run steps, outcome.answer = .registered (.ok name) := by
  induction steps generalizing d with
  | nil => simp [log, run]
  | cons s steps ih =>
    simp only [log_cons, run_cons, List.mem_append, exists_or, ih, Option.mem_toList,
      List.mem_cons, exists_eq_or_imp]
    exact or_congr_left exists_logged_iff

theorem get?_after (d : Dispatcher ε) (steps : List (Step ε)) (name : String) :
    (d.after steps).endpoints.get? name =
      (SortedMap.lastValue? name (d.log steps)).or (d.endpoints.get? name) := by
  rw [endpoints_after, SortedMap.get?_insertAll]

theorem get?_after_empty (c : Convention) (steps : List (Step ε)) (name : String) :
    ((empty c : Dispatcher ε).after steps).endpoints.get? name =
      SortedMap.lastValue? name ((empty c : Dispatcher ε).log steps) :=
  (get?_after _ steps name).trans Option.or_none

theorem answer_call (c : Convention) {steps : List (Step ε)} {i : Nat} {call : InboundCall}
    (h : steps[i]? = some (.call call)) :
    ((empty c : Dispatcher ε).run steps)[i]?.map (·.answer) = some (.called
      (match SortedMap.lastValue? call.endpoint
          ((empty c : Dispatcher ε).log (steps.take i)) with
        | none => .error (.noSuchEndpoint call.endpoint)
        | some e => (e.handle call).result)) := by
  rw [getElem?_run, h, ← get?_after_empty]
  simp only [Option.map_some, step, handle]
  cases ((empty c).after (steps.take i)).endpoints.get? call.endpoint <;> rfl

theorem mem_names_after_empty (c : Convention) (steps : List (Step ε)) (name : String) :
    name ∈ ((empty c : Dispatcher ε).after steps).names ↔
      ∃ outcome ∈ (empty c : Dispatcher ε).run steps,
        outcome.answer = .registered (.ok name) := by
  rw [← exists_log_iff, names, SortedMap.mem_keys_iff]
  simp only [get?_after_empty, ← Option.ne_none_iff_exists', ne_eq,
    SortedMap.lastValue?_eq_none_iff, Classical.not_forall, Classical.not_not]

theorem answer_without {d : Dispatcher ε} {s t : Step ε} {rest : List (Step ε)} {j : Nat}
    (ht : rest[j]? = some t)
    (h : ∀ call, t = .call call → (d.step s).answer ≠ .registered (.ok call.endpoint)) :
    ((d.step s).dispatcher.run rest)[j]?.map (·.answer) = (d.run rest)[j]?.map (·.answer) := by
  have hc : (d.step s).dispatcher.convention = d.convention := convention_step d s
  rw [getElem?_run, getElem?_run, ht, Option.map_some, Option.map_some, Option.map_some,
    Option.map_some, Option.some.injEq]
  -- both sessions log the same from here on, over tables that agree at the endpoint called
  refine step_answer_congr ?_ fun call hcall => ?_
  · rw [convention_after, convention_after, hc]
  · rw [get?_after, get?_after, log_congr hc, get?_step (h call hcall)]

/-- A call is answered by the last entry of the log under its endpoint, and the contexts and
names of the table are those of the log. So steps that do not register the endpoint called have
no say in an answer, and registrations of different endpoints may come in either order. -/
theorem session_follows_log (c : Convention) (steps : List (Step ε)) :
    let d : Dispatcher ε := empty c
    (∀ (i : Nat) (call : InboundCall), steps[i]? = some (.call call) →
      (d.run steps)[i]?.map (·.answer) = some (.called
        (match SortedMap.lastValue? call.endpoint (d.log (steps.take i)) with
          | none => .error (.noSuchEndpoint call.endpoint)
          | some e => (e.handle call).result))) ∧
    (∀ name, (d.after steps).context? name =
      (SortedMap.lastValue? name (d.log steps)).map (·.strategy.context)) ∧
    (d.after steps).names.Pairwise (fun a b => Utf8.bytes a < Utf8.bytes b) ∧
    (∀ name, name ∈ (d.after steps).names ↔
      ∃ outcome ∈ d.run steps, outcome.answer = .registered (.ok name)) ∧
    (∀ (before : List (Step ε)) s rest (j : Nat) t, steps = before ++ s :: rest →
      rest[j]? = some t →
      (∀ call, t = .call call →
        ((d.after before).step s).answer ≠ .registered (.ok call.endpoint)) →
      (d.run steps)[before.length + (j + 1)]?.map (·.answer) =
        (d.run (before ++ rest))[before.length + j]?.map (·.answer)) ∧
    (∀ (before : List (Step ε)) s t rest a b, steps = before ++ s :: t :: rest → a ≠ b →
      ((d.after before).step s).answer = .registered (.ok a) →
      ((d.after (before ++ [s])).step t).answer = .registered (.ok b) →
      (d.run steps).drop (before.length + 2) =
        (d.run (before ++ t :: s :: rest)).drop (before.length + 2)) := by
  intro d
  refine ⟨fun i call h => answer_call c h, fun name => ?_, names_ascending _,
    mem_names_after_empty c steps, ?without, ?swap⟩
  · rw [context?, get?_after_empty]
  case without =>
    rintro before s rest j t rfl ht h
    rw [getElem?_run_append, getElem?_run_append]
    exact answer_without ht h
  case swap =>
    rintro before s t rest a b rfl hab hs ht
    rw [after_append] at ht
    have hboth : ∀ s t, (d.run (before ++ s :: t :: rest)).drop (before.length + 2) =
        (((d.after before).step s).dispatcher.step t).dispatcher.run rest :=
      fun s t => drop_run_append d before (s :: t :: rest) 2
    rw [hboth, hboth, step_comm hab hs ht]

open Sample in
theorem session_follows_log_greeter :
    let greeter (h : AnyHandler Thrown) : Step Thrown :=
      .register ⟨"gen::Greeter", [helloMethod "hello", method "ping"]⟩ h none none
    let hello (text : String) : Handler helloArgs helloResult :=
      .legacy ⟨"hello", fun _ _ => .done (.ok (some text))⟩
    let ping : Handler (unitArgs "ping_args") pingResult :=
      .legacy ⟨"ping", fun _ _ => .done (.ok none)⟩
    let one := greeter ⟨_, _, hello "one"⟩
    let two := greeter ⟨_, _, hello "two"⟩
    let other := greeter ⟨_, _, ping⟩
    let c : InboundCall := .of "Greeter::hello" .empty helloArgs ("Ada", ()) ⟨.empty, 0⟩
    let d : Dispatcher Thrown := empty .legacy
    let steps := [one, other, two, .call c]
    steps[3]? = some (.call c) ∧
      (d.run steps)[3]?.map (·.answer) =
        some (.called (.ok ⟨.ok, .empty, encodeAs helloResult.schema (some "two", ())⟩)) ∧
      (d.step one).answer = .registered (.ok "Greeter::hello") ∧
      ((d.after [one]).step other).answer = .registered (.ok "Greeter::ping") ∧
      (d.run steps)[3]?.map (·.answer) = (d.run [one, two, .call c])[2]?.map (·.answer) ∧
      (d.run steps).drop 2 = (d.run [other, one, two, .call c]).drop 2 := by
  intro greeter hello ping one two other c d steps
  obtain ⟨hcall, -, -, -, hwithout, hswap⟩ := session_follows_log .legacy steps
  have hw : (Endpoint.handle (ε := Thrown)
      ⟨_, _, (hello "two").bound ⟨"Greeter", "Greeter::hello"⟩⟩ c).result =
        .ok ⟨.ok, .empty, encodeAs helloResult.schema (some "two", ())⟩ := by decide +kernel
  have hone : (d.step one).answer = .registered (.ok "Greeter::hello") := rfl
  have hother : ((d.after [one]).step other).answer = .registered (.ok "Greeter::ping") := rfl
  refine ⟨rfl, ?_, hone, hother, ?_, ?_⟩
  · exact (hcall 3 c rfl).trans (congrArg (some ∘ StepAnswer.called) hw)
  · refine hwithout [one] other [two, .call c] 1 (.call c) rfl rfl ?_
    rintro _ ⟨⟩ he
    rw [hother] at he
    injection he with he
    exact absurd (Except.ok.inj he) (by decide)
  · exact hswap [] one other [two, .call c] _ _ rfl (by decide) hone hother

end Dispatcher

end ServiceBinding
