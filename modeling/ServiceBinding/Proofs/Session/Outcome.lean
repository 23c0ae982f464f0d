import ServiceBinding.Proofs.Session.Log

/-!
# The outcome of a registration

Main statement: a registration is either answered the name of its endpoint or the error of the
first rule that it breaks; what a module declares after the first method of the name has no say
in it; and the table changes at the endpoint of a registration that goes through, and nowhere
else.
-/

namespace ServiceBinding.Dispatcher

variable {ε : Type}

theorem mem_names_congr {d d' : Dispatcher ε} {name : String}
    (h : d.endpoints.get? name = d'.endpoints.get? name) : name ∈ d.names ↔ name ∈ d'.names := by
  rw [names, names, SortedMap.mem_keys_iff, SortedMap.mem_keys_iff, h]

theorem context?_congr {d d' : Dispatcher ε} {name : String}
    (h : d.endpoints.get? name = d'.endpoints.get? name) : d.context? name = d'.context? name := by
  rw [context?, context?, h]

variable [Throwable ε]

theorem handle_congr {d d' : Dispatcher ε} {call : InboundCall}
    (h : d.endpoints.get? call.endpoint = d'.endpoints.get? call.endpoint) :
    d.handle call = d'.handle call := by
  simp only [handle, h]

section

variable {d : Dispatcher ε} {m : ServiceModule} {h : AnyHandler ε} {method? service? : Option String}

theorem dispatcher_of_error {e : RegisterError}
    (he : (d.step (.register m h method? service?)).answer = .registered (.error e)) :
    (d.step (.register m h method? service?)).dispatcher = d := by
  rw [step_dispatcher, he]
  rfl

theorem get?_of_registered {name : String}
    (hname : (d.step (.register m h method? service?)).answer = .registered (.ok name)) :
    (d.step (.register m h method? service?)).dispatcher.endpoints.get? name =
      some ⟨_, _, h.handler.bound ⟨nameOr service? m.serviceName, name⟩⟩ := by
  rw [step_dispatcher, hname]
  exact (SortedMap.get?_insert _ _ _ _).trans (if_pos rfl)

end

/-- A registration is answered its endpoint or the error of the first rule that it breaks,
whatever the module declares after the first method of the name. The table then differs at the
endpoint answered, if any, and the dispatcher tells the same of every other name. -/
theorem registration_all_or_nothing (d : Dispatcher ε) (m : ServiceModule) (h : AnyHandler ε)
    (method? service? : Option String) :
    let service := nameOr service? m.serviceName
    let method := nameOr method? h.handler.name
    let outcome := d.step (.register m h method? service?)
    ∃ r : Except RegisterError String, outcome.answer = .registered r ∧
      (∀ name, r = .ok name ↔
        Admissible d.convention m h.handler service method ∧
          name = service ++ "::" ++ method) ∧
      (∀ e, r = .error e ↔ Rejected d.convention m h.handler service method e) ∧
      (∀ before spec after after', m.methods = before ++ spec :: after → spec.name = method →
        d.step (.register ⟨m.path, before ++ spec :: after'⟩ h method? service?) = outcome) ∧
      (∀ e, r = .error e → outcome.dispatcher = d) ∧
      (∀ name, r = .ok name → outcome.dispatcher.endpoints.get? name =
        some ⟨_, _, h.handler.bound ⟨service, name⟩⟩) ∧
      outcome.dispatcher.convention = d.convention ∧
      ∀ other, r ≠ .ok other →
        outcome.dispatcher.endpoints.get? other = d.endpoints.get? other ∧
        (other ∈ outcome.dispatcher.names ↔ other ∈ d.names) ∧
        outcome.dispatcher.context? other = d.context? other ∧
        ∀ call, call.endpoint = other → outcome.dispatcher.handle call = d.handle call := by
  intro service method outcome
  have hanswer : outcome.answer =
      .registered ((d.register m h.handler method? service?).map (·.endpoint)) := answer_register ..
  refine ⟨_, hanswer, fun name => endpoint_eq_ok_iff, fun e => endpoint_eq_error_iff, ?later,
    fun e he => dispatcher_of_error (hanswer.trans (congrArg _ he)),
    fun name hname => get?_of_registered (hanswer.trans (congrArg _ hname)),
    convention_step d _, fun other hother => ?others⟩
  case later =>
    intro before spec after after' hsplit hname
    have hlookup : (⟨m.path, before ++ spec :: after'⟩ : ServiceModule).method? method =
        m.method? method := by
      rw [← hname, ServiceModule.method?_of_split hsplit, ServiceModule.method?_of_split rfl]
    have hregister : d.register ⟨m.path, before ++ spec :: after'⟩ h.handler method? service? =
        d.register m h.handler method? service? := register_module_congr d service? rfl hlookup
    simp only [outcome, step, hregister]
  case others =>
    have hget : outcome.dispatcher.endpoints.get? other = d.endpoints.get? other := by
      refine get?_step fun ho => hother ?_
      rw [answer_register] at ho
      exact StepAnswer.registered.inj ho
    exact ⟨hget, mem_names_congr hget, context?_congr hget,
      fun call hcall => handle_congr (hcall ▸ hget)⟩

open Sample in
theorem registration_all_or_nothing_tricky :
    let h : AnyHandler Thrown :=
      ⟨helloArgs, helloResult, .legacy ⟨"hello", fun _ _ => .done (.ok none)⟩⟩
    let m : ServiceModule := ⟨"gen::Tricky", trickyMethods⟩
    let dup : Step Thrown := .register m h (some "dup") none
    let pud : Step Thrown := .register m h (some "pud") (some "")
    let d : Dispatcher Thrown := empty .legacy
    let d' := (d.step dup).dispatcher
    (d.step dup).answer = .registered (.ok "Tricky::dup") ∧
      d'.endpoints.get? "Tricky::dup" =
        some ⟨_, _, h.handler.bound ⟨"Tricky", "Tricky::dup"⟩⟩ ∧
      d.step (.register ⟨"gen::Tricky", [helloMethod "dup"]⟩ h (some "dup") none) = d.step dup ∧
      (∀ call, call.endpoint ≠ "Tricky::dup" → d'.handle call = d.handle call) ∧
      (d'.step pud).answer = .registered (.error (.oneway "Tricky::pud")) ∧
      (d'.step pud).dispatcher = d' := by
  intro h m dup pud d d'
  have hservice : nameOr none m.serviceName = "Tricky" := by decide
  have hmethod : nameOr (some "dup") h.handler.name = "dup" := rfl
  have hdup : Admissible d.convention m h.handler "Tricky" "dup" :=
    ⟨by decide, by decide, ⟨[], trickyMethods.tail, rfl, by simp⟩, rfl⟩
  obtain ⟨r, hr, hok, -, hlater, -, hget, -, hothers⟩ :=
    registration_all_or_nothing d m h (some "dup") none
  rw [hservice, hmethod] at hok
  rw [hservice] at hget
  obtain rfl : r = .ok "Tricky::dup" := (hok _).2 ⟨hdup, rfl⟩
  have hservice' : nameOr (some "") m.serviceName = "Tricky" := hservice
  have hmethod' : nameOr (some "pud") h.handler.name = "pud" := rfl
  have hpud : Rejected d'.convention m h.handler "Tricky" "pud" (.oneway "Tricky::pud") :=
    .oneway (by decide) (by decide)
      ⟨rfl, trickyMethods.take 2, trickyMethods.drop 3, rfl, by decide⟩ rfl
  obtain ⟨r', hr', -, herr, -, hkeep, -⟩ :=
    registration_all_or_nothing d' m h (some "pud") (some "")
  rw [hservice', hmethod'] at herr
  obtain rfl : r' = .error (.oneway "Tricky::pud") := (herr _).2 hpud
  refine ⟨hr, hget _ rfl, ?_, fun call hcall => ?_, hr', hkeep _ rfl⟩
  · exact hlater [] (helloMethod "dup") trickyMethods.tail [] rfl rfl
  · exact (hothers call.endpoint fun he => hcall (Except.ok.inj he).symm).2.2.2 call rfl

end ServiceBinding.Dispatcher
