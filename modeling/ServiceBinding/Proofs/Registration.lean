import ServiceBinding.Proofs.Activity
import ServiceBinding.Registration

/-!
# What a registration needs and does

Main statements: a registration goes through just if its service and its method have names,
the module declares the method with the handler's containers, and the handler is of the
dispatcher's convention; it then puts the handler under the name of its endpoint. Otherwise
it has the error of the first of these rules that it breaks. The endpoints that are there
already have no say in it, and neither has what the module declares after the first method of
the name.
-/

namespace ServiceBinding

variable {ε : Type} {A : ArgsShape} {R : ResultShape ε}

namespace ServiceModule

def First (m : ServiceModule) (method : String) (spec : MethodSpec) : Prop :=
  spec.name = method ∧ ∃ before after, m.methods = before ++ spec :: after ∧
    ∀ s ∈ before, s.name ≠ method

def Declares (m : ServiceModule) (method args result : String) : Prop :=
  ∃ before after, m.methods = before ++ ⟨method, args, some result⟩ :: after ∧
    ∀ spec ∈ before, spec.name ≠ method

theorem first_iff {m : ServiceModule} {method : String} {spec : MethodSpec} :
    m.First method spec ↔ m.method? method = some spec := by
  simp [First, method?, List.find?_eq_some_iff_append]

theorem declares_iff {m : ServiceModule} {method args result : String} :
    m.Declares method args result ↔ m.method? method = some ⟨method, args, some result⟩ := by
  simp [Declares, method?, List.find?_eq_some_iff_append]

theorem method?_eq_none_iff {m : ServiceModule} {method : String} :
    m.method? method = none ↔ ∀ spec ∈ m.methods, spec.name ≠ method := by
  simp [method?, List.find?_eq_none]

theorem method?_of_split {m : ServiceModule} {before after : List MethodSpec}
    {spec : MethodSpec} (h : m.methods = before ++ spec :: after) :
    m.method? spec.name = (before.find? (·.name = spec.name)).or (some spec) := by
  simp [method?, h]

end ServiceModule

namespace Handler

def bound (h : Handler A R) (context : CallContext) : Strategy A R :=
  match h with
  | legacy h => .legacy h context
  | modern h => .modern h context

@[simp] theorem convention_bound (h : Handler A R) (context : CallContext) :
    (h.bound context).convention = h.convention := by
  cases h <;> rfl

@[simp] theorem context_bound (h : Handler A R) (context : CallContext) :
    (h.bound context).context = context := by
  cases h <;> rfl

end Handler

theorem Strategy.select_eq_ok (h : Handler A R) (context : CallContext) :
    Strategy.select h.convention h context = .ok (h.bound context) := by
  cases h <;> rfl

theorem Strategy.select_eq_error {c : Convention} {h : Handler A R} {context : CallContext}
    (hc : h.convention ≠ c) :
    Strategy.select c h context = .error (.conventionMismatch c h.convention) := by
  cases c <;> cases h <;> first | rfl | exact absurd rfl hc

theorem checkShape_self (name : String) : checkShape name name = .ok () := if_pos rfl

theorem checkShape_eq_error {expected found : String} (h : expected ≠ found) :
    checkShape expected found = .error (.shapeMismatch expected found) := if_neg h

structure Admissible (c : Convention) (m : ServiceModule) (h : Handler A R)
    (service method : String) : Prop where
  service_ne : service ≠ ""
  method_ne : method ≠ ""
  declared : m.Declares method A.name R.name
  convention : h.convention = c

/-- The error of a registration at a dispatcher of the convention. Every rule but the first
asks what the rules before it check. -/
inductive Rejected (c : Convention) (m : ServiceModule) (h : Handler A R)
    (service method : String) : RegisterError → Prop
  | missingService : service = "" → Rejected c m h service method .missingService
  | missingMethod : service ≠ "" → method = "" → Rejected c m h service method .missingMethod
  | unknownMethod : service ≠ "" → method ≠ "" → (∀ spec ∈ m.methods, spec.name ≠ method) →
      Rejected c m h service method (.unknownMethod service method)
  | oneway {spec : MethodSpec} : service ≠ "" → method ≠ "" → m.First method spec →
      spec.result? = none → Rejected c m h service method (.oneway (service ++ "::" ++ method))
  | args {spec : MethodSpec} {result : String} : service ≠ "" → method ≠ "" →
      m.First method spec → spec.result? = some result → spec.args ≠ A.name →
      Rejected c m h service method (.shapeMismatch spec.args A.name)
  | result {spec : MethodSpec} {result : String} : service ≠ "" → method ≠ "" →
      m.First method spec → spec.result? = some result → spec.args = A.name →
      result ≠ R.name → Rejected c m h service method (.shapeMismatch result R.name)
  | convention : service ≠ "" → method ≠ "" → m.Declares method A.name R.name →
      h.convention ≠ c → Rejected c m h service method (.conventionMismatch c h.convention)

theorem admissible_or_rejected (c : Convention) (m : ServiceModule) (h : Handler A R)
    (service method : String) :
    Admissible c m h service method ∨ ∃ e, Rejected c m h service method e := by
  by_cases hs : service = ""
  · exact .inr ⟨_, .missingService hs⟩
  by_cases hm : method = ""
  · exact .inr ⟨_, .missingMethod hs hm⟩
  cases hspec : m.method? method with
  | none => exact .inr ⟨_, .unknownMethod hs hm (ServiceModule.method?_eq_none_iff.1 hspec)⟩
  | some spec =>
    have hfirst := ServiceModule.first_iff.2 hspec
    cases hresult : spec.result? with
    | none => exact .inr ⟨_, .oneway hs hm hfirst hresult⟩
    | some result =>
      by_cases hargs : spec.args = A.name
      case neg => exact .inr ⟨_, .args hs hm hfirst hresult hargs⟩
      by_cases hname : result = R.name
      case neg => exact .inr ⟨_, .result hs hm hfirst hresult hargs hname⟩
      have hdecl : m.Declares method A.name R.name := by
        obtain ⟨name, args, result?⟩ := spec
        obtain rfl : name = method := hfirst.1
        obtain rfl : args = A.name := hargs
        obtain rfl : result? = some result := hresult
        exact hname ▸ ServiceModule.declares_iff.2 hspec
      by_cases hc : h.convention = c
      · exact .inl ⟨hs, hm, hdecl, hc⟩
      · exact .inr ⟨_, .convention hs hm hdecl hc⟩

namespace Dispatcher

def enroll (d : Dispatcher ε) (h : Handler A R) (service method : String) : Registered ε :=
  let name := endpointName service method
  let added := d.add name ⟨A, R, h.bound ⟨service, name⟩⟩
  ⟨name, added.1, added.2⟩

section

variable {d : Dispatcher ε} {m : ServiceModule} {h : Handler A R} {method? service? : Option String}

theorem register_of_admissible
    (hadm : Admissible d.convention m h (nameOr service? m.serviceName)
      (nameOr method? h.name)) :
    d.register m h method? service? =
      .ok (d.enroll h (nameOr service? m.serviceName) (nameOr method? h.name)) := by
  simp only [register]
  generalize nameOr service? m.serviceName = service at hadm ⊢
  generalize nameOr method? h.name = method at hadm ⊢
  simp only [hadm.service_ne, hadm.method_ne, if_false,
    ServiceModule.declares_iff.1 hadm.declared, checkShape_self, ← hadm.convention,
    Strategy.select_eq_ok]
  rfl

theorem register_of_rejected {e : RegisterError}
    (hr : Rejected d.convention m h (nameOr service? m.serviceName) (nameOr method? h.name) e) :
    d.register m h method? service? = .error e := by
  simp only [register]
  generalize nameOr service? m.serviceName = service at hr ⊢
  generalize nameOr method? h.name = method at hr ⊢
  cases hr with
  | missingService hs => rw [if_pos hs]; rfl
  | missingMethod hs hm => rw [if_neg hs, if_pos hm]; rfl
  | unknownMethod hs hm hno =>
    rw [if_neg hs, if_neg hm, ServiceModule.method?_eq_none_iff.2 hno]
    rfl
  | oneway hs hm hfirst hnone =>
    simp only [if_neg hs, if_neg hm, ServiceModule.first_iff.1 hfirst, hnone]
    rfl
  | args hs hm hfirst hsome hargs =>
    simp only [if_neg hs, if_neg hm, ServiceModule.first_iff.1 hfirst, hsome,
      checkShape_eq_error hargs]
    rfl
  | result hs hm hfirst hsome hargs hresult =>
    simp only [if_neg hs, if_neg hm, ServiceModule.first_iff.1 hfirst, hsome,
      hargs, checkShape_self, checkShape_eq_error hresult]
    rfl
  | convention hs hm hdecl hc =>
    simp only [if_neg hs, if_neg hm, ServiceModule.declares_iff.1 hdecl,
      checkShape_self, Strategy.select_eq_error hc]
    rfl

theorem register_eq_ok_iff {r : Registered ε} :
    d.register m h method? service? = .ok r ↔
      Admissible d.convention m h (nameOr service? m.serviceName) (nameOr method? h.name) ∧
        d.enroll h (nameOr service? m.serviceName) (nameOr method? h.name) = r := by
  constructor
  · intro hr
    rcases admissible_or_rejected d.convention m h (nameOr service? m.serviceName)
      (nameOr method? h.name) with hadm | ⟨e, hrej⟩
    · rw [register_of_admissible hadm] at hr
      exact ⟨hadm, Except.ok.inj hr⟩
    · rw [register_of_rejected hrej] at hr
      cases hr
  · rintro ⟨hadm, rfl⟩
    exact register_of_admissible hadm

theorem register_eq_error_iff {e : RegisterError} :
    d.register m h method? service? = .error e ↔
      Rejected d.convention m h (nameOr service? m.serviceName) (nameOr method? h.name) e := by
  refine ⟨fun he => ?_, register_of_rejected⟩
  rcases admissible_or_rejected d.convention m h (nameOr service? m.serviceName)
    (nameOr method? h.name) with hadm | ⟨e', hrej⟩
  · rw [register_of_admissible hadm] at he
    cases he
  · rw [register_of_rejected hrej] at he
    exact Except.error.inj he ▸ hrej

theorem endpoint_eq_ok_iff {name : String} :
    (d.register m h method? service?).map (·.endpoint) = .ok name ↔
      Admissible d.convention m h (nameOr service? m.serviceName) (nameOr method? h.name) ∧
        name = nameOr service? m.serviceName ++ "::" ++ nameOr method? h.name := by
  constructor
  · intro hname
    cases hr : d.register m h method? service? with
    | error e => rw [hr] at hname; cases hname
    | ok r =>
      rw [hr] at hname
      obtain ⟨hadm, rfl⟩ := register_eq_ok_iff.1 hr
      exact ⟨hadm, (Except.ok.inj hname).symm⟩
  · rintro ⟨hadm, rfl⟩
    rw [register_eq_ok_iff.2 ⟨hadm, rfl⟩]
    rfl

theorem endpoint_eq_error_iff {e : RegisterError} :
    (d.register m h method? service?).map (·.endpoint) = .error e ↔
      Rejected d.convention m h (nameOr service? m.serviceName) (nameOr method? h.name) e := by
  rw [← register_eq_error_iff]
  cases d.register m h method? service? <;> simp [Except.map]

end

theorem register_endpoint_congr {d d' : Dispatcher ε} (hc : d.convention = d'.convention)
    (m : ServiceModule) (h : Handler A R) (method? service? : Option String) :
    (d.register m h method? service?).map (·.endpoint) =
      (d'.register m h method? service?).map (·.endpoint) := by
  cases hr : (d'.register m h method? service?).map (·.endpoint) with
  | ok name => rwa [endpoint_eq_ok_iff, hc, ← endpoint_eq_ok_iff]
  | error e => rwa [endpoint_eq_error_iff, hc, ← endpoint_eq_error_iff]

/-- A registration reads a module's path and the first method of the name. -/
theorem register_module_congr (d : Dispatcher ε) {m m' : ServiceModule} {h : Handler A R}
    {method? : Option String} (service? : Option String) (hpath : m.path = m'.path)
    (hmethod : m.method? (nameOr method? h.name) = m'.method? (nameOr method? h.name)) :
    d.register m h method? service? = d.register m' h method? service? := by
  have hservice : m.serviceName = m'.serviceName := by
    rw [ServiceModule.serviceName, ServiceModule.serviceName, hpath]
  simp only [register, hservice, hmethod]

end Dispatcher

end ServiceBinding
