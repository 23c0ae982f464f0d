import ServiceBinding.Proofs.Session.Outcome

/-!
# Registrations that meet at one endpoint

An endpoint is named by a service and a method around a double colon, and nothing in the two
names is escaped. Main statement: two registrations have the same endpoint just if one name
of a method begins with the end of the other's service, cut at a colon or at a double colon.
The later one then takes the place of the earlier, and otherwise both stay.
-/

namespace ServiceBinding

/-- The splits of one endpoint's name, with the shorter service first. -/
def Coincide (service method service' method' : String) : Prop :=
  (service = service' ∧ method = method') ∨
    (service' = service ++ ":" ∧ method = ":" ++ method') ∨
    ∃ x, service' = service ++ "::" ++ x ∧ method = x ++ "::" ++ method'

theorem colons_append_eq_iff {z u v : List Char} :
    ':' :: ':' :: u = z ++ ':' :: ':' :: v ↔
      (z = [] ∧ u = v) ∨ (z = [':'] ∧ u = ':' :: v) ∨
        ∃ x, z = ':' :: ':' :: x ∧ u = x ++ ':' :: ':' :: v := by
  rcases z with _ | ⟨a, _ | ⟨b, x⟩⟩
  · simp
  · simp [eq_comm]
  · simp only [List.cons_append, List.cons.injEq, reduceCtorEq, false_and, false_or, and_false]
    constructor
    · intro h
      obtain ⟨rfl, rfl, rfl⟩ := h
      exact ⟨x, ⟨rfl, rfl, rfl⟩, rfl⟩
    · intro h
      obtain ⟨_, ⟨rfl, rfl, rfl⟩, rfl⟩ := h
      exact ⟨rfl, rfl, rfl⟩

section

variable {service method service' method' : String}

theorem endpointName_of_coincide (h : Coincide service method service' method') :
    endpointName service method = endpointName service' method' := by
  unfold endpointName
  rcases h with ⟨rfl, rfl⟩ | ⟨rfl, rfl⟩ | ⟨x, rfl, rfl⟩
  · rfl
  · have hcolons : "::" ++ ":" = ":" ++ "::" := rfl
    calc service ++ "::" ++ (":" ++ method')
        = service ++ ("::" ++ ":") ++ method' := by simp only [String.append_assoc]
      _ = service ++ (":" ++ "::") ++ method' := by rw [hcolons]
      _ = service ++ ":" ++ "::" ++ method' := by simp only [String.append_assoc]
  · simp only [String.append_assoc]

theorem coincide_of_endpointName
    (hlen : service.length ≤ service'.length ∨ service.utf8ByteSize ≤ service'.utf8ByteSize)
    (h : endpointName service method = endpointName service' method') :
    Coincide service method service' method' := by
  have hchars : service.toList ++ ':' :: ':' :: method.toList =
      service'.toList ++ ':' :: ':' :: method'.toList := by
    have htexts := congrArg String.toList h
    simpa [endpointName, String.toList_append] using htexts
  obtain ⟨z, hz, hsplit⟩ : ∃ z, service'.toList = service.toList ++ z ∧
      ':' :: ':' :: method.toList = z ++ ':' :: ':' :: method'.toList := by
    rcases List.append_eq_append_iff.1 hchars with hfront | ⟨z, hz, hback⟩
    · exact hfront
    · have hservice : service = service' ++ String.ofList z := by
        rw [← String.toList_inj, String.toList_append, String.toList_ofList, hz]
      have hempty : z = [] := by
        rw [hservice] at hlen
        rw [String.length_append, String.utf8ByteSize_append] at hlen
        rcases hlen with hlen | hlen
        · exact List.length_eq_zero_iff.1 (by rw [String.length_ofList] at hlen; omega)
        · have hsize : (String.ofList z).utf8ByteSize = 0 := by omega
          simpa [String.utf8ByteSize_eq_zero_iff] using hsize
      rw [hempty] at hz hback
      exact ⟨[], by simpa using hz.symm, hback.symm⟩
  rcases colons_append_eq_iff.1 hsplit with ⟨rfl, hm⟩ | ⟨rfl, hm⟩ | ⟨x, rfl, hm⟩
  · refine .inl ⟨?_, String.toList_inj.1 hm⟩
    rw [← String.toList_inj, hz, List.append_nil]
  · refine .inr (.inl ⟨?_, ?_⟩)
    · rw [← String.toList_inj, hz, String.toList_append]
      rfl
    · rw [← String.toList_inj, hm, String.toList_append]
      rfl
  · refine .inr (.inr ⟨String.ofList x, ?_, ?_⟩)
    · rw [← String.toList_inj, hz]
      simp [String.toList_append]
    · rw [← String.toList_inj, hm]
      simp [String.toList_append]

theorem coincide_iff_of_no_colon (h : ':' ∉ method.toList ∨ ':' ∉ service'.toList) :
    Coincide service method service' method' ↔ service = service' ∧ method = method' := by
  constructor
  · intro hc
    rcases hc with heq | ⟨rfl, rfl⟩ | ⟨x, rfl, rfl⟩
    · exact heq
    · simp [String.toList_append] at h
    · simp [String.toList_append] at h
  · exact .inl

end

variable {ε : Type} [Throwable ε]

namespace Dispatcher

def Registers (d : Dispatcher ε) (s : Step ε) (service method : String) : Prop :=
  ∃ m h method? service? r, s = .register m h method? service? ∧
    service = nameOr service? m.serviceName ∧ method = nameOr method? h.handler.name ∧
    d.register m h.handler method? service? = .ok r

def Supersedes (c : Convention) (later earlier : Step ε) : Prop :=
  ∀ (d : Dispatcher ε) (between : List (Step ε)), d.convention = c →
    d.after (earlier :: between ++ [later]) = d.after (between ++ [later])

def Spares (c : Convention) (s : Step ε) (name : String) : Prop :=
  ∀ d : Dispatcher ε, d.convention = c →
    (d.step s).dispatcher.endpoints.get? name = d.endpoints.get? name

theorem Registers.answer {d : Dispatcher ε} {s : Step ε} {service method : String}
    (h : d.Registers s service method) :
    (d.step s).answer = .registered (.ok (endpointName service method)) := by
  obtain ⟨m, handler, method?, service?, r, rfl, rfl, rfl, hr⟩ := h
  obtain ⟨-, rfl⟩ := register_eq_ok_iff.1 hr
  rw [answer_register, hr]
  rfl

section

variable {d d' : Dispatcher ε} {s t : Step ε} {name : String}

theorem supersedes_of_answer (hc : d'.convention = d.convention)
    (hs : (d.step s).answer = .registered (.ok name))
    (ht : (d'.step t).answer = .registered (.ok name)) : Supersedes d.convention t s := by
  intro d₀ between h₀
  obtain ⟨e, hs⟩ := step_of_registered hs
  obtain ⟨f, ht⟩ := step_of_registered ht
  have hend : ∀ d₁ : Dispatcher ε, d₁.convention = d.convention →
      d₁.after (between ++ [t]) =
        ⟨d.convention, (d₁.endpoints.insertAll (d₁.log between)).insert name f⟩ := by
    intro d₁ h₁
    have hlast := ht (d₁.after between) (by rw [convention_after, h₁, hc])
    rw [after_append, ← endpoints_after, ← h₁, ← convention_after d₁ between]
    exact hlast
  have hfirst : d₀.after (s :: between ++ [t]) =
      (d₀.step s).dispatcher.after (between ++ [t]) := rfl
  have hkept : (d₀.step s).dispatcher.convention = d.convention := by rw [convention_step, h₀]
  rw [hfirst, hend _ hkept, hend _ h₀, log_congr (hkept.trans h₀.symm), hs d₀ h₀]
  congr 1
  refine SortedMap.ext_get? fun key => ?_
  simp only [SortedMap.get?_insert, SortedMap.get?_insertAll]
  by_cases hk : key = name
  · rw [if_pos hk, if_pos hk]
  · rw [if_neg hk, if_neg hk, if_neg hk]

theorem not_supersedes_of_answer {name' : String} (hc : d'.convention = d.convention)
    (hs : (d.step s).answer = .registered (.ok name))
    (ht : (d'.step t).answer = .registered (.ok name')) (hne : name ≠ name') :
    ¬ Supersedes d.convention t s := by
  intro h
  obtain ⟨e, hs⟩ := step_of_registered hs
  obtain ⟨f, ht⟩ := step_of_registered ht
  let d₀ : Dispatcher ε := empty d.convention
  have hfirst : (d₀.step s).dispatcher = ⟨d.convention, SortedMap.empty.insert name e⟩ :=
    hs d₀ rfl
  have halone : (d₀.step t).dispatcher = ⟨d.convention, SortedMap.empty.insert name' f⟩ :=
    ht d₀ hc.symm
  have hboth : ((d₀.step s).dispatcher.step t).dispatcher =
      ⟨d.convention, (SortedMap.empty.insert name e).insert name' f⟩ := by
    rw [hfirst]
    exact ht _ hc.symm
  have hend : ((d₀.step s).dispatcher.step t).dispatcher = (d₀.step t).dispatcher := h d₀ [] rfl
  have hget := congrArg (·.endpoints.get? name) (hboth.symm.trans (hend.trans halone))
  simp [hne] at hget

theorem spares_of_answer {name' : String}
    (ht : (d.step t).answer = .registered (.ok name')) (hne : name ≠ name') :
    Spares d.convention t name := by
  intro d₀ h₀
  obtain ⟨f, ht⟩ := step_of_registered ht
  rw [ht d₀ h₀, SortedMap.get?_insert, if_neg hne]

end

/-- Registrations have one endpoint if and only if their names coincide, and if and only if
either of them, made later, leaves nothing of the other; otherwise each spares the other's
endpoint. Where the method of the shorter service or the longer service has no colon, their
names coincide only if they are the same. -/
theorem registrations_collide_iff {d d' : Dispatcher ε} {s t : Step ε}
    {service method service' method' : String} (hs : d.Registers s service method)
    (ht : d'.Registers t service' method')
    (hlen : service.length ≤ service'.length ∨ service.utf8ByteSize ≤ service'.utf8ByteSize) :
    ((d.step s).answer = (d'.step t).answer ↔ Coincide service method service' method') ∧
    (d'.convention = d.convention →
      (Supersedes d.convention t s ↔ Coincide service method service' method') ∧
      (Supersedes d.convention s t ↔ Coincide service method service' method') ∧
      (¬ Coincide service method service' method' →
        Spares d.convention t (endpointName service method) ∧
        Spares d.convention s (endpointName service' method'))) ∧
    (':' ∉ method.toList ∨ ':' ∉ service'.toList →
      (Coincide service method service' method' ↔ service = service' ∧ method = method')) := by
  have hname : endpointName service method = endpointName service' method' ↔
      Coincide service method service' method' :=
    ⟨coincide_of_endpointName hlen, endpointName_of_coincide⟩
  have hsame : (d.step s).answer = (d'.step t).answer ↔
      endpointName service method = endpointName service' method' := by
    rw [hs.answer, ht.answer]
    simp
  refine ⟨hsame.trans hname, fun hc => ?_, coincide_iff_of_no_colon⟩
  rw [← hname]
  by_cases heq : endpointName service method = endpointName service' method'
  · have hanswer := ht.answer
    rw [← heq] at hanswer
    have hts := supersedes_of_answer hc hs.answer hanswer
    have hst := supersedes_of_answer hc.symm hanswer hs.answer
    rw [hc] at hst
    exact ⟨iff_of_true hts heq, iff_of_true hst heq, fun hne => absurd heq hne⟩
  · have hts := not_supersedes_of_answer hc hs.answer ht.answer heq
    have hst := not_supersedes_of_answer hc.symm ht.answer hs.answer (Ne.symm heq)
    have hspared := spares_of_answer ht.answer heq
    rw [hc] at hst hspared
    exact ⟨iff_of_false hts heq, iff_of_false hst heq,
      fun _ => ⟨hspared, spares_of_answer hs.answer (Ne.symm heq)⟩⟩

open Sample in
theorem registrations_collide_iff_files :
    let m : ServiceModule := ⟨"gen::Files", [helloMethod "a::get", helloMethod "get"]⟩
    let hello (text : String) : AnyHandler Thrown :=
      ⟨helloArgs, helloResult, .legacy ⟨"get", fun _ _ => .done (.ok (some text))⟩⟩
    let register (text service : String) (method? : Option String) : Step Thrown :=
      .register m (hello text) method? (some service)
    let nested := register "nested" "Files" (some "a::get")
    let inner := register "inner" "Files::a" none
    let plain := register "plain" "Files" none
    let d : Dispatcher Thrown := empty .legacy
    d.Registers nested "Files" "a::get" ∧ d.Registers inner "Files::a" "get" ∧
      d.Registers plain "Files" "get" ∧ "Files".length ≤ "Files::a".length ∧
      (d.step nested).answer = (d.step inner).answer ∧
      d.after [nested, plain, inner] = d.after [plain, inner] ∧
      Spares .legacy plain "Files::a::get" := by
  intro m hello register nested inner plain d
  have hnested : d.Registers nested "Files" "a::get" :=
    ⟨m, hello "nested", some "a::get", some "Files", _, rfl, rfl, rfl, rfl⟩
  have hinner : d.Registers inner "Files::a" "get" :=
    ⟨m, hello "inner", none, some "Files::a", _, rfl, rfl, rfl, rfl⟩
  have hplain : d.Registers plain "Files" "get" :=
    ⟨m, hello "plain", none, some "Files", _, rfl, rfl, rfl, rfl⟩
  have hlen : "Files".length ≤ "Files::a".length := by decide
  have hcut : Coincide "Files" "a::get" "Files::a" "get" := .inr (.inr ⟨"a", rfl, rfl⟩)
  obtain ⟨hsame, hover, -⟩ := registrations_collide_iff hnested hinner (.inl hlen)
  obtain ⟨-, hapart, hcolon⟩ := registrations_collide_iff hplain hinner (.inl hlen)
  have hother : ¬ Coincide "Files" "get" "Files::a" "get" := by
    rw [hcolon (.inl (by decide))]
    decide
  exact ⟨hnested, hinner, hplain, hlen, hsame.2 hcut, (hover rfl).1.2 hcut d [plain] rfl,
    ((hapart rfl).2.2 hother).2⟩

end Dispatcher

end ServiceBinding
