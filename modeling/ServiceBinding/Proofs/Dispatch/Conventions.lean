import ServiceBinding.Proofs.Dispatch.Answer
import ServiceBinding.Sample.Shapes

/-!
# The two conventions agree

A function can be offered by a legacy handler that writes nothing and by a modern handler
that replies. Main statement: two dispatchers that offer the same function answer every call
alike, but for the code of an encoded exception and the wrapping of a codec error.
-/

namespace ServiceBinding

variable {ε : Type} [Throwable ε] {A : ArgsShape} {R : ResultShape ε}

def LegacyHandler.Computes (h : LegacyHandler A R)
    (f : Request A → Except ε (Option R.Success)) : Prop :=
  ∀ request context, (h.run request context).operations .fresh = [] ∧
    (h.run request context).ending .fresh = f request

def Reply.ofOption {σ : Type} : Option σ → Reply σ
  | none => .empty
  | some v => .value v

def ModernHandler.Computes (h : ModernHandler A R)
    (f : Request A → Except ε (Option R.Success)) : Prop :=
  ∀ request, (h.run request).value = (f request).map Reply.ofOption

structure Twin (ε : Type) [Throwable ε] where
  args : ArgsShape
  result : ResultShape ε
  function : Request args → Except ε (Option result.Success)
  legacy : LegacyHandler args result
  modern : ModernHandler args result
  legacyContext : CallContext
  modernContext : CallContext
  legacy_computes : legacy.Computes function
  modern_computes : modern.Computes function

namespace Twin

def of (f : Request A → Except ε (Option R.Success)) (context : CallContext) : Twin ε where
  args := A
  result := R
  function := f
  legacy := ⟨context.endpoint, fun request _ => .done (f request)⟩
  modern := ⟨context.endpoint, fun request => ⟨0, (f request).map .ofOption⟩⟩
  legacyContext := context
  modernContext := context
  legacy_computes := fun _ _ => ⟨rfl, rfl⟩
  modern_computes := fun _ => rfl

@[reducible] def legacyEndpoint (t : Twin ε) : Endpoint ε :=
  ⟨t.args, t.result, .legacy t.legacy t.legacyContext⟩

@[reducible] def modernEndpoint (t : Twin ε) : Endpoint ε :=
  ⟨t.args, t.result, .modern t.modern t.modernContext⟩

def bare (t : Twin ε) (code : StatusCode) (c : t.result.Container) : WireResponse :=
  ⟨code, .empty, encodeAs t.result.schema c⟩

/-- The answers to a call that has been read, the legacy one first. They differ in the last
case only. -/
inductive Agree (t : Twin ε) (request : Request t.args) :
    Except (DispatchError ε) WireResponse → Except (DispatchError ε) WireResponse → Prop
  | nothing (hf : t.function request = .ok none) :
    Agree t request (.ok (t.bare .ok t.result.empty)) (.ok (t.bare .ok t.result.empty))
  | value (v : t.result.Success) (hf : t.function request = .ok (some v))
      (hs : t.result.successField ≠ none) :
    Agree t request (.ok (t.bare .ok (t.result.setSuccess t.result.empty v)))
      (.ok (t.bare .ok (t.result.setSuccess t.result.empty v)))
  | voidResult (v : t.result.Success) (hf : t.function request = .ok (some v))
      (hs : t.result.successField = none) :
    Agree t request (.error (.fault (Throwable.ofResponse (.voidResult t.result.name))))
      (.error (.fault (Throwable.ofResponse (.voidResult t.result.name))))
  | undeclared (e : ε) (hf : t.function request = .error e) (hd : ¬ t.result.Declares e) :
    Agree t request (.error (.fault e)) (.error (.fault e))
  | unfit (e e' : ε) (field : FieldSpec ε) (hf : t.function request = .error e)
      (hs : t.result.selectException e = some field)
      (he : (t.result.setException t.result.empty field.id e).2 = .error e') :
    Agree t request (.error (.fault e')) (.error (.fault e'))
  | encoded (e : ε) (field : FieldSpec ε) (c : t.result.Container)
      (hf : t.function request = .error e) (hs : t.result.selectException e = some field)
      (he : t.result.setException t.result.empty field.id e = (c, .ok ())) :
    Agree t request (.ok (t.bare .error c)) (.ok (t.bare .ok c))

end Twin

inductive Agree (offered? : Option (Twin ε)) (call : InboundCall) :
    Except (DispatchError ε) WireResponse → Except (DispatchError ε) WireResponse → Prop
  | unknown (ht : offered? = none) :
    Agree offered? call (.error (.noSuchEndpoint call.endpoint))
      (.error (.noSuchEndpoint call.endpoint))
  | undecoded (t : Twin ε) (e : CodecError) (ht : offered? = some t)
      (hq : call.request t.args = .error e) :
    Agree offered? call (.error (.fault (Throwable.ofCodec e))) (.error (.codec e))
  | read (t : Twin ε) (request : Request t.args)
      (l m : Except (DispatchError ε) WireResponse) (ht : offered? = some t)
      (hq : call.request t.args = .ok request) (h : t.Agree request l m) :
    Agree offered? call l m

namespace Twin

theorem conclude_legacy (t : Twin ε) (request : Request t.args) :
    t.legacyEndpoint.strategy.conclude request = ⟨.fresh, t.function request⟩ := by
  obtain ⟨ho, he⟩ := t.legacy_computes request t.legacyContext
  simp only [legacyEndpoint, Strategy.conclude, ho, he, Response.run_nil]

theorem conclude_modern (t : Twin ε) (request : Request t.args) :
    t.modernEndpoint.strategy.conclude request = ⟨.fresh, t.function request⟩ := by
  have hv := t.modern_computes request
  simp only [modernEndpoint, Strategy.conclude, hv]
  rcases t.function request with e | _ | v <;> rfl

theorem envelope_legacy (t : Twin ε) (request : Request t.args) {r : Response t.result}
    (h : r.headers = .empty) :
    t.legacyEndpoint.strategy.envelope request r = (r.code, .empty) := by
  simp only [legacyEndpoint, Strategy.envelope, h]

theorem envelope_modern (t : Twin ε) (request : Request t.args) (r : Response t.result) :
    t.modernEndpoint.strategy.envelope request r = (.ok, .empty) := by
  have hv := t.modern_computes request
  simp only [modernEndpoint, Strategy.envelope, hv]
  rcases t.function request with e | _ | v <;> rfl

theorem agree_of_settles {t : Twin ε} {request : Request t.args} {r : Response t.result}
    (h : Conclusion.Settles ⟨.fresh, t.function request⟩ r) :
    t.Agree request (.ok (t.bare r.code r.result)) (.ok (t.bare .ok r.result)) := by
  cases h with
  | kept value? hf h =>
    obtain rfl : value? = none := h.resolve_right nofun
    exact .nothing hf
  | stored v r hf ht =>
    cases ht with
    | value v h hs => exact .value v hf hs
  | encoded e r hf ht =>
    cases ht with
    | stored e field c h hs he => exact .encoded e field c hf hs he

theorem agree_of_refused {t : Twin ε} {request : Request t.args} {e : ε}
    (h : Conclusion.Refused ⟨.fresh, t.function request⟩ e) :
    t.Agree request (.error (.fault e)) (.error (.fault e)) := by
  cases h with
  | voidResult v hf h hs => exact .voidResult v hf hs
  | undeclared e hf hd => exact .undeclared _ hf hd
  | finished e hf hd h => cases h
  | unfit e' e field hf h hs he => exact .unfit _ _ field hf hs he

end Twin

/-- The conventions differ in nothing but what the rules of agreement let them differ in. -/
theorem Dispatcher.conventions_agree {legacy modern : Dispatcher ε} {offered? : Option (Twin ε)}
    {call : InboundCall}
    (hl : legacy.endpoints.get? call.endpoint = offered?.map Twin.legacyEndpoint)
    (hm : modern.endpoints.get? call.endpoint = offered?.map Twin.modernEndpoint) :
    Agree offered? call (legacy.handle call).result (modern.handle call).result := by
  cases offered? with
  | none =>
    rw [handle_of_get?_none hl, handle_of_get?_none hm]
    exact .unknown rfl
  | some t =>
    cases hq : call.request t.args with
    | error e =>
      rw [handle_of_get? hl, handle_of_get? hm, Endpoint.handle_of_request_error hq,
        Endpoint.handle_of_request_error hq]
      exact .undecoded t e rfl hq
    | ok request =>
      rw [result_handle_of_request hl hq, result_handle_of_request hm hq,
        t.conclude_legacy request, t.conclude_modern request]
      refine .read t request _ _ rfl hq ?_
      rcases Conclusion.settles_or_refused ⟨.fresh, t.function request⟩ with ⟨r, hs⟩ | ⟨e, hr⟩
      · have hh : r.headers = .empty := hs.headers
        simp only [Conclusion.settled_of_settles hs, t.envelope_legacy request hh,
          t.envelope_modern request]
        exact Twin.agree_of_settles hs
      · rw [Conclusion.settled_of_refused hr]
        exact Twin.agree_of_refused hr

theorem Dispatcher.conventions_agree_lookup :
    let f : Request Sample.lookupArgs → Except Sample.Thrown (Option Int64) := fun request =>
      .error (.notFound request.args.1)
    let t : Twin Sample.Thrown := .of (R := Sample.lookupResult) f ⟨"files", "lookup"⟩
    let legacy := ((Dispatcher.empty .legacy).add "lookup" t.legacyEndpoint).1
    let modern := ((Dispatcher.empty .modern).add "lookup" t.modernEndpoint).1
    let call : InboundCall := .of "lookup" .empty Sample.lookupArgs ("key", ()) default
    legacy.endpoints.get? call.endpoint = (some t).map Twin.legacyEndpoint ∧
      modern.endpoints.get? call.endpoint = (some t).map Twin.modernEndpoint ∧
      Agree (some t) call (.ok (t.bare .error (none, some ("key", ()), none, ())))
        (.ok (t.bare .ok (none, some ("key", ()), none, ()))) := by
  intro f t legacy modern call
  have hl : legacy.endpoints.get? call.endpoint = (some t).map Twin.legacyEndpoint := rfl
  have hm : modern.endpoints.get? call.endpoint = (some t).map Twin.modernEndpoint := rfl
  have ha := Dispatcher.conventions_agree hl hm
  have hal : (legacy.handle call).result =
      .ok (t.bare .error (none, some ("key", ()), none, ())) := by decide +kernel
  have ham : (modern.handle call).result =
      .ok (t.bare .ok (none, some ("key", ()), none, ())) := by decide +kernel
  rw [hal, ham] at ha
  exact ⟨hl, hm, ha⟩

end ServiceBinding
