import ServiceBinding.Proofs.Dispatch.Answer
import ServiceBinding.Proofs.Response.FirstMatch
import ServiceBinding.Sample.Shapes

/-!
# Values returned and values written

A legacy handler may return its value or write it and raise what the write is refused with.
Main statement: both ways have the same answer as long as the response is unfinished, but for a
shape without a success field that declares the misuse as an exception. There the refusal of
a returned value stays a fault, and that of a written value is encoded.
-/

namespace ServiceBinding

variable {ε : Type} [Throwable ε] {A : ArgsShape} {R : ResultShape ε}

def Act.submit (v : R.Success) : Act R (Except ε (Option R.Success)) :=
  .result (some v) fun
    | .ok () => .done (.ok none)
    | .error e => .done (.error (Throwable.ofResponse e))

namespace LegacyHandler

def returning (name : String) (acts : Request A → CallContext → Act R Unit)
    (value? : Option R.Success) : LegacyHandler A R where
  name := name
  run request context := acts request context >>= fun _ => .done (.ok value?)

def submitting (name : String) (acts : Request A → CallContext → Act R Unit)
    (v : R.Success) : LegacyHandler A R where
  name := name
  run request context := acts request context >>= fun _ => .submit v

end LegacyHandler

namespace Conclusion

def submitted (r : Response R) (v : R.Success) : Conclusion R :=
  ⟨(r.writeResult (some v)).1,
    match (r.writeResult (some v)).2 with
    | .ok () => .ok none
    | .error e => .error (Throwable.ofResponse e)⟩

theorem settled_of_finished {r : Response R} (h : r.finished = true)
    (value? : Option R.Success) : settled ⟨r, .ok value?⟩ = .ok r :=
  settled_of_settles (.kept value? rfl (.inr h))

theorem settled_submitted {r : Response R} (h : r.finished = false)
    (hs : R.successField ≠ none) (v : R.Success) :
    (submitted r v).settled = settled ⟨r, .ok (some v)⟩ := by
  obtain ⟨field, hf⟩ := Option.ne_none_iff_exists'.1 hs
  simp [submitted, settled, Response.writeResult, h, hf]

theorem settled_returned_of_void {r : Response R} (h : r.finished = false)
    (hs : R.successField = none) (v : R.Success) :
    settled ⟨r, .ok (some v)⟩ = .error (Throwable.ofResponse (.voidResult R.name)) :=
  settled_of_refused (.voidResult v rfl h hs)

theorem submitted_of_void {r : Response R} (h : r.finished = false)
    (hs : R.successField = none) (v : R.Success) :
    submitted r v = ⟨r, .error (Throwable.ofResponse (.voidResult R.name))⟩ := by
  simp [submitted, Response.writeResult, h, hs]

end Conclusion

namespace Strategy

variable (name : String) (acts : Request A → CallContext → Act R Unit) (context : CallContext)
  (request : Request A)

theorem conclude_legacy_eq (h : LegacyHandler A R) :
    (legacy h context).conclude request =
      ⟨((h.run request context).perform .fresh).result.2,
        ((h.run request context).perform .fresh).result.1⟩ := by
  rw [Act.result_perform]
  rfl

theorem conclude_returning (value? : Option R.Success) :
    (legacy (.returning name acts value?) context).conclude request =
      ⟨.run .fresh ((acts request context).operations .fresh), .ok value?⟩ := by
  rw [conclude_legacy_eq, LegacyHandler.returning, Act.result_perform_bind]
  rfl

theorem conclude_submitting (v : R.Success) :
    (legacy (.submitting name acts v) context).conclude request =
      .submitted (.run .fresh ((acts request context).operations .fresh)) v := by
  rw [conclude_legacy_eq, LegacyHandler.submitting, Act.result_perform_bind]
  simp only [Act.submit, Act.perform, Conclusion.submitted]
  split <;> rfl

end Strategy

namespace Dispatcher

def legacyAnswer : Except ε (Response R) → Except (DispatchError ε) WireResponse
  | .error e => .error (.fault e)
  | .ok r => .ok ⟨r.code, r.headers, encodeAs R.schema r.result⟩

theorem legacyAnswer_raised (r : Response R) (e : ε) :
    legacyAnswer (Conclusion.settled ⟨r, .error e⟩) =
      match r.writeException e with
      | (r', .ok ()) => .ok ⟨r'.code, r'.headers, encodeAs R.schema r'.result⟩
      | (_, .error e') => .error (.fault e') := by
  simp only [Conclusion.settled]
  rcases r.writeException e with ⟨r', _ | _⟩ <;> rfl

theorem result_handle_add (d : Dispatcher ε) (h : LegacyHandler A R) (context : CallContext)
    (call : InboundCall) :
    ((d.add call.endpoint ⟨A, R, .legacy h context⟩).1.handle call).result =
      match call.request A with
      | .error e => .error (.fault (Throwable.ofCodec e))
      | .ok request => legacyAnswer ((Strategy.legacy h context).conclude request).settled := by
  rw [handle_of_get? (d.get?_add_self _ _), Activity.result_log, Endpoint.result_handle]
  cases call.request A with
  | error e => rfl
  | ok request =>
    cases hs : ((Strategy.legacy h context).conclude request).settled with
    | error e => simp only [hs, legacyAnswer]
    | ok r => simp only [hs, legacyAnswer, Strategy.envelope]

/-- As long as the response is unfinished, returning a value and submitting it have the same
answer, unless the value is misuse and a declared exception accepts that. Then the returned value
is a fault, and the submitted one is whatever the exception write makes of the misuse. In a
finished response a returned value makes no difference. -/
theorem returning_agrees_with_submitting (d : Dispatcher ε) (name : String)
    (acts : Request A → CallContext → Act R Unit) (v : R.Success) (context : CallContext)
    (call : InboundCall) :
    let answer (h : LegacyHandler A R) :=
      ((d.add call.endpoint ⟨A, R, .legacy h context⟩).1.handle call).result
    let misuse : ε := Throwable.ofResponse (.voidResult R.name)
    (∀ e, call.request A = .error e →
      answer (.returning name acts (some v)) = answer (.submitting name acts v)) ∧
    ∀ request, call.request A = .ok request →
      let r : Response R := .run .fresh ((acts request context).operations .fresh)
      (r.finished = true →
        answer (.returning name acts (some v)) = answer (.returning name acts none)) ∧
      (r.finished = false → ¬ (R.successField = none ∧ R.Declares misuse) →
        answer (.returning name acts (some v)) = answer (.submitting name acts v)) ∧
      (r.finished = false → R.successField = none → R.Declares misuse →
        answer (.returning name acts (some v)) = .error (.fault misuse) ∧
        answer (.submitting name acts v) =
          (match r.writeException misuse with
            | (r', .ok ()) => .ok ⟨r'.code, r'.headers, encodeAs R.schema r'.result⟩
            | (_, .error e) => .error (.fault e)) ∧
        ∀ i field c, R.FirstMatch misuse i field →
          R.setException r.result field.id misuse = (c, .ok ()) →
          answer (.submitting name acts v) = .ok ⟨.error, r.headers, encodeAs R.schema c⟩ ∧
          (R.Conservative → ∀ (F : R.Reading) key,
            F.IsSet c key ↔ key = .exception (some field.id))) := by
  intro answer misuse
  have hanswer : ∀ h request, call.request A = .ok request →
      answer h = legacyAnswer ((Strategy.legacy h context).conclude request).settled := by
    intro h request hq
    simp only [answer, result_handle_add, hq]
  refine ⟨fun e he => ?_, fun request hq => ?_⟩
  · simp only [answer, result_handle_add, he]
  intro r
  have hreturned : ∀ value?, answer (.returning name acts value?) =
      legacyAnswer (Conclusion.settled ⟨r, .ok value?⟩) := fun value? => by
    rw [hanswer _ request hq, Strategy.conclude_returning]
  have hsubmitted : answer (.submitting name acts v) =
      legacyAnswer (Conclusion.submitted r v).settled := by
    rw [hanswer _ request hq, Strategy.conclude_submitting]
  refine ⟨fun hr => ?finished, fun hr hs => ?same, fun hr hs hd => ?declared⟩
  case finished =>
    rw [hreturned, hreturned, Conclusion.settled_of_finished hr, Conclusion.settled_of_finished hr]
  case same =>
    rw [hreturned, hsubmitted]
    by_cases hvoid : R.successField = none
    · have hundeclared : ¬ R.Declares misuse := fun hd => hs ⟨hvoid, hd⟩
      rw [Conclusion.settled_returned_of_void hr hvoid, Conclusion.submitted_of_void hr hvoid,
        Conclusion.settled_of_refused (.undeclared misuse rfl hundeclared)]
    · rw [Conclusion.settled_submitted hr hvoid]
  case declared =>
    have hwritten := hsubmitted
    rw [Conclusion.submitted_of_void hr hs, legacyAnswer_raised] at hwritten
    refine ⟨?_, hwritten, fun i field c hfirst hc => ⟨?_, fun hR F key => ?_⟩⟩
    · rw [hreturned, Conclusion.settled_returned_of_void hr hs]
      rfl
    · rw [hwritten, Response.writeException_of_firstMatch hr hfirst, hc]
    · rw [F.stored _ _ _ _ hc key, Response.result_run_of_not_finished hR hr]
      exact or_iff_left (F.empty key)

theorem returning_agrees_with_submitting_vmeta :
    let A := Sample.unitArgs "ping_args"
    let trace {R : ResultShape Sample.Thrown} (_ : Request A) (_ : CallContext) : Act R Unit :=
      .header "trace" "1" (.done ())
    let finish {R : ResultShape Sample.Thrown} (_ : Request A) (_ : CallContext) : Act R Unit :=
      .result none fun _ => .done ()
    let context : CallContext := ⟨"files", "check"⟩
    let call : InboundCall := .of "check" .empty A () default
    let answer {R : ResultShape Sample.Thrown} (h : LegacyHandler A R) :=
      (((empty .legacy).add call.endpoint ⟨A, R, .legacy h context⟩).1.handle call).result
    let R := Sample.vmetaResult
    let misuse : Sample.Thrown := .response (.voidResult "vmeta_result")
    let c : R.Container := (some misuse.message, ())
    call.request A = .ok ⟨.empty, (), TransportHeaders.metadata default⟩ ∧
      R.successField = none ∧ R.Declares misuse ∧
      answer (R := R) (.returning "check" trace (some ())) = .error (.fault misuse) ∧
      answer (R := R) (.submitting "check" trace ()) =
        .ok ⟨.error, SortedMap.empty.insert "trace" "1", encodeAs R.schema c⟩ ∧
      answer (R := R) (.returning "check" finish (some ())) =
        answer (R := R) (.returning "check" finish none) ∧
      ¬ Sample.pingResult.Declares (.response (.voidResult "ping_result")) ∧
      answer (R := Sample.pingResult) (.returning "check" trace (some ())) =
        answer (R := Sample.pingResult) (.submitting "check" trace ()) := by
  intro A trace finish context call answer R misuse c
  have hq : call.request A = .ok ⟨.empty, (), TransportHeaders.metadata default⟩ := rfl
  have hdeclared : R.Declares misuse := ⟨_, List.mem_singleton.2 rfl, rfl⟩
  have hping : ¬ Sample.pingResult.Declares (.response (.voidResult "ping_result")) := by
    rintro ⟨field, hfield, -⟩
    exact absurd hfield List.not_mem_nil
  have hfirst : R.FirstMatch misuse 1 (.exception 1 "misuse" Sample.Types.response) :=
    ⟨⟨Nat.le_refl 1, rfl, Sample.Types.response, rfl, rfl⟩,
      fun j hj _ ho => absurd ho.pos (by omega)⟩
  obtain ⟨-, hvmeta⟩ :=
    returning_agrees_with_submitting (R := R) (empty .legacy) "check" trace () context call
  obtain ⟨-, hfinished⟩ :=
    returning_agrees_with_submitting (R := R) (empty .legacy) "check" finish () context call
  obtain ⟨-, hsame⟩ := returning_agrees_with_submitting (R := Sample.pingResult)
    (empty .legacy) "check" trace () context call
  obtain ⟨hfault, -, hstored⟩ := (hvmeta _ hq).2.2 rfl rfl hdeclared
  exact ⟨hq, rfl, hdeclared, hfault, (hstored 1 _ c hfirst rfl).1, (hfinished _ hq).1 rfl, hping,
    (hsame _ hq).2.1 rfl fun h => hping h.2⟩

end Dispatcher

end ServiceBinding
