import ServiceBinding.Proofs.Activity.Turns
import ServiceBinding.Proofs.Dispatch.Serving
import ServiceBinding.Sample.Shapes

/-!
# Calls in flight

Calls on one dispatcher share its thread by turns. A legacy call that waits for its next turn
holds a response with some of its own handler's operations in it; a modern call holds nothing
before its reply. Main statement: under every schedule each call goes through what it goes
through alone, so that in the end it has the answer and the events it has alone, whatever the
other calls are and wherever they stand.
-/

namespace ServiceBinding

variable {ε : Type} [Throwable ε] {A : ArgsShape} {R : ResultShape ε}

theorem Act.turn_perform_bind {α β : Type} (acts : Act R α) (r : Response R)
    (k : α × Response R → Activity β) :
    (∃ (ops : List (Operation R)) (rest : Act R α),
      (acts.perform r >>= k).turn.2 = (rest.perform (r.run ops) >>= k) ∧
      ops ++ rest.operations (r.run ops) = acts.operations r ∧
      rest.ending (r.run ops) = acts.ending r) ∨
    (acts.perform r >>= k).turn.2 = (k (acts.ending r, r.run (acts.operations r))).turn.2 := by
  induction acts generalizing r with
  | done a => exact .inr rfl
  | header name value next ih =>
    rcases ih (r.writeHeader name value) with ⟨ops, rest, ht, ho, he⟩ | ht
    · exact .inl ⟨.header name value :: ops, rest, ht, congrArg (List.cons _) ho, he⟩
    · exact .inr ht
  | result value? next ih =>
    rcases ih _ (r.writeResult value?).1 with ⟨ops, rest, ht, ho, he⟩ | ht
    · exact .inl ⟨.result value? :: ops, rest, ht, congrArg (List.cons _) ho, he⟩
    · exact .inr ht
  | exception e next ih =>
    rcases ih _ (r.writeException e).1 with ⟨ops, rest, ht, ho, he⟩ | ht
    · exact .inl ⟨.exception e :: ops, rest, ht, congrArg (List.cons _) ho, he⟩
    · exact .inr ht
  | inspect next ih => exact ih r r
  | pause next => exact .inl ⟨[], next, rfl, rfl, rfl⟩

def LegacyHandler.finish (context : CallContext)
    (ended : Except ε (Option R.Success) × Response R) :
    Activity (Except (DispatchError ε) WireResponse) := do
  match ← settle context ended.2 ended.1 with
  | .error err => return .error (.fault err)
  | .ok r =>
    Activity.emit (.finished .legacy context.endpoint r.code)
    return .ok ⟨r.code, r.headers, encodeAs R.schema r.result⟩

theorem Endpoint.serve_legacy (h : LegacyHandler A R) (context : CallContext)
    (request : Request A) :
    Endpoint.serve ⟨A, R, .legacy h context⟩ request =
      (h.run request context).perform .fresh >>= LegacyHandler.finish context := by
  simp only [serve]
  congr 1
  funext ended
  unfold LegacyHandler.finish
  congr 1
  funext settled
  cases settled <;> rfl

theorem Response.pauses_encodeRaised (r : Response R) (context : CallContext) (e : ε) :
    (r.encodeRaised context e).pauses = 0 := by
  unfold encodeRaised
  split <;> rfl

theorem LegacyHandler.pauses_settle (context : CallContext) (r : Response R)
    (ended : Except ε (Option R.Success)) : (settle context r ended).pauses = 0 := by
  unfold settle
  repeat' split
  any_goals rfl
  exact r.pauses_encodeRaised context _

theorem LegacyHandler.pauses_finish (context : CallContext)
    (ended : Except ε (Option R.Success) × Response R) : (finish context ended).pauses = 0 := by
  unfold finish
  refine Activity.pauses_bind_eq_zero (pauses_settle context _ _) fun settled => ?_
  cases settled <;> rfl

theorem Endpoint.exists_serve_modern (h : ModernHandler A R) (context : CallContext)
    (request : Request A) :
    ∃ rest, rest.pauses = 0 ∧ Endpoint.serve ⟨A, R, .modern h context⟩ request =
      .delay (h.run request).pauses rest := by
  simp only [serve, ModernHandler.invoke, Deferred.await]
  rw [bind_assoc, Activity.delay_bind]
  refine ⟨_, ?_, rfl⟩
  rw [← bind_assoc]
  refine Activity.pauses_bind_eq_zero (Activity.pauses_bind_eq_zero rfl fun value => ?_)
    fun answer => ?_
  · split
    · split <;> rfl
    · refine Activity.pauses_bind_eq_zero (Response.pauses_encodeRaised _ _ _) fun settled => ?_
      cases settled <;> rfl
  · cases answer <;> rfl

namespace Dispatcher

/-- The places of a call between its turns. A legacy call that is at work has carried out the
first of the operations that its handler carries out alone, and will carry out the others. -/
inductive InFlight (d : Dispatcher ε) (call : InboundCall) :
    Activity (Except (DispatchError ε) WireResponse) → Prop
  | waiting : InFlight d call (d.handle call)
  | writing {A : ArgsShape} {R : ResultShape ε} {h : LegacyHandler A R} {context : CallContext}
      {request : Request A} (before : List (Operation R))
      (acts : Act R (Except ε (Option R.Success)))
      (he : d.endpoints.get? call.endpoint = some ⟨A, R, .legacy h context⟩)
      (hq : call.request A = .ok request)
      (ho : before ++ acts.operations (Response.fresh.run before) =
        (h.run request context).operations .fresh)
      (hw : acts.ending (Response.fresh.run before) = (h.run request context).ending .fresh) :
    InFlight d call (acts.perform (Response.fresh.run before) >>= LegacyHandler.finish context)
  | replying {A : ArgsShape} {R : ResultShape ε} {h : ModernHandler A R}
      {context : CallContext} {request : Request A} (n : Nat)
      (rest : Activity (Except (DispatchError ε) WireResponse))
      (he : d.endpoints.get? call.endpoint = some ⟨A, R, .modern h context⟩)
      (hq : call.request A = .ok request) (hn : n ≤ (h.run request).pauses)
      (hr : rest.pauses = 0)
      (hs : Endpoint.serve ⟨A, R, .modern h context⟩ request =
        .delay (h.run request).pauses rest) :
    InFlight d call (.delay n rest)
  | answered : InFlight d call (.done (d.handle call).result)

variable {d : Dispatcher ε} {call : InboundCall}

theorem handle_of_served {e : Endpoint ε} {request : Request e.args}
    (he : d.endpoints.get? call.endpoint = some e) (hq : call.request e.args = .ok request) :
    d.handle call = .log (.dispatching call.endpoint) (e.serve request) := by
  rw [handle_of_get? he, Endpoint.handle_of_request hq]

theorem InFlight.result_eq {a : Activity (Except (DispatchError ε) WireResponse)}
    (h : d.InFlight call a) : a.result = (d.handle call).result := by
  cases h with
  | waiting => rfl
  | @writing A R h context request before acts he hq ho hw =>
    rw [handle_of_served he hq, Endpoint.serve_legacy, Activity.result_log,
      Activity.result_bind, Activity.result_bind, Act.result_perform, Act.result_perform, hw,
      ← ho, Response.run_append]
  | @replying A R h context request n rest he hq hn hr hs =>
    rw [handle_of_served he hq, hs, Activity.result_log, Activity.result_delay,
      Activity.result_delay]
  | answered => rfl

theorem InFlight.of_isDone {a : Activity (Except (DispatchError ε) WireResponse)}
    (hd : a.isDone = true) (hr : a.result = (d.handle call).result) : d.InFlight call a := by
  rw [Activity.eq_done_of_isDone hd, hr]
  exact .answered

theorem InFlight.turn_of_writing {A : ArgsShape} {R : ResultShape ε} {h : LegacyHandler A R}
    {context : CallContext} {request : Request A} (before : List (Operation R))
    (acts : Act R (Except ε (Option R.Success)))
    (he : d.endpoints.get? call.endpoint = some ⟨A, R, .legacy h context⟩)
    (hq : call.request A = .ok request)
    (ho : before ++ acts.operations (Response.fresh.run before) =
      (h.run request context).operations .fresh)
    (hw : acts.ending (Response.fresh.run before) = (h.run request context).ending .fresh) :
    d.InFlight call
      (acts.perform (Response.fresh.run before) >>= LegacyHandler.finish context).turn.2 := by
  have hr := (InFlight.writing before acts he hq ho hw).result_eq
  rcases acts.turn_perform_bind (Response.fresh.run before) (LegacyHandler.finish context) with
    ⟨ops, rest, ht, hops, hend⟩ | ht
  · rw [ht, ← Response.run_append]
    refine .writing (before ++ ops) rest he hq ?_ ?_
    · rw [List.append_assoc, Response.run_append, hops, ho]
    · rw [Response.run_append, hend, hw]
  · refine .of_isDone ?_ ((Activity.result_turn _).trans hr)
    rw [ht]
    exact Activity.isDone_turn_of_pauses_eq_zero (LegacyHandler.pauses_finish context _)

theorem InFlight.turn_of_replying {A : ArgsShape} {R : ResultShape ε} {h : ModernHandler A R}
    {context : CallContext} {request : Request A} {n : Nat}
    {rest : Activity (Except (DispatchError ε) WireResponse)}
    (he : d.endpoints.get? call.endpoint = some ⟨A, R, .modern h context⟩)
    (hq : call.request A = .ok request) (hn : n ≤ (h.run request).pauses)
    (hr : rest.pauses = 0)
    (hs : Endpoint.serve ⟨A, R, .modern h context⟩ request =
      .delay (h.run request).pauses rest) :
    d.InFlight call (Activity.delay n rest).turn.2 := by
  have hresult := (InFlight.replying n rest he hq hn hr hs).result_eq
  cases n with
  | zero =>
    exact .of_isDone (Activity.isDone_turn_of_pauses_eq_zero hr)
      ((Activity.result_turn _).trans hresult)
  | succ n => exact .replying n rest he hq (Nat.le_of_succ_le hn) hr hs

theorem InFlight.turn_handle : d.InFlight call (d.handle call).turn.2 := by
  rcases d.unread_or_read call with ⟨err, hu⟩ | ⟨e, request, he, hq⟩
  · rw [handle_of_unread hu]
    exact .of_isDone rfl (by rw [handle_of_unread hu]; rfl)
  · rw [handle_of_served he hq]
    obtain ⟨A, R, s⟩ := e
    cases s with
    | legacy h context =>
      rw [Endpoint.serve_legacy]
      exact InFlight.turn_of_writing [] (h.run request context) he hq rfl rfl
    | modern h context =>
      obtain ⟨rest, hr, hs⟩ := Endpoint.exists_serve_modern h context request
      rw [hs]
      exact InFlight.turn_of_replying he hq le_rfl hr hs

theorem InFlight.turn {a : Activity (Except (DispatchError ε) WireResponse)}
    (h : d.InFlight call a) : d.InFlight call a.turn.2 := by
  cases h with
  | waiting => exact turn_handle
  | writing before acts he hq ho hw => exact turn_of_writing before acts he hq ho hw
  | replying n rest he hq hn hr hs => exact turn_of_replying he hq hn hr hs
  | answered => exact .answered

theorem InFlight.turns {a : Activity (Except (DispatchError ε) WireResponse)}
    (h : d.InFlight call a) (n : Nat) : d.InFlight call (a.turns n).2 := by
  induction n generalizing a with
  | zero => exact h
  | succ n ih => exact ih h.turn

def Underway (d : Dispatcher ε) (calls : List InboundCall) (log : List (Nat × Event))
    (now : List (Activity (Except (DispatchError ε) WireResponse))) : Prop :=
  Activity.Scheduled (calls.map d.handle) log now

def Completed (d : Dispatcher ε) (calls : List InboundCall) (log : List (Nat × Event))
    (answers : List (Except (DispatchError ε) WireResponse)) : Prop :=
  d.Underway calls log (answers.map .done)

theorem getElem?_handles {d : Dispatcher ε} {calls : List InboundCall} {i : Nat}
    {call : InboundCall} (hi : calls[i]? = some call) :
    (calls.map d.handle)[i]? = some (d.handle call) := by
  rw [List.getElem?_map, hi, Option.map_some]

/-- At every moment a call stands where its own turns have brought it, with its own events in
the log, and all calls can be brought to the end. In the end each has its answer and its
events, so that the answers are those of any other schedule. -/
theorem calls_do_not_interfere (d : Dispatcher ε) (calls : List InboundCall) :
    (∀ log now, d.Underway calls log now →
      (∀ i call, calls[i]? = some call → ∃ n, now[i]? = some ((d.handle call).turns n).2 ∧
        Activity.ownEvents i log = ((d.handle call).turns n).1 ∧
        d.InFlight call ((d.handle call).turns n).2) ∧
      ∃ more answers, d.Completed calls (log ++ more) answers) ∧
    (∀ log answers, d.Completed calls log answers →
      ∀ i call, calls[i]? = some call → answers[i]? = some (d.handle call).result ∧
        Activity.ownEvents i log = (d.handle call).events) ∧
    (∀ log answers log' answers', d.Completed calls log answers →
      d.Completed calls log' answers' → answers = answers') ∧
    ∃ log answers, d.Completed calls log answers ∧
      log.map Prod.snd = Activity.together (calls.map d.handle) := by
  refine ⟨fun log now h => ⟨fun i call hi => ?_, h.exists_completed⟩,
    fun log answers h i call hi => h.of_answers (getElem?_handles hi),
    fun log answers log' answers' h h' => h.answers_eq.trans h'.answers_eq.symm, ?_⟩
  · obtain ⟨n, hn, ho⟩ := h.exists_turns (getElem?_handles hi)
    exact ⟨n, hn, ho, InFlight.waiting.turns n⟩
  · obtain ⟨log, hs, hl⟩ := Activity.exists_scheduled_together (calls.map d.handle)
    exact ⟨log, _, hs, hl⟩

theorem calls_do_not_interfere_overtaken :
    let s : Strategy Sample.helloArgs Sample.helloResult := .legacy ⟨"hello", fun request _ =>
      .result (some request.args.1) fun _ => .pause <|
        .result (some "again") fun _ => .pause <| .header "late" request.args.1 <|
          .done (.ok none)⟩ ⟨"Greeter", "hello"⟩
    let d : Dispatcher Sample.Thrown := ((Dispatcher.empty .legacy).add "hello" ⟨_, _, s⟩).1
    let call (name : String) : InboundCall :=
      .of "hello" .empty Sample.helloArgs (name, ()) ⟨.empty, 0⟩
    let answer (name : String) : WireResponse := ⟨.ok, SortedMap.empty.insert "late" name,
      encodeAs Sample.helloResult.schema (some name, ())⟩
    let log : List (Nat × Event) := [(0, .dispatching "hello"), (1, .dispatching "hello"),
      (1, .finished .legacy "hello" .ok), (0, .finished .legacy "hello" .ok)]
    d.Underway [call "Ada", call "Bob"] (log.take 2)
        (([call "Ada", call "Bob"].map d.handle).map fun a => (a.turns 1).2) ∧
      d.Completed [call "Ada", call "Bob"] log [.ok (answer "Ada"), .ok (answer "Bob")] ∧
      (d.handle (call "Ada")).result = .ok (answer "Ada") ∧
      (d.handle (call "Bob")).events = Activity.ownEvents 1 log := by
  intro s d call answer log
  let second (name : String) : Activity (Except (DispatchError Sample.Thrown) WireResponse) :=
    .log (.finished .legacy "hello" .ok) (.done (.ok (answer name)))
  let first (name : String) := (second name).pause
  let start (name : String) := Activity.log (.dispatching "hello") (first name).pause
  have handled : ∀ name, Wire.TextFits name → d.handle (call name) = start name :=
    fun name hn => handle_of _ (s := s) rfl ⟨by decide, nofun⟩ ⟨hn, trivial⟩
  have ha := handled "Ada" (by unfold Wire.TextFits; decide)
  have hb := handled "Bob" (by unfold Wire.TextFits; decide)
  have hu : d.Underway [call "Ada", call "Bob"] (log.take 2)
      (([call "Ada", call "Bob"].map d.handle).map fun a => (a.turns 1).2) := by
    simp only [Underway, List.map, ha, hb]
    refine .turn 0 (start "Ada") rfl rfl ?_
    refine .turn 1 (start "Bob") rfl rfl ?_
    exact .stop _
  have hc : d.Completed [call "Ada", call "Bob"] log [.ok (answer "Ada"), .ok (answer "Bob")] := by
    simp only [Completed, Underway, List.map, ha, hb]
    refine .turn 0 (start "Ada") rfl rfl ?_
    refine .turn 1 (start "Bob") rfl rfl ?_
    refine .turn 1 (first "Bob") rfl rfl ?_
    refine .turn 1 (second "Bob") rfl rfl ?_
    refine .turn 0 (first "Ada") rfl rfl ?_
    refine .turn 0 (second "Ada") rfl rfl ?_
    exact .stop _
  obtain ⟨-, hends, -, -⟩ := calls_do_not_interfere d [call "Ada", call "Bob"]
  refine ⟨hu, hc, ?_, ?_⟩
  · exact (Option.some.inj (hends log _ hc 0 _ rfl).1).symm
  · exact (hends log _ hc 1 _ rfl).2.symm

end Dispatcher

end ServiceBinding
