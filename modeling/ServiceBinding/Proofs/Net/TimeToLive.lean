import ServiceBinding.Proofs.Dispatch.InFlight
import ServiceBinding.Proofs.Duration
import ServiceBinding.Proofs.Net.Call

/-!
# Time to live over the network

A client sends its patience as a number of milliseconds, and the handler that is called sees
it as a duration again. Main statement: the handler sees the longest duration that can be sent
and is no longer than the caller's, so that a call that is passed on loses nothing more.
-/

namespace ServiceBinding.Net

variable {ε : Type} [Throwable ε]

def Server.Serves (d : Dispatcher ε) (received : List UInt8) (e : Endpoint ε)
    (request : Request e.args) : Prop :=
  ∃ c, RequestMessage.receive received = .ok (some (.call c)) ∧
    d.endpoints.get? c.endpoint = some e ∧ c.request e.args = .ok request

namespace Client

variable {d : Dispatcher ε} {endpoint : String} {headers : Headers} {A : ArgsShape}
  {args : A.Val} {ttl : Duration} {sent : List UInt8} {e : Endpoint ε} {request : Request e.args}

theorem transport_of_serves
    (hsent : (RequestMessage.call (outgoing endpoint headers A args ttl)).frame = .ok sent)
    (h : Server.Serves d sent e request) :
    request.transport = ⟨.empty, ttl.arriving⟩ ∧
      d.handle (outgoing endpoint headers A args ttl) =
        .log (.dispatching endpoint) (e.serve request) := by
  obtain ⟨c, hc, he, hq⟩ := h
  have hback := RequestMessage.receive_frame hsent
  rw [hc] at hback
  obtain rfl : c = outgoing endpoint headers A args ttl := by
    simpa using hback
  exact ⟨(InboundCall.request_eq_ok_iff.1 hq).2.2, Dispatcher.handle_of_served he hq⟩

/-- The handler of a call sees no transport headers and the longest duration that can be sent
within the caller's. That is the caller's own if it can be sent, it grows with the caller's,
and sending it once more or sending any number of milliseconds changes nothing. No number on
the way is beyond the word that holds it. -/
theorem ttl_arrives (d : Dispatcher ε) :
    (∀ endpoint headers A args ttl sent (e : Endpoint ε) (request : Request e.args),
      (RequestMessage.call (outgoing endpoint headers A args ttl)).frame = .ok sent →
      Server.Serves d sent e request →
      request.transport = ⟨.empty, ttl.arriving⟩ ∧
        d.handle (outgoing endpoint headers A args ttl) =
          .log (.dispatching endpoint) (e.serve request)) ∧
    (∀ ttl : Duration,
      IsGreatest {t : Duration | t.Sendable ∧ t ≤ ttl} ttl.arriving ∧ ttl.arriving ≤ ttl ∧
      (ttl.arriving = ttl ↔ ttl.Sendable) ∧ ttl.arriving.arriving = ttl.arriving ∧
      ttl.millis < 0x100000000000000000000000000000000 ∧
      ttl.toMillis.toNat = min ttl.millis 0xFFFFFFFFFFFFFFFF) ∧
    Monotone Duration.arriving ∧
    ∀ ms : UInt64, (Duration.ofMillis ms).toMillis = ms ∧
      (Duration.ofMillis ms).totalNanos = ms.toNat * nanosPerMilli :=
  ⟨fun _ _ _ _ _ _ _ _ => transport_of_serves,
    fun ttl => ⟨ttl.isGreatest_arriving, ttl.arriving_le, Duration.arriving_eq_self_iff,
      ttl.arriving_arriving, ttl.millis_lt, ttl.toNat_toMillis⟩,
    Duration.arriving_mono,
    fun ms => ⟨Duration.toMillis_ofMillis ms, Duration.totalNanos_ofMillis ms⟩⟩

theorem ttl_arrives_longest :
    let A := Sample.lookupArgs
    let s : Strategy A Sample.lookupResult := .legacy ⟨"lookup", fun request _ =>
      .header "ttl" request.transport.ttl.text (.done (.ok none))⟩ ⟨"files", "files::lookup"⟩
    let e : Endpoint Sample.Thrown := ⟨_, _, s⟩
    let d := ((Dispatcher.empty .legacy).add "files::lookup" e).1
    let ttl : Duration := ⟨0xFFFFFFFFFFFFFFFF, 999999999, by decide⟩
    let c := outgoing "files::lookup" .empty A ("key", ()) ttl
    let request : Request A := ⟨.empty, ("key", ()), ⟨.empty, ttl.arriving⟩⟩
    ∃ sent, (RequestMessage.call c).frame = .ok sent ∧ Server.Serves d sent e request ∧
      d.handle c = .log (.dispatching "files::lookup") (e.serve request) ∧
      request.transport.ttl.text = "18446744073709551615ms=18446744073709551s+615000000ns" ∧
      request.transport.ttl ≤ ttl ∧ request.transport.ttl ≠ ttl := by
  intro A s e d ttl c request
  have hm : (RequestMessage.call c).payload.length ≤ Frame.sizeLimit := by decide +kernel
  obtain ⟨sent, hsent⟩ := RequestMessage.exists_frame hm
  have hback := RequestMessage.receive_frame hsent
  have hk : (Utf8.bytes "key").length < Wire.lengthLimit := by decide
  have hq : c.request A = .ok request :=
    InboundCall.request_of _ _ ⟨by decide, nofun⟩ ⟨hk, trivial⟩
  have hserves : Server.Serves d sent e request := ⟨c, hback, rfl, hq⟩
  obtain ⟨hseen, hall, -, -⟩ := ttl_arrives d
  obtain ⟨-, hle, hself, -⟩ := hall ttl
  refine ⟨sent, hsent, hserves, (hseen _ _ _ _ _ _ e request hsent hserves).2, by decide +kernel,
    hle, fun heq => ?_⟩
  obtain ⟨-, hlong⟩ := hself.1 heq
  exact absurd hlong (by decide)

end Client

end ServiceBinding.Net
