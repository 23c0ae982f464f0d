import ServiceBinding.Net.Client
import ServiceBinding.Net.Server
import ServiceBinding.Proofs.Dispatch.Serving
import ServiceBinding.Proofs.Net.Message
import ServiceBinding.Sample.Shapes

/-!
# Calls over the network

A client that is connected to a server gets the server's reply to its request, as long as
both fit into a frame. Main statement: a call over the network comes to what the dispatcher
answers in place, and the handler that it reaches sees what the caller passed in.
-/

namespace ServiceBinding.Net

variable {ε : Type} [Throwable ε]

theorem Server.respond_frame {d : Dispatcher ε} {m : RequestMessage} {sent answered : List UInt8}
    (hs : m.frame = .ok sent) (ha : (reply d m).frame = .ok answered) :
    respond d sent = answered := by
  rw [respond, RequestMessage.receive_frame hs]
  simp only [ha]

namespace Client

theorem exchange_respond {d : Dispatcher ε} {m : RequestMessage}
    (hm : m.payload.length ≤ Frame.sizeLimit)
    (hr : (Server.reply d m).payload.length ≤ Frame.sizeLimit) :
    (exchange (.ok (Server.respond d)) m : Except (ClientError ε) ReplyMessage) =
      .ok (Server.reply d m) := by
  obtain ⟨sent, hs⟩ := RequestMessage.exists_frame hm
  obtain ⟨answered, ha⟩ := ReplyMessage.exists_frame hr
  simp only [exchange, hs, Server.respond_frame hs ha, ReplyMessage.receive_frame ha]

/-- What a caller makes of a dispatcher's answer. Of a failure only the text gets through. -/
def outcome (R : ResultShape ε) :
    Except (DispatchError ε) WireResponse → Except (ClientError ε) (CallResponse R)
  | .error e => .error (.fault e.message)
  | .ok w =>
    match w.decodeBody R with
    | .error e => .error (.dispatch (.codec e))
    | .ok result => .ok ⟨w.code, w.headers, result⟩

theorem fits_headers_of_payload {endpoint : String} {headers : Headers} {A : ArgsShape}
    {args : A.Val} {transport : TransportHeaders}
    (h : (RequestMessage.call (.of endpoint headers A args transport)).payload.length ≤
      Frame.sizeLimit) : Wire.Schema.headers.Fits headers := by
  obtain ⟨-, -, ⟨hl, -⟩, -⟩ := RequestMessage.fits_toVal h
  exact Wire.Schema.headers.fits_of_length_encode .fixed trivial headers hl

/-- Over a network that loses nothing a call has the outcome of the dispatcher's own answer,
and an endpoint of the caller's argument shape serves the caller's headers and arguments, with
no transport headers and the caller's patience in whole milliseconds. -/
theorem call_agrees_with_handle {d : Dispatcher ε} {endpoint : String} {headers : Headers}
    {A : ArgsShape} {args : A.Val} {ttl : Duration} {R : ResultShape ε} {c : InboundCall}
    (hc : c = .of endpoint headers A args ⟨.empty, ttl.toMillis⟩)
    (hq : (RequestMessage.call c).payload.length < 0x100000000)
    (hr : (Server.reply d (.call c)).payload.length < 0x100000000) :
    call (.ok (Server.respond d)) endpoint headers A args ttl R =
        outcome R (d.handle c).result ∧
      ∀ (R' : ResultShape ε) (s : Strategy A R'),
        d.endpoints.get? endpoint = some ⟨A, R', s⟩ → A.schema.Fits args →
        d.handle c = .log (.dispatching endpoint)
          (Endpoint.serve ⟨A, R', s⟩ ⟨headers, args, ⟨.empty, .ofMillis ttl.toMillis⟩⟩) := by
  subst hc
  have hq' := Nat.le_of_lt_succ hq
  have hr' := Nat.le_of_lt_succ hr
  constructor
  · have he := exchange_respond hq' hr'
    rw [call, outgoing, he]
    simp only [Server.reply, outcome]
    cases (d.handle _).result with
    | error e => rfl
    | ok w => rfl
  · intro R' s hs ha
    exact Dispatcher.handle_of _ hs (fits_headers_of_payload hq') ha

theorem call_agrees_with_handle_lookup :
    let A := Sample.lookupArgs
    let R := Sample.lookupResult
    let s : Strategy A R := .legacy ⟨"lookup", fun request _ =>
      .header "ttl" request.transport.ttl.text <|
        .done (.error (.notFound request.args.1))⟩ ⟨"files", "files::lookup"⟩
    let d : Dispatcher Sample.Thrown :=
      ((Dispatcher.empty .legacy).add "files::lookup" ⟨A, R, s⟩).1
    let headers : Headers := SortedMap.empty.insert "trace" "1"
    let ttl : Duration := .of 1 500000000
    let c : InboundCall := .of "files::lookup" headers A ("key", ()) ⟨.empty, ttl.toMillis⟩
    (RequestMessage.call c).payload.length < 0x100000000 ∧
      (Server.reply d (.call c)).payload.length < 0x100000000 ∧
      d.endpoints.get? "files::lookup" = some ⟨A, R, s⟩ ∧ A.schema.Fits ("key", ()) ∧
      call (.ok (Server.respond d)) "files::lookup" headers A ("key", ()) ttl R =
        .ok ⟨.error, SortedMap.empty.insert "ttl" "1500ms=1s+500000000ns",
          (none, some ("key", ()), none, ())⟩ ∧
      d.handle c = .log (.dispatching "files::lookup")
        (Endpoint.serve ⟨A, R, s⟩ ⟨headers, ("key", ()), ⟨.empty, .ofMillis 1500⟩⟩) := by
  intro A R s d headers ttl c
  have hq : (RequestMessage.call c).payload.length < 0x100000000 := by decide +kernel
  have hr : (Server.reply d (.call c)).payload.length < 0x100000000 := by decide +kernel
  have hs : d.endpoints.get? "files::lookup" = some ⟨A, R, s⟩ := rfl
  have hk : (Utf8.bytes "key").length < Wire.lengthLimit := by decide
  have ha : A.schema.Fits ("key", ()) := ⟨hk, trivial⟩
  obtain ⟨hcall, hserve⟩ := call_agrees_with_handle (R := R) (rfl : c = _) hq hr
  have hw : (d.handle c).result =
      .ok ⟨.error, SortedMap.empty.insert "ttl" "1500ms=1s+500000000ns",
        encodeAs R.schema (none, some ("key", ()), none, ())⟩ := by decide +kernel
  have hR : R.schema.Fits (none, some ("key", ()), none, ()) :=
    ⟨trivial, ⟨hk, trivial⟩, trivial, trivial⟩
  rw [hw, outcome, WireResponse.decodeBody, decodeAs_encodeAs hR] at hcall
  have ht : ttl.toMillis = 1500 := by decide +kernel
  have hseen := hserve R s hs ha
  rw [ht] at hseen
  exact ⟨hq, hr, hs, ha, hcall, hseen⟩

end Client

end ServiceBinding.Net
