import ServiceBinding.Net.Client
import ServiceBinding.Net.Server
import ServiceBinding.Proofs.Net.Message
import ServiceBinding.Proofs.Wire.Parsing
import ServiceBinding.Sample.Shapes

/-!
# Delivery

What either end of a connection makes of the bytes that it receives, whatever they are. A
message is delivered if they begin with a whole frame whose payload begins with a spelling of
the message. Main statement: a server sends the one frame of its reply to the request that is
delivered, and nothing if there is none; the outcome of a client's request follows in the same
way from the reply that is delivered.
-/

namespace ServiceBinding.Net

open Wire (Schema)

namespace Frame

variable {s : Schema} {v : s.Val} {received : List UInt8}

def around (payload more : List UInt8) : List UInt8 :=
  bigEndian4 payload.length ++ payload ++ more

def Delivers (s : Schema) (v : s.Val) (received : List UInt8) : Prop :=
  ∃ front tail more, s.Spelling .compact v front ∧ (front ++ tail).length < 0x100000000 ∧
    received = around (front ++ tail) more

theorem decode_eq_some_iff (hpos : ∀ front, s.Spelling .compact v front → 0 < front.length) :
    decode s received = .ok (some v) ↔ Delivers s v received := by
  constructor
  · intro h
    simp only [decode] at h
    split at h
    · cases h
    · cases h
    · next payload hr =>
      split at h
      · next v' tail hd =>
        cases h
        obtain ⟨-, hl, more, rfl⟩ := read_eq_some_iff.1 hr
        obtain ⟨front, hs, rfl⟩ := Schema.decode_eq_ok_iff.1 hd
        exact ⟨front, tail, more, hs, Nat.lt_succ_of_le hl, rfl⟩
      · cases h
  · rintro ⟨front, tail, more, hs, hl, rfl⟩
    have hlen : 0 < (front ++ tail).length := by
      have hf := hpos front hs
      rw [List.length_append]
      omega
    have hr := read_append hlen (Nat.le_of_lt_succ hl) more
    have hd : s.decode .compact (front ++ tail) = .ok (v, tail) :=
      Schema.decode_eq_ok_iff.2 ⟨front, hs, rfl⟩
    simp only [decode, around, hr, hd]

theorem decode_eq_none_iff : decode s received = .ok none ↔ received = [] := by
  rw [← read_eq_none_iff]
  simp only [decode]
  split
  · next h => simp [h]
  · next h => simp [h]
  · next payload h =>
    rw [h]
    split <;> simp

theorem length_pos_of_choice {name : String} {ms : Wire.Members} {x : ms.One}
    {front : List UInt8} (h : (Schema.choice name ms).Spelling .compact x front) :
    0 < front.length := by
  obtain ⟨n, head, body, ⟨_, hw, -⟩, -, rfl⟩ := h
  have hpos := Wire.Format.length_pos_of_wordSpelling hw
  rw [List.length_append]
  omega

variable {μ : Type}

theorem receive_eq_some_iff {name : String} {ms : Wire.Members} {toVal : μ → ms.One}
    {ofVal : ms.One → μ} (hto : ∀ v, toVal (ofVal v) = v) (hof : ∀ m, ofVal (toVal m) = m)
    {m : μ} :
    (decode (.choice name ms) received).map (·.map ofVal) = .ok (some m) ↔
      Delivers (.choice name ms) (toVal m) received := by
  rw [← decode_eq_some_iff fun _ => length_pos_of_choice]
  rcases decode (.choice name ms) received with e | _ | v
  · simp [Except.map]
  · simp [Except.map]
  · have hv : ofVal v = m ↔ v = toVal m :=
      ⟨fun h => h ▸ (hto v).symm, fun h => h ▸ hof m⟩
    simp [Except.map, hv]

theorem receive_eq_none_iff {f : s.Val → μ} :
    (decode s received).map (·.map f) = .ok none ↔ received = [] := by
  rw [← decode_eq_none_iff (s := s)]
  rcases decode s received with e | _ | v <;> simp [Except.map]

end Frame

theorem RequestMessage.toVal_ofVal (v : RequestMessage.schema.Val) : (ofVal v).toVal = v := by
  rcases v with ⟨⟩ | c | x
  · rfl
  · rfl
  · cases x

theorem ReplyMessage.toVal_ofVal (v : ReplyMessage.schema.Val) : (ofVal v).toVal = v := by
  rcases v with ⟨⟩ | ⟨code, w⟩ | text | x
  · rfl
  · rcases code with ⟨⟩ | ⟨⟨⟩ | x⟩
    · rfl
    · rfl
    · cases x
  · rfl
  · cases x

namespace RequestMessage

def Spelling (m : RequestMessage) : List UInt8 → Prop := schema.Spelling .compact m.toVal

def Delivered (m : RequestMessage) (received : List UInt8) : Prop :=
  Frame.Delivers schema m.toVal received

theorem receive_eq_some_iff {m : RequestMessage} {received : List UInt8} :
    receive received = .ok (some m) ↔ m.Delivered received :=
  Frame.receive_eq_some_iff toVal_ofVal ofVal_toVal

theorem delivered_unique {m m' : RequestMessage} {received : List UInt8}
    (h : m.Delivered received) (h' : m'.Delivered received) : m = m' := by
  rw [← receive_eq_some_iff] at h h'
  exact Option.some.inj (Except.ok.inj (h.symm.trans h'))

theorem spelling_payload {m : RequestMessage} (h : m.payload.length < 0x100000000) :
    m.Spelling m.payload :=
  Schema.spelling_encode .compact (fits_toVal (Nat.le_of_lt_succ h))

end RequestMessage

namespace ReplyMessage

def Delivered (m : ReplyMessage) (received : List UInt8) : Prop :=
  Frame.Delivers schema m.toVal received

theorem receive_eq_some_iff {m : ReplyMessage} {received : List UInt8} :
    receive received = .ok (some m) ↔ m.Delivered received :=
  Frame.receive_eq_some_iff toVal_ofVal ofVal_toVal

theorem receive_eq_none_iff {received : List UInt8} :
    receive received = .ok none ↔ received = [] := Frame.receive_eq_none_iff

end ReplyMessage

variable {ε : Type}

namespace Server

variable [Throwable ε] {d : Dispatcher ε} {m : RequestMessage} {received : List UInt8}

theorem respond_of_delivered (h : m.Delivered received) :
    respond d received = match (reply d m).frame with
      | .ok bs => bs
      | .error _ => [] := by
  have hm := RequestMessage.receive_eq_some_iff.2 h
  cases hf : (reply d m).frame with
  | error e => simp only [respond, hm, hf]
  | ok frame => simp only [respond, hm, hf]

theorem respond_of_not_delivered (h : ∀ m : RequestMessage, ¬ m.Delivered received) :
    respond d received = [] := by
  rw [respond]
  split
  · next m hm => exact absurd (RequestMessage.receive_eq_some_iff.1 hm) (h m)
  · rfl

theorem frame_reply (h : m.Delivered received) (hr : (reply d m).payload.length < 0x100000000) :
    (reply d m).frame = .ok (respond d received) := by
  obtain ⟨frame, hf⟩ := ReplyMessage.exists_frame (Nat.le_of_lt_succ hr)
  rw [respond_of_delivered h, hf]

theorem respond_ne_nil_iff : respond d received ≠ [] ↔
    ∃ m : RequestMessage, m.Delivered received ∧ (reply d m).payload.length < 0x100000000 := by
  constructor
  · intro h
    by_cases hm : ∃ m : RequestMessage, m.Delivered received
    · obtain ⟨m, hm⟩ := hm
      refine ⟨m, hm, ?_⟩
      rw [respond_of_delivered hm] at h
      split at h
      · next frame hf => exact Nat.lt_succ_of_le (Frame.write_eq_ok_iff.1 hf).1
      · exact absurd rfl h
    · exact absurd (respond_of_not_delivered (not_exists.1 hm)) h
  · rintro ⟨m, hm, hr⟩ hnil
    have hf := (Frame.write_eq_ok_iff.1 (frame_reply hm hr)).2
    rw [hnil] at hf
    cases hf

end Server

namespace Client

structure PingFollows (received : List UInt8) (outcome : Except (ClientError ε) Unit) : Prop where
  ok : outcome = .ok () ↔ ReplyMessage.ping.Delivered received
  fault : ∀ text, outcome = .error (.fault text) ↔
    (ReplyMessage.fault text).Delivered received
  unexpected : ∀ what, outcome = .error (.unexpected what) ↔
    what = "call response to ping" ∧ ∃ w, (ReplyMessage.call w).Delivered received
  noResponse : outcome = .error .noResponse ↔ received = []
  framing : (∃ e, outcome = .error (.framing e)) ↔
    received ≠ [] ∧ ∀ m : ReplyMessage, ¬ m.Delivered received

structure CallFollows (R : ResultShape ε) (received : List UInt8)
    (outcome : Except (ClientError ε) (CallResponse R)) : Prop where
  ok : ∀ response, outcome = .ok response ↔ ∃ w result,
    (ReplyMessage.call w).Delivered received ∧ w.decodeBody R = .ok result ∧
      response = ⟨w.code, w.headers, result⟩
  undecoded : ∀ e, outcome = .error (.dispatch e) ↔ ∃ w err,
    (ReplyMessage.call w).Delivered received ∧ w.decodeBody R = .error err ∧ e = .codec err
  fault : ∀ text, outcome = .error (.fault text) ↔
    (ReplyMessage.fault text).Delivered received
  unexpected : ∀ what, outcome = .error (.unexpected what) ↔
    what = "ping response to call" ∧ ReplyMessage.ping.Delivered received
  noResponse : outcome = .error .noResponse ↔ received = []
  framing : (∃ e, outcome = .error (.framing e)) ↔
    received ≠ [] ∧ ∀ m : ReplyMessage, ¬ m.Delivered received

variable {answer : List UInt8 → List UInt8} {sent : List UInt8}

theorem ping_eq (hs : RequestMessage.ping.frame = .ok sent) :
    (ping (.ok answer) : Except (ClientError ε) Unit) =
      match ReplyMessage.receive (answer sent) with
      | .error e => .error (.framing e)
      | .ok none => .error .noResponse
      | .ok (some .ping) => .ok ()
      | .ok (some (.fault text)) => .error (.fault text)
      | .ok (some (.call _)) => .error (.unexpected "call response to ping") := by
  simp only [ping, exchange, hs]
  rcases ReplyMessage.receive (answer sent) with e | _ | _ | w | text <;> rfl

theorem ping_follows (hs : RequestMessage.ping.frame = .ok sent) :
    PingFollows (answer sent) (ping (.ok answer) : Except (ClientError ε) Unit) := by
  constructor
  all_goals
    simp only [← ReplyMessage.receive_eq_some_iff, ← ReplyMessage.receive_eq_none_iff, ne_eq,
      ping_eq hs]
    rcases ReplyMessage.receive (answer sent) with e | _ | _ | w | text <;> simp [eq_comm]

variable {endpoint : String} {headers : Headers} {A : ArgsShape} {args : A.Val}
  {ttl : Duration} {R : ResultShape ε}

theorem call_eq
    (hs : (RequestMessage.call (outgoing endpoint headers A args ttl)).frame = .ok sent) :
    call (.ok answer) endpoint headers A args ttl R =
      match ReplyMessage.receive (answer sent) with
      | .error e => .error (.framing e)
      | .ok none => .error .noResponse
      | .ok (some .ping) => .error (.unexpected "ping response to call")
      | .ok (some (.fault text)) => .error (.fault text)
      | .ok (some (.call w)) =>
        match w.decodeBody R with
        | .error e => .error (.dispatch (.codec e))
        | .ok result => .ok ⟨w.code, w.headers, result⟩ := by
  simp only [call, exchange, hs]
  rcases ReplyMessage.receive (answer sent) with e | _ | _ | w | text <;> rfl

theorem call_follows
    (hs : (RequestMessage.call (outgoing endpoint headers A args ttl)).frame = .ok sent) :
    CallFollows R (answer sent) (call (.ok answer) endpoint headers A args ttl R) := by
  constructor
  all_goals
    simp only [← ReplyMessage.receive_eq_some_iff, ← ReplyMessage.receive_eq_none_iff, ne_eq,
      call_eq hs]
    rcases ReplyMessage.receive (answer sent) with e | _ | _ | w | text
    case ok.some.call => cases hw : w.decodeBody R <;> simp [hw, eq_comm]
    all_goals simp [eq_comm]

end Client

/-- A server sends nothing or one frame, which is that of its reply to the delivered request,
however this is spelled and whatever follows it; and what a client makes of the received bytes
follows from the delivered reply. -/
theorem one_frame_each_way [Throwable ε] (d : Dispatcher ε) :
    (∀ m : RequestMessage, m.payload.length < 0x100000000 → m.Spelling m.payload) ∧
    (∀ received, Server.respond d received = [] ∨
      ∃ m : ReplyMessage, m.frame = .ok (Server.respond d received)) ∧
    (∀ received, Server.respond d received ≠ [] ↔ ∃ m : RequestMessage,
      m.Delivered received ∧ (Server.reply d m).payload.length < 0x100000000) ∧
    (∀ received (m m' : RequestMessage), m.Delivered received → m'.Delivered received → m = m') ∧
    (∀ received (m : RequestMessage), m.Delivered received →
      (Server.reply d m).payload.length < 0x100000000 →
      (Server.reply d m).frame = .ok (Server.respond d received)) ∧
    (∀ (m : RequestMessage) (front tail more front' tail' more' : List UInt8),
      m.Spelling front → (front ++ tail).length < 0x100000000 →
      m.Spelling front' → (front' ++ tail').length < 0x100000000 →
      Server.respond d (Frame.around (front ++ tail) more) =
        Server.respond d (Frame.around (front' ++ tail') more')) ∧
    (∀ answer sent, RequestMessage.ping.frame = .ok sent →
      Client.PingFollows (answer sent)
        (Client.ping (.ok answer) : Except (ClientError ε) Unit)) ∧
    ∀ answer sent endpoint headers A args ttl (R : ResultShape ε),
      (RequestMessage.call (Client.outgoing endpoint headers A args ttl)).frame = .ok sent →
      Client.CallFollows R (answer sent)
        (Client.call (.ok answer) endpoint headers A args ttl R) := by
  refine ⟨fun m => RequestMessage.spelling_payload, fun received => ?_,
    fun received => Server.respond_ne_nil_iff,
    fun received m m' => RequestMessage.delivered_unique,
    fun received m => Server.frame_reply, ?_, fun answer sent => Client.ping_follows,
    fun answer sent endpoint headers A args ttl R => Client.call_follows⟩
  · by_cases h : Server.respond d received = []
    · exact .inl h
    · obtain ⟨m, hm, hr⟩ := Server.respond_ne_nil_iff.1 h
      exact .inr ⟨_, Server.frame_reply hm hr⟩
  · intro m front tail more front' tail' more' hs hl hs' hl'
    have hd : m.Delivered (Frame.around (front ++ tail) more) := ⟨front, tail, more, hs, hl, rfl⟩
    have hd' : m.Delivered (Frame.around (front' ++ tail') more') :=
      ⟨front', tail', more', hs', hl', rfl⟩
    rw [Server.respond_of_delivered hd, Server.respond_of_delivered hd']

-- every number of the second spelling stands behind a marker
theorem one_frame_each_way_respelled :
    let m : RequestMessage := .call ⟨"e", [], [], ⟨.empty, 7⟩⟩
    let spelled (tag length zero ttl : List UInt8) : List UInt8 :=
      tag ++ length ++ [101] ++ zero ++ zero ++ zero ++ ttl
    let front := spelled [1] [1] [0] [7]
    let front' := spelled [251, 1, 0] [252, 1, 0, 0, 0] [251, 0, 0] [253, 7, 0, 0, 0, 0, 0, 0, 0]
    let d : Dispatcher Sample.Thrown := .empty .legacy
    m.Spelling front ∧ m.Spelling front' ∧ (Server.reply d m).payload.length < 0x100000000 ∧
      (Server.reply d m).frame = .ok (Server.respond d (Frame.around front [])) ∧
      Server.respond d (Frame.around (front' ++ [9]) [8, 8]) =
        Server.respond d (Frame.around front []) ∧
      (Client.ping (.ok fun _ => []) : Except (ClientError Sample.Thrown) Unit) =
        .error .noResponse ∧
      ∀ R : ResultShape Sample.Thrown, Client.call (.ok fun _ => Frame.around [0] [1]) "e" .empty
        Sample.helloArgs ("Ada", ()) (.of 1 0) R =
          .error (.unexpected "ping response to call") := by
  intro m spelled front front' d
  have hspelled : ∀ {tag length zero ttl}, Wire.CompactSpelling 1 tag →
      Wire.CompactSpelling 1 length → Wire.CompactSpelling 0 zero → Wire.CompactSpelling 7 ttl →
      m.Spelling (spelled tag length zero ttl) := by
    intro tag length zero ttl htag hlength hzero httl
    have htext : Wire.Format.compact.TextSpelling "e" (length ++ [101]) :=
      ⟨length, [101], ⟨1, hlength, rfl⟩, rfl, rfl⟩
    have hlist : ∀ {α} (P : α → List UInt8 → Prop), Wire.Format.compact.ListSpelling P [] zero :=
      fun P => ⟨zero, [], ⟨0, hzero, rfl⟩, rfl, List.append_nil zero⟩
    have htransport : TransportHeaders.schema.Spelling .compact (.empty, 7, ()) (zero ++ ttl) :=
      ⟨zero, ttl, ⟨[], hlist _, rfl⟩, ⟨ttl, [], httl, rfl, List.append_nil ttl⟩, rfl⟩
    refine ⟨1, tag, _, ⟨1, htag, rfl⟩, ⟨length ++ [101], _, htext, ⟨zero, _, hlist _,
      ⟨zero, _, hlist _, ⟨zero ++ ttl, [], htransport, rfl, rfl⟩, rfl⟩, rfl⟩, rfl⟩, ?_⟩
    simp only [spelled, List.append_assoc, List.append_nil]
  have hm : m.Spelling front :=
    hspelled (.byte (by decide)) (.byte (by decide)) (.byte (by decide)) (.byte (by decide))
  have hm' : m.Spelling front' :=
    hspelled (.two (by decide)) (.four (by decide)) (.two (by decide)) (.eight (by decide))
  have hr : (Server.reply d m).payload.length < 0x100000000 := by decide +kernel
  have hd : m.Delivered (Frame.around front []) :=
    ⟨front, [], [], hm, by decide, congrArg (Frame.around · []) (List.append_nil front).symm⟩
  have hping : ReplyMessage.ping.Delivered (Frame.around [0] [1]) :=
    ⟨[0], [], [1], ⟨0, [0], [], ⟨0, .byte (by decide), rfl⟩, rfl, rfl⟩, by decide, rfl⟩
  obtain ⟨sent, hsent⟩ := RequestMessage.exists_frame (m := .call (Client.outgoing "e" .empty
    Sample.helloArgs ("Ada", ()) (.of 1 0))) (by decide +kernel)
  obtain ⟨-, -, -, -, hframe, hrespelled, hclient, hcall⟩ := one_frame_each_way d
  have hsame := hrespelled m front' [9] [8, 8] front [] [] hm' (by decide) hm (by decide)
  rw [List.append_nil] at hsame
  exact ⟨hm, hm', hr, hframe _ m hd hr, hsame, (hclient (fun _ => []) _ rfl).noResponse.2 rfl,
    fun R => ((hcall _ sent "e" .empty _ _ _ R hsent).unexpected _).2 ⟨rfl, hping⟩⟩

end ServiceBinding.Net
