import Mathlib.Logic.Function.Basic
import ServiceBinding.Proofs.Dispatch.Returned
import ServiceBinding.Proofs.Net.Call
import ServiceBinding.Proofs.Net.Delivery
import ServiceBinding.Proofs.Response.Runs
import ServiceBinding.Proofs.Text.Order
import ServiceBinding.Proofs.Wire.Canonical

/-!
# Headers have one representation

Headers are written one by one, handed over from one response to another, and read from bytes
in which their names stand in any order and more than once. Main statement: what is left of all
that is the value that each name was given last. Headers with the same values are the same
bytes, alone and in a frame, and the same bytes are headers with the same values, so that the
order in which a handler writes its headers is not seen from outside.
-/

namespace ServiceBinding

open Wire (Schema)
open SortedMap (lastValue?)
open Operation (lastHeader?)

variable {ε : Type} {A : ArgsShape} {R : ResultShape ε}

theorem Net.Frame.infix_around (front tail more : List UInt8) :
    front <:+: around (front ++ tail) more :=
  ⟨bigEndian4 _, tail ++ more, by rw [around, List.append_assoc, List.append_assoc,
    List.append_assoc]⟩

/-- Headers that have been made step by step, with the value that each name was given last. -/
inductive Headers.Built : Headers → (String → Option String) → Prop
  | empty : Built .empty fun _ => none
  | written {ε : Type} {R : ResultShape ε} {r : Response R} {f : String → Option String}
      (name value : String) (h : Built r.headers f) :
    Built (r.writeHeader name value).headers (Function.update f name (some value))
  | replied {β : Type} {a : Answer β} {f : String → Option String} (name value : String)
      (h : Built a.headers f) :
    Built (a.withHeader name value).headers (Function.update f name (some value))
  | handedOver {ε : Type} {R : ResultShape ε} {o : Outbound R} {headers : Headers}
      {f g : String → Option String} (ho : Built o.headers f) (hh : Built headers g) :
    Built (o.writeHeaders headers).headers fun name => (g name).or (f name)
  | decoded {format : Wire.Format} {bs rest : List UInt8} {entries : List (String × String)}
      {headers : Headers} (hm : Schema.headers.decode format bs = .ok (headers, rest))
      (hl : (Schema.list (.pair .text .text)).decode format bs = .ok (entries, rest)) :
    Built headers fun name => lastValue? name entries

namespace Headers

variable {m n : Headers} {f g : String → Option String}

theorem Built.get?_eq (h : Built m f) (name : String) : m.get? name = f name := by
  induction h with
  | empty => rfl
  | written key value h ih =>
    rw [Response.writeHeader, SortedMap.get?_insert, ih, Function.update_apply]
  | replied key value h ih =>
    rw [Answer.withHeader, SortedMap.get?_insert, ih, Function.update_apply]
  | handedOver ho hh iho ihh =>
    rw [Outbound.writeHeaders, SortedMap.get?_extend, iho, ihh]
  | @decoded format bs rest entries headers hm hl =>
    rw [Schema.decode_map, hl] at hm
    cases hm
    exact SortedMap.get?_ofList entries name

theorem keys_ascending_bytes (m : Headers) :
    m.keys.Pairwise fun a b => Utf8.bytes a < Utf8.bytes b :=
  m.keys_ascending.imp Utf8.bytes_lt_bytes

theorem Built.eq_iff (hm : Built m f) (hn : Built n g) : m = n ↔ ∀ name, f name = g name := by
  constructor
  · intro h name
    rw [← hm.get?_eq, ← hn.get?_eq, h]
  · intro h
    exact SortedMap.ext_get? fun name => by rw [hm.get?_eq, hn.get?_eq, h]

def ReadFrom (m : Headers) (format : Wire.Format) (bs : List UInt8) : Prop :=
  ∃ entries rest, (Schema.list (.pair .text .text)).decode format bs = .ok (entries, rest) ∧
    Built m fun name => lastValue? name entries

theorem readFrom_of_decode {format : Wire.Format} {bs rest : List UInt8}
    (h : Schema.headers.decode format bs = .ok (m, rest)) : m.ReadFrom format bs := by
  cases hl : (Schema.list (.pair .text .text)).decode format bs with
  | error e =>
    rw [Schema.decode_map, hl] at h
    cases h
  | ok p =>
    have hrest : p.2 = rest := by
      rw [Schema.decode_map, hl] at h
      exact congrArg Prod.snd (Except.ok.inj h)
    subst hrest
    exact ⟨_, _, hl, .decoded h hl⟩

theorem exists_readFrom_around {front bs : List UInt8} (tail more : List UInt8)
    (h : Schema.headers.Spelling .compact m bs) (hbs : bs <:+: front) :
    ∃ bs, bs <:+: Net.Frame.around (front ++ tail) more ∧ m.ReadFrom .compact bs := by
  have hread := readFrom_of_decode (Schema.decode_eq_ok_iff.2 ⟨bs, h, List.append_nil bs⟩)
  exact ⟨bs, hbs.trans (Net.Frame.infix_around front tail more), hread⟩

theorem readFrom_request {received : List UInt8} {c : InboundCall}
    (h : Net.RequestMessage.receive received = .ok (some (.call c))) :
    ∃ bs, bs <:+: received ∧ c.transport.headers.ReadFrom .compact bs := by
  obtain ⟨front, tail, more, ⟨n, head, body, -, hbody, rfl⟩, -, rfl⟩ :=
    Net.RequestMessage.receive_eq_some_iff.1 h
  match n, hbody with
  | 1, hcall =>
    obtain ⟨endpoint, _, -, ⟨own, _, -, ⟨args, _, -, ⟨_, back, ⟨bs, ttl, hheaders, -, rfl⟩, -,
      rfl⟩, rfl⟩, rfl⟩, rfl⟩ := hcall
    have hfront : bs <:+: head ++ (endpoint ++ (own ++ (args ++ (bs ++ ttl ++ back)))) :=
      ⟨head ++ endpoint ++ own ++ args, ttl ++ back, by simp only [List.append_assoc]⟩
    exact exists_readFrom_around tail more hheaders hfront

theorem readFrom_reply {received : List UInt8} {w : WireResponse}
    (h : Net.ReplyMessage.receive received = .ok (some (.call w))) :
    ∃ bs, bs <:+: received ∧ w.headers.ReadFrom .compact bs := by
  obtain ⟨front, tail, more, ⟨n, head, body, -, hbody, rfl⟩, -, rfl⟩ :=
    Net.ReplyMessage.receive_eq_some_iff.1 h
  match n, hbody with
  | 1, hcall =>
    obtain ⟨code, _, -, ⟨bs, back, hheaders, -, rfl⟩, rfl⟩ := hcall
    have hfront : bs <:+: head ++ (code ++ (bs ++ back)) :=
      ⟨head ++ code, back, by simp only [List.append_assoc]⟩
    exact exists_readFrom_around tail more hheaders hfront

theorem eq_of_encodeAs_eq (hm : Schema.headers.Fits m) (hn : Schema.headers.Fits n)
    (h : encodeAs .headers m = encodeAs .headers n) : m = n := by
  have hback := decodeAs_encodeAs hm
  rw [h, decodeAs_encodeAs hn] at hback
  exact (Except.ok.inj hback).symm

theorem fits_of_length (h : (encodeAs .headers m).length < Wire.lengthLimit) :
    Schema.headers.Fits m := Schema.headers.fits_of_length_encode .fixed trivial m h

end Headers

namespace Net

inductive Carrier
  | reply (code : StatusCode) (body : List UInt8)
  | beside (endpoint : String) (headers body : List UInt8) (ttlMillis : UInt64)
  | call (endpoint : String) (A : ArgsShape) (args : A.Val) (transport : TransportHeaders)

def Carrier.frame (headers : Headers) : Carrier → Except FrameError (List UInt8)
  | reply code body => (ReplyMessage.call ⟨code, headers, body⟩).frame
  | beside endpoint other body ttlMillis =>
    (RequestMessage.call ⟨endpoint, other, body, ⟨headers, ttlMillis⟩⟩).frame
  | call endpoint A args transport =>
    (RequestMessage.call (.of endpoint headers A args transport)).frame

theorem Carrier.eq_of_frame_eq {m n : Headers} {sent : List UInt8} (k : Carrier)
    (hm : k.frame m = .ok sent) (hn : k.frame n = .ok sent) : m = n := by
  cases k with
  | reply code body =>
    have h := ReplyMessage.messages.eq_of_encode_eq hm hn
    simpa using h
  | beside endpoint other body ttlMillis =>
    have h := RequestMessage.messages.eq_of_encode_eq hm hn
    simpa using h
  | call endpoint A args transport =>
    have h := RequestMessage.messages.eq_of_encode_eq hm hn
    have hbytes : encodeAs .headers m = encodeAs .headers n := by
      simpa [InboundCall.of] using h
    have hfits : ∀ headers, (RequestMessage.call (.of endpoint headers A args transport)).frame =
        .ok sent → Schema.headers.Fits headers := fun headers hsent =>
      Client.fits_headers_of_payload (Frame.write_eq_ok_iff.1 hsent).1
    exact Headers.eq_of_encodeAs_eq (hfits m hm) (hfits n hn) hbytes

end Net

variable [Throwable ε]

namespace LegacyHandler

structure Alike (h : LegacyHandler A R) (context : CallContext) (h' : LegacyHandler A R)
    (context' : CallContext) (request : Request A) : Prop where
  writes : ((h.run request context).operations .fresh).filter (·.isWrite) =
    ((h'.run request context').operations .fresh).filter (·.isWrite)
  headers : ∀ name, lastHeader? name ((h.run request context).operations .fresh) =
    lastHeader? name ((h'.run request context').operations .fresh)
  ending : (h.run request context).ending .fresh = (h'.run request context').ending .fresh

variable {h h' : LegacyHandler A R} {context context' : CallContext}

theorem Alike.conclude_eq {request : Request A} (ha : Alike h context h' context' request) :
    (Strategy.legacy h context).conclude request =
      (Strategy.legacy h' context').conclude request := by
  rw [Strategy.conclude, Strategy.conclude, ha.ending,
    Response.run_eq_of_same_writes .fresh ha.writes ha.headers]

theorem reply_of_alike {call : InboundCall} (d d' : Dispatcher ε)
    (ha : ∀ request, call.request A = .ok request → Alike h context h' context' request) :
    Net.Server.reply (d.add call.endpoint ⟨A, R, .legacy h context⟩).1 (.call call) =
      Net.Server.reply (d'.add call.endpoint ⟨A, R, .legacy h' context'⟩).1 (.call call) := by
  simp only [Net.Server.reply, Dispatcher.result_handle_add]
  cases hq : call.request A with
  | error e => rfl
  | ok request => simp only [(ha request hq).conclude_eq]

end LegacyHandler

/-- Headers have the values that were given last, under names in the order of their bytes. So
they are the same bytes if and only if they have the same values, alone (if a length can count
them) and in any message, and a caller does not see in which order a handler has written its
headers or what it has overwritten. -/
theorem Headers.one_representation :
    (∀ m f, Built m f → (∀ name, m.get? name = f name) ∧
      m.keys.Pairwise fun a b => Utf8.bytes a < Utf8.bytes b) ∧
    (∀ format bs rest (m : Headers), Schema.headers.decode format bs = .ok (m, rest) →
      m.ReadFrom format bs) ∧
    (∀ received c, Net.RequestMessage.receive received = .ok (some (.call c)) →
      ∃ bs, bs <:+: received ∧ c.transport.headers.ReadFrom .compact bs) ∧
    (∀ received w, Net.ReplyMessage.receive received = .ok (some (.call w)) →
      ∃ bs, bs <:+: received ∧ w.headers.ReadFrom .compact bs) ∧
    (∀ m n f g, Built m f → Built n g →
      ((∀ name, f name = g name) → encodeAs .headers m = encodeAs .headers n ∧
        ∀ k : Net.Carrier, k.frame m = k.frame n) ∧
      ((encodeAs .headers m).length < Wire.lengthLimit →
        encodeAs .headers m = encodeAs .headers n → ∀ name, f name = g name) ∧
      ∀ (k : Net.Carrier) sent, k.frame m = .ok sent → k.frame n = .ok sent →
        ∀ name, f name = g name) ∧
    ∀ (A : ArgsShape) (R : ResultShape ε) (h h' : LegacyHandler A R) context context'
      (call : InboundCall) (d d' : Dispatcher ε),
      (∀ request, call.request A = .ok request → h.Alike context h' context' request) →
      let served := (d.add call.endpoint ⟨A, R, .legacy h context⟩).1
      let served' := (d'.add call.endpoint ⟨A, R, .legacy h' context'⟩).1
      (Net.Server.reply served (.call call)).frame =
          (Net.Server.reply served' (.call call)).frame ∧
        ∀ received, Net.RequestMessage.receive received = .ok (some (.call call)) →
          Net.Server.respond served received = Net.Server.respond served' received := by
  refine ⟨fun m f h => ⟨h.get?_eq, m.keys_ascending_bytes⟩, fun _ _ _ _ => readFrom_of_decode,
    fun _ _ => readFrom_request, fun _ _ => readFrom_reply,
    fun m n f g hm hn => ⟨fun h => ?same, fun hl h => ?bytes, fun k sent hk hk' => ?frames⟩,
    fun A R h h' context context' call d d' ha => ?handlers⟩
  case same =>
    obtain rfl := (hm.eq_iff hn).2 h
    exact ⟨rfl, fun _ => rfl⟩
  case bytes =>
    have hl' : (encodeAs .headers n).length < Wire.lengthLimit := by rwa [h] at hl
    exact (hm.eq_iff hn).1 (eq_of_encodeAs_eq (fits_of_length hl) (fits_of_length hl') h)
  case frames => exact (hm.eq_iff hn).1 (k.eq_of_frame_eq hk hk')
  case handlers =>
    have hreply := LegacyHandler.reply_of_alike d d' ha
    refine ⟨congrArg Net.ReplyMessage.frame hreply, fun received hc => ?_⟩
    simp only [Net.Server.respond, hc, hreply]

theorem Headers.one_representation_unsorted :
    let listed : Schema := .list (.pair .text .text)
    let entries : listed.Val := [("b", "1"), ("a", "2"), ("b", "3")]
    let bs := encodeAs listed entries
    let A := Sample.unitArgs "find_args"
    let R := Sample.lookupResult
    let n : Headers :=
      (((Response.fresh : Response R).writeHeader "b" "3").writeHeader "a" "2").headers
    let h : LegacyHandler A R := ⟨"find", fun _ _ => .header "b" "1" <| .header "a" "2" <|
      .result (some 3) fun _ => .header "b" "3" <| .done (.ok none)⟩
    let h' : LegacyHandler A R := ⟨"find", fun _ _ => .result (some 3) fun _ =>
      .header "b" "3" <| .header "a" "0" <| .header "a" "2" <| .done (.ok none)⟩
    let context : CallContext := ⟨"files", "find"⟩
    let d (h : LegacyHandler A R) : Dispatcher Sample.Thrown :=
      ((Dispatcher.empty .legacy).add "find" ⟨A, R, .legacy h context⟩).1
    let q : Net.RequestMessage := .call (.of "find" .empty A () default)
    ∃ m f, Schema.headers.decode .fixed bs = .ok (m, []) ∧ Built m f ∧ f "b" = some "3" ∧
      (∀ k : Net.Carrier, k.frame m = k.frame n) ∧
      ∃ sent, q.frame = .ok sent ∧
        Net.Server.respond (d h) sent = Net.Server.respond (d h') sent := by
  intro listed entries bs A R n h h' context d q
  let m : Headers := (SortedMap.empty.insert "a" "2").insert "b" "3"
  have hfits : listed.Fits entries := by
    have ht : ∀ e ∈ entries, (Utf8.bytes e.1).length < Wire.lengthLimit ∧
        (Utf8.bytes e.2).length < Wire.lengthLimit := by decide
    exact ⟨by decide, ht⟩
  have hl : listed.decode .fixed bs = .ok (entries, []) := by
    have hread := listed.reads_encode .fixed entries hfits []
    rwa [List.append_nil] at hread
  have hm : Schema.headers.decode .fixed bs = .ok (m, []) := by
    have hsorted : SortedMap.ofList entries = m := SortedMap.ext_entries (by decide)
    rw [Schema.decode_map, hl, ← hsorted]
    rfl
  have hbm : Built m fun name => lastValue? name entries := .decoded hm hl
  have hbn : Built n (Function.update (Function.update (fun _ => none) "b" (some "3")) "a"
      (some "2")) := .written "a" "2" (.written "b" "3" .empty)
  obtain ⟨-, -, -, -, hsame, hhandlers⟩ := @one_representation Sample.Thrown _
  obtain ⟨hforth, hback, -⟩ := hsame _ _ _ _ hbm hbn
  have hvalues := hback (by decide) (by decide)
  have halike : ∀ request : Request A, h.Alike context h' context request := fun request =>
    { writes := rfl
      headers := fun name => by
        by_cases ha : "a" = name
        · subst ha
          rfl
        · by_cases hb : "b" = name
          · subst hb
            rfl
          · simp [h, h', lastHeader?, Act.operations, Operation.headerValue?, ha, hb]
      ending := rfl }
  obtain ⟨sent, hsent⟩ := Net.RequestMessage.exists_frame (m := q) (by decide +kernel)
  have hc := Net.RequestMessage.receive_frame hsent
  have hresponse := (hhandlers A R h h' context context _ (.empty .legacy) (.empty .legacy)
    fun request _ => halike request).2 sent hc
  exact ⟨m, _, hm, hbm, by decide, (hforth hvalues).2, sent, hsent, hresponse⟩

end ServiceBinding
