import ServiceBinding.Duration
import ServiceBinding.Shape

/-!
# Calls and their answers on the wire

An inbound call carries its headers and arguments as bytes; a handler sees them decoded, as
a request. A wire response is a finished call. Both have a schema of their own, so that they
can be sent inside a message.
-/

namespace ServiceBinding

open Wire (Schema)

structure TransportHeaders where
  headers : Headers
  ttlMillis : UInt64
  deriving DecidableEq

instance : Inhabited TransportHeaders := ⟨⟨.empty, 0⟩⟩

structure TransportMetadata where
  headers : Headers
  ttl : Duration

def TransportHeaders.metadata (t : TransportHeaders) : TransportMetadata :=
  ⟨t.headers, .ofMillis t.ttlMillis⟩

structure InboundCall where
  endpoint : String
  headers : List UInt8
  body : List UInt8
  transport : TransportHeaders
  deriving DecidableEq

structure Request (A : ArgsShape) where
  headers : Headers
  args : A.Val
  transport : TransportMetadata

namespace InboundCall

def of (endpoint : String) (headers : Headers) (A : ArgsShape) (args : A.Val)
    (transport : TransportHeaders) : InboundCall :=
  ⟨endpoint, encodeAs .headers headers, encodeAs A.schema args, transport⟩

def decodeHeaders (c : InboundCall) : Except CodecError Headers := decodeAs .headers c.headers

def decodeArgs (c : InboundCall) (A : ArgsShape) : Except CodecError A.Val :=
  decodeAs A.schema c.body

/-- The headers are read first, so their error wins. -/
def request (c : InboundCall) (A : ArgsShape) : Except CodecError (Request A) :=
  match c.decodeHeaders with
  | .error e => .error e
  | .ok headers =>
    match c.decodeArgs A with
    | .error e => .error e
    | .ok args => .ok ⟨headers, args, c.transport.metadata⟩

end InboundCall

structure WireResponse where
  code : StatusCode
  headers : Headers
  body : List UInt8
  deriving DecidableEq

def WireResponse.decodeBody {ε : Type} (w : WireResponse) (R : ResultShape ε) :
    Except CodecError R.Container :=
  decodeAs R.schema w.body

@[reducible] def StatusCode.schema : Schema :=
  .choice "StatusCode" (.ofList [("Ok", .unit), ("Error", .unit)])

def StatusCode.toVal : StatusCode → StatusCode.schema.Val
  | ok => .inl ()
  | error => .inr (.inl ())

def StatusCode.ofVal : StatusCode.schema.Val → StatusCode
  | .inl () => ok
  | .inr (.inl ()) => error

@[reducible] def Convention.schema : Schema :=
  .choice "CallingConvention" (.ofList [("legacy", .unit), ("modern", .unit)])

@[reducible] def TransportHeaders.schema : Schema :=
  .record "TransportHeaders" (.ofList [("headers", .headers), ("ttl_ms", .u64)])

def TransportHeaders.toVal (t : TransportHeaders) : TransportHeaders.schema.Val :=
  (t.headers, t.ttlMillis, ())

def TransportHeaders.ofVal : TransportHeaders.schema.Val → TransportHeaders
  | (headers, ttlMillis, ()) => ⟨headers, ttlMillis⟩

@[reducible] def InboundCall.schema : Schema :=
  .record "InboundCall" (.ofList
    [("endpoint", .text), ("headers", .bytes), ("body", .bytes),
      ("transport", TransportHeaders.schema)])

def InboundCall.toVal (c : InboundCall) : InboundCall.schema.Val :=
  (c.endpoint, c.headers, c.body, c.transport.toVal, ())

def InboundCall.ofVal : InboundCall.schema.Val → InboundCall
  | (endpoint, headers, body, transport, ()) =>
    ⟨endpoint, headers, body, .ofVal transport⟩

@[reducible] def WireResponse.schema : Schema :=
  .record "WireResponse" (.ofList
    [("code", StatusCode.schema), ("headers", .headers), ("body", .bytes)])

def WireResponse.toVal (w : WireResponse) : WireResponse.schema.Val :=
  (w.code.toVal, w.headers, w.body, ())

def WireResponse.ofVal : WireResponse.schema.Val → WireResponse
  | (code, headers, body, ()) => ⟨.ofVal code, headers, body⟩

@[simp] theorem StatusCode.ofVal_toVal (c : StatusCode) : StatusCode.ofVal c.toVal = c := by
  cases c <;> rfl

@[simp] theorem InboundCall.ofVal_toVal (c : InboundCall) : InboundCall.ofVal c.toVal = c := rfl

@[simp] theorem WireResponse.ofVal_toVal (w : WireResponse) :
    WireResponse.ofVal w.toVal = w := by
  simp [ofVal, toVal]

end ServiceBinding
