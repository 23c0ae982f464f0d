import ServiceBinding.Call
import ServiceBinding.Net.Frame

/-!
# Messages between client and server

A request asks for a sign of life or for a call; a reply gives the one, the other's response,
or the text of a fault.
-/

namespace ServiceBinding.Net

open Wire (Schema)

inductive RequestMessage
  | ping
  | call (call : InboundCall)
  deriving DecidableEq

inductive ReplyMessage
  | ping
  | call (response : WireResponse)
  | fault (text : String)
  deriving DecidableEq

namespace RequestMessage

@[reducible] def schema : Schema :=
  .choice "Request" (.ofList [("Ping", .unit), ("Call", InboundCall.schema)])

def toVal : RequestMessage → schema.Val
  | ping => .inl ()
  | call c => .inr (.inl c.toVal)

def ofVal : schema.Val → RequestMessage
  | .inl () => ping
  | .inr (.inl c) => call (.ofVal c)

def frame (m : RequestMessage) : Except FrameError (List UInt8) := Frame.encode schema m.toVal

def receive (bs : List UInt8) : Except FrameError (Option RequestMessage) :=
  (Frame.decode schema bs).map (·.map ofVal)

@[simp] theorem ofVal_toVal (m : RequestMessage) : ofVal m.toVal = m := by
  cases m <;> simp [toVal, ofVal]

end RequestMessage

namespace ReplyMessage

@[reducible] def schema : Schema :=
  .choice "Response" (.ofList
    [("Ping", .unit), ("Call", WireResponse.schema), ("Fault", .text)])

def toVal : ReplyMessage → schema.Val
  | ping => .inl ()
  | call w => .inr (.inl w.toVal)
  | fault text => .inr (.inr (.inl text))

def ofVal : schema.Val → ReplyMessage
  | .inl () => ping
  | .inr (.inl w) => call (.ofVal w)
  | .inr (.inr (.inl text)) => fault text

def frame (m : ReplyMessage) : Except FrameError (List UInt8) := Frame.encode schema m.toVal

def receive (bs : List UInt8) : Except FrameError (Option ReplyMessage) :=
  (Frame.decode schema bs).map (·.map ofVal)

@[simp] theorem ofVal_toVal (m : ReplyMessage) : ofVal m.toVal = m := by
  cases m <;> simp [toVal, ofVal]

end ReplyMessage

end ServiceBinding.Net
