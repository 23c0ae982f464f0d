import ServiceBinding.Net.Message

/-!
# The client

A client opens a connection for each request, sends one frame and reads one. What the other
end does is a function from the bytes that it receives to those that it sends.
-/

namespace ServiceBinding.Net

variable {ε : Type}

inductive ConnectError
  | refused
  | unreachable
  deriving DecidableEq, Repr

def ConnectError.message : ConnectError → String
  | refused => "Connection refused (os error 111)"
  | unreachable => "Network is unreachable (os error 101)"

inductive ClientError (ε : Type)
  | io (error : ConnectError)
  | framing (error : FrameError)
  | noResponse
  | unexpected (what : String)
  | fault (text : String)
  | dispatch (error : DispatchError ε)

def ClientError.message [Throwable ε] : ClientError ε → String
  | io e => "I/O error: " ++ e.message
  | framing e => "framing: " ++ e.message
  | noResponse => "no response from server"
  | unexpected what => "unexpected response: " ++ what
  | fault text => "server fault: " ++ text
  | dispatch e => e.message

abbrev Peer := Except ConnectError (List UInt8 → List UInt8)

structure CallResponse (R : ResultShape ε) where
  code : StatusCode
  headers : Headers
  result : R.Container

namespace Client

def exchange (peer : Peer) (m : RequestMessage) : Except (ClientError ε) ReplyMessage :=
  match peer with
  | .error e => .error (.io e)
  | .ok answer =>
    match m.frame with
    | .error e => .error (.framing e)
    | .ok sent =>
      match ReplyMessage.receive (answer sent) with
      | .error e => .error (.framing e)
      | .ok none => .error .noResponse
      | .ok (some r) => .ok r

def ping (peer : Peer) : Except (ClientError ε) Unit :=
  match exchange peer .ping with
  | .error e => .error e
  | .ok .ping => .ok ()
  | .ok (.fault text) => .error (.fault text)
  | .ok (.call _) => .error (.unexpected "call response to ping")

/-- The call that a client sends: no transport headers, and its patience in whole
milliseconds. -/
def outgoing (endpoint : String) (headers : Headers) (A : ArgsShape) (args : A.Val)
    (ttl : Duration) : InboundCall :=
  .of endpoint headers A args ⟨.empty, ttl.toMillis⟩

def call (peer : Peer) (endpoint : String) (headers : Headers) (A : ArgsShape) (args : A.Val)
    (ttl : Duration) (R : ResultShape ε) : Except (ClientError ε) (CallResponse R) :=
  match exchange peer (.call (outgoing endpoint headers A args ttl)) with
  | .error e => .error e
  | .ok .ping => .error (.unexpected "ping response to call")
  | .ok (.fault text) => .error (.fault text)
  | .ok (.call w) =>
    match w.decodeBody R with
    | .error e => .error (.dispatch (.codec e))
    | .ok result => .ok ⟨w.code, w.headers, result⟩

end Client

end ServiceBinding.Net
