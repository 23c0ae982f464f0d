import ServiceBinding.Config
import ServiceBinding.Dispatcher
import ServiceBinding.Net.Message

/-!
# The server

A server listens on an address that no other listener has. A connection carries one request
and at most one reply. A call that fails is answered by a fault with the error's text; bytes
that are no request are not answered.
-/

namespace ServiceBinding.Net.Server

inductive ListenError
  | addressInUse
  deriving DecidableEq, Repr

/-- Two listeners on one port need different hosts, neither of which is every host. -/
def conflict (a b : ServerConfig) : Bool :=
  a.port = b.port &&
    (a.host = b.host || a.host = .unspecified || b.host = .unspecified)

def listen (taken : List ServerConfig) (address : ServerConfig) : Except ListenError Unit :=
  if taken.any (conflict address) then .error .addressInUse else .ok ()

variable {ε : Type} [Throwable ε]

def reply (d : Dispatcher ε) : RequestMessage → ReplyMessage
  | .ping => .ping
  | .call c =>
    match (d.handle c).result with
    | .ok w => .call w
    | .error e => .fault e.message

def respond (d : Dispatcher ε) (received : List UInt8) : List UInt8 :=
  match RequestMessage.receive received with
  | .ok (some m) =>
    match (reply d m).frame with
    | .ok bs => bs
    | .error _ => []
  | _ => []

end ServiceBinding.Net.Server
