import ServiceBinding.Error

/-!
# Sample errors

The errors that the sample handlers raise: declared exceptions of the sample interface,
errors that no interface declares, and the library's own errors raised again.
-/

namespace ServiceBinding.Sample

inductive Thrown
  | notFound (key : String)
  | unavailable (retryAfterMillis : Int64)
  | timeout (afterMillis : UInt32)
  | refused
  | reset (text : String)
  | boom (text : String)
  | wrapped (inner : Thrown)
  | response (error : ResponseError)
  | codec (error : CodecError)
  | noSuchEndpoint (name : String)
  | io (text : String)
  | text (text : String)
  deriving DecidableEq, Inhabited

namespace Thrown

def message : Thrown → String
  | notFound key => "not found: " ++ key
  | unavailable ms => s!"unavailable, retry after {ms.toInt}ms"
  | timeout ms => s!"timeout after {ms.toNat}ms"
  | refused => "refused"
  | reset t => "reset: " ++ t
  | boom t => "boom: " ++ t
  | wrapped inner => "wrapped: " ++ inner.message
  | response e => e.message
  | codec e => e.message
  | noSuchEndpoint name => "no endpoint named " ++ name
  | io t => t
  | text t => t

def causes : Thrown → List String
  | wrapped inner => inner.message :: inner.causes
  | codec e => e.causes
  | _ => []

instance : Throwable Thrown where
  message := message
  causes := causes
  ofResponse := response
  ofCodec := codec

def kind : Thrown → String
  | notFound _ => "NotFound"
  | unavailable _ => "Unavailable"
  | timeout _ => "Timeout"
  | refused => "Refused"
  | reset _ => "Reset"
  | boom _ => "Boom"
  | wrapped _ => "Wrapped"
  | response .alreadyFinished => "AlreadyFinished"
  | response (.voidResult _) => "VoidResult"
  | codec _ => "Codec"
  | noSuchEndpoint _ => "DispatchError"
  | io _ => "Io"
  | text _ => "Other"

end Thrown

end ServiceBinding.Sample
