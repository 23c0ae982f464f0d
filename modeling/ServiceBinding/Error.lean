import ServiceBinding.Basic
import ServiceBinding.Wire.Decoder

/-!
# Errors

What can go wrong with a response, with the bytes of a message, with a registration and with
a call. An application's own errors are any type that embeds the first two, because those
reach its handlers as well.
-/

namespace ServiceBinding

inductive ResponseError
  | alreadyFinished
  | voidResult (result : String)
  deriving DecidableEq, Repr

def ResponseError.message : ResponseError → String
  | alreadyFinished => "already sent a response"
  | voidResult result => s!"tried to return a result for a void method ({result})"

structure CodecError where
  cause : Wire.DecodeError
  deriving DecidableEq

namespace CodecError

def message (e : CodecError) : String := "codec: " ++ e.cause.message

def causes (e : CodecError) : List String := [e.cause.message]

end CodecError

/-- The errors that handlers raise: each has a text and the texts of its causes, outermost
first. -/
class Throwable (ε : Type) where
  message : ε → String
  causes : ε → List String
  ofResponse : ResponseError → ε
  ofCodec : CodecError → ε

inductive RegisterError
  | missingService
  | missingMethod
  | unknownMethod (service method : String)
  | oneway (endpoint : String)
  | shapeMismatch (expected found : String)
  | conventionMismatch (expected found : Convention)
  deriving DecidableEq, Repr

def RegisterError.message : RegisterError → String
  | missingService => "a service name could not be determined"
  | missingMethod => "a method name could not be determined"
  | unknownMethod service method => s!"service {service} doesn't define method {method}"
  | oneway endpoint => s!"oneway methods are not supported: {endpoint}"
  | shapeMismatch expected found =>
    s!"handler shape {found} does not match declared {expected}"
  | conventionMismatch expected found =>
    s!"dispatcher expects {expected.name} handlers, got a {found.name} handler"

/-- A call without an answer. A fault is an error that no declared exception covers. -/
inductive DispatchError (ε : Type)
  | noSuchEndpoint (name : String)
  | codec (error : CodecError)
  | fault (error : ε)
  deriving DecidableEq

namespace DispatchError

variable {ε : Type} [Throwable ε]

def message : DispatchError ε → String
  | noSuchEndpoint name => s!"no endpoint named {name}"
  | codec e => e.message
  | fault e => "call failed: " ++ Throwable.message e

def causes : DispatchError ε → List String
  | noSuchEndpoint _ => []
  | codec e => e.causes
  | fault _ => []

end DispatchError

end ServiceBinding
