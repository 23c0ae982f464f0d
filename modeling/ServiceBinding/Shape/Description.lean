import ServiceBinding.Call
import ServiceBinding.Response
import ServiceBinding.Wire.Description

/-!
# Field specifications and responses as text for a reader
-/

namespace ServiceBinding

open Wire (braced)

variable {ε : Type}

def ExceptionType.describe (t : ExceptionType ε) : String :=
  "ExceptionType(" ++ Text.quoted t.name ++ ")"

def FieldSpec.describe (f : FieldSpec ε) : String :=
  braced "FieldSpec"
    [("id", toString f.id), ("name", Text.quoted f.name),
      ("exception",
        match f.exception? with
        | none => "None"
        | some t => "Some(" ++ t.describe ++ ")")]

def Response.describe {R : ResultShape ε} (r : Response R) : String :=
  braced "ThriftResponse"
    [("headers", Wire.Schema.headers.describe r.headers),
      ("result", R.schema.describe r.result),
      ("finished", if r.finished then "true" else "false"),
      ("code", StatusCode.schema.describe r.code.toVal)]

end ServiceBinding
