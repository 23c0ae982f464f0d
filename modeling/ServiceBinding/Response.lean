import ServiceBinding.Shape

/-!
# Responses

A response is finished by the first result or exception written into it; later writes are
refused and change nothing. Headers can be written at any time. A void method succeeds by
writing no value.
-/

namespace ServiceBinding

variable {ε : Type} {R : ResultShape ε}

structure Response (R : ResultShape ε) where
  headers : Headers
  result : R.Container
  finished : Bool
  code : StatusCode

namespace Response

def fresh : Response R := ⟨.empty, R.empty, false, .ok⟩

instance : Inhabited (Response R) := ⟨fresh⟩

def writeHeader (r : Response R) (name value : String) : Response R :=
  { r with headers := r.headers.insert name value }

def writeResult (r : Response R) (value? : Option R.Success) :
    Response R × Except ResponseError Unit :=
  if r.finished then (r, .error .alreadyFinished)
  else
    match value? with
    | none => ({ r with finished := true }, .ok ())
    | some v =>
      match R.successField with
      | none => (r, .error (.voidResult R.name))
      | some _ => ({ r with result := R.setSuccess r.result v, finished := true }, .ok ())

variable [Throwable ε]

/-- Finishes with an exception, in the first declared field that accepts the error. An error
that no field accepts is handed back, also after the response is finished. -/
def writeException (r : Response R) (e : ε) : Response R × Except ε Unit :=
  match R.selectException e with
  | none => (r, .error e)
  | some field =>
    if r.finished then (r, .error (Throwable.ofResponse .alreadyFinished))
    else
      match R.setException r.result field.id e with
      | (c, .ok ()) => ({ r with result := c, code := .error, finished := true }, .ok ())
      | (c, .error e') => ({ r with result := c }, .error e')

end Response

end ServiceBinding
