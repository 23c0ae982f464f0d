import ServiceBinding.Shape

/-!
# Result unions

Result shapes from a list of exception fields. Every field of the container is optional; a
fresh container has none of them set. An error is stored in the first field of its id if it
fits that field, and handed back if it does not.
-/

namespace ServiceBinding

open Wire (Schema Members)

variable {ε : Type}

structure ExceptionField (ε : Type) where
  id? : Option Int
  name : String
  schema : Schema
  store : ε → Option schema.Val

namespace ExceptionField

@[reducible] def members : List (ExceptionField ε) → Members
  | [] => .nil
  | f :: rest => .cons f.name (.option f.schema) (members rest)

def unset : (fs : List (ExceptionField ε)) → (members fs).All
  | [] => ()
  | _ :: rest => (none, unset rest)

def storeUnder (id : Int) (e : ε) :
    (fs : List (ExceptionField ε)) → (members fs).All → Option (members fs).All
  | [], _ => none
  | f :: rest, c =>
    if f.id? = some id then (f.store e).map fun v => (some v, c.2)
    else (storeUnder id e rest c.2).map fun r => (c.1, r)

def hasId (fs : List (ExceptionField ε)) (id : Int) : Bool := fs.any (·.id? = some id)

/-- Stores an error under an id; `other` is what an unknown id makes of it. -/
def assign (other : ε → ε) (fs : List (ExceptionField ε)) (c : (members fs).All) (id : Int)
    (e : ε) : (members fs).All × Except ε Unit :=
  if hasId fs id then
    match storeUnder id e fs c with
    | some c' => (c', .ok ())
    | none => (c, .error e)
  else (c, .error (other e))

end ExceptionField

namespace ResultShape

open ExceptionField

@[reducible] def valued (name typeName successName : String) (success : Schema)
    (fields : List (ExceptionField ε)) (table : List (Option (FieldSpec ε)))
    (other : ε → ε) : ResultShape ε where
  name := name
  schema := .record typeName (.cons successName (.option success) (members fields))
  success := success
  table := table
  empty := (none, unset fields)
  setSuccess := fun c v => (some v, c.2)
  setException := fun c id e =>
    match assign other fields c.2 id e with
    | (c', r) => ((c.1, c'), r)

@[reducible] def void (name typeName : String) (fields : List (ExceptionField ε))
    (table : List (Option (FieldSpec ε))) (other : ε → ε) : ResultShape ε where
  name := name
  schema := .record typeName (members fields)
  success := .unit
  table := table
  empty := unset fields
  setSuccess := fun c _ => c
  setException := assign other fields

end ResultShape

end ServiceBinding
