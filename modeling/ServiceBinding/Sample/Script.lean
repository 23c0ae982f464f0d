import ServiceBinding.Handler
import ServiceBinding.Sample.Shapes

/-!
# Scripted handlers

Handlers that follow a script: a legacy script acts on the response step by step, a modern
script pauses and replies. Both can derive their value from the arguments, repeat what they
were called with as headers, and raise.
-/

namespace ServiceBinding.Sample

variable {A : ArgsShape} {R : ResultShape Thrown}

inductive Produced (σ : Type)
  | nothing
  | value (v : σ)
  | derived

def Produced.get {σ : Type} (derived : σ) : Produced σ → Option σ
  | nothing => none
  | value v => some v
  | .derived => some derived

def dumped (request : Request A) : List (String × String) :=
  request.headers.entries.map (fun e => ("h:" ++ e.1, e.2)) ++
    request.transport.headers.entries.map (fun e => ("t:" ++ e.1, e.2)) ++
      [("ttl", request.transport.ttl.text)]

inductive Action (R : ResultShape Thrown)
  | header (name value : String)
  | dump
  | context
  | state (name : String)
  | write (value : Produced R.Success) (ignore : Bool)
  | throw (error : Thrown) (ignore : Bool)
  | yield (n : Nat)

def stateText (r : Response R) : String :=
  s!"finished={r.finished} code={r.code.name} headers={r.headers.size}"

def writeHeaders : List (String × String) → Act R (Except Thrown Unit)
  | [] => .done (.ok ())
  | (name, value) :: rest => .header name value (writeHeaders rest)

/-- A refused write ends the script with its error, unless it is ignored. -/
def Action.act (derived : R.Success) (request : Request A) (context : CallContext) :
    Action R → Act R (Except Thrown Unit)
  | header name value => .header name value (.done (.ok ()))
  | dump => writeHeaders (dumped request)
  | .context => writeHeaders [("service", context.service), ("endpoint", context.endpoint)]
  | state name => .inspect fun r => .header name (stateText r) (.done (.ok ()))
  | write value ignore =>
    .result (value.get derived) fun
      | .ok () => .done (.ok ())
      | .error e => .done (if ignore then .ok () else .error (.response e))
  | throw error ignore =>
    .exception error fun
      | .ok () => .done (.ok ())
      | .error e => .done (if ignore then .ok () else .error e)
  | yield n => .delay n (.done (.ok ()))

def actAll (derived : R.Success) (request : Request A) (context : CallContext) :
    List (Action R) → Act R (Except Thrown Unit)
  | [] => .done (.ok ())
  | a :: rest =>
    (a.act derived request context).bind fun
      | .ok () => actAll derived request context rest
      | .error e => .done (.error e)

structure LegacyScript (R : ResultShape Thrown) where
  actions : List (Action R)
  raise? : Option Thrown
  returned : Produced R.Success

structure ModernReply (R : ResultShape Thrown) where
  body : Produced R.Success
  headers : Headers
  status : StatusCode
  dump : Bool

inductive ModernReturn (R : ResultShape Thrown)
  | produced (value : Produced R.Success)
  | answer (reply : ModernReply R)
  | default

structure ModernScript (R : ResultShape Thrown) where
  pauses : Nat
  raise? : Option Thrown
  returned : ModernReturn R

def LegacyScript.handler (s : LegacyScript R) (name : String) (derive : A.Val → R.Success) :
    LegacyHandler A R where
  name := name
  run := fun request context =>
    (actAll (derive request.args) request context s.actions).bind fun
      | .error e => .done (.error e)
      | .ok () =>
        match s.raise? with
        | some e => .done (.error e)
        | none => .done (.ok (s.returned.get (derive request.args)))

def ModernReturn.reply (derived : R.Success) (request : Request A) :
    ModernReturn R → Reply R.Success
  | produced .nothing => .empty
  | produced (.value v) => .value v
  | produced .derived => .value derived
  | default => .answer (.plain none)
  | answer reply =>
    .answer
      { body := reply.body.get derived
        headers :=
          if reply.dump then reply.headers.insertAll (dumped request) else reply.headers
        status := reply.status }

def ModernScript.handler (s : ModernScript R) (name : String) (derive : A.Val → R.Success) :
    ModernHandler A R where
  name := name
  run := fun request =>
    ⟨s.pauses,
      match s.raise? with
      | some e => .error e
      | none => .ok (s.returned.reply (derive request.args) request)⟩

end ServiceBinding.Sample
