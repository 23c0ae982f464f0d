import ServiceBinding.Handler

/-!
# Strategies

A handler bound to the convention and the context of its endpoint. A legacy call touches the
dispatcher's response only if it succeeds; a modern call keeps the reply's own headers and
status and takes the result container alone from the response it was written into. Errors of
decoding and of refused values are never encoded as declared exceptions.
-/

namespace ServiceBinding

variable {ε : Type} {A : ArgsShape} {R : ResultShape ε}

inductive Strategy (A : ArgsShape) (R : ResultShape ε)
  | legacy (handler : LegacyHandler A R) (context : CallContext)
  | modern (handler : ModernHandler A R) (context : CallContext)

/-- How a legacy handler that raised nothing ended. A value returned after a write is
dropped. -/
inductive Ending (σ : Type)
  | written (dropped : Bool)
  | returned (v : σ)
  | nothing

def Ending.of {σ : Type} (finished : Bool) (returned? : Option σ) : Ending σ :=
  match finished, returned? with
  | true, v? => written v?.isSome
  | false, some v => returned v
  | false, none => nothing

namespace Strategy

def select (convention : Convention) (handler : Handler A R) (context : CallContext) :
    Except RegisterError (Strategy A R) :=
  match convention, handler with
  | .legacy, .legacy h => .ok (legacy h context)
  | .modern, .modern h => .ok (modern h context)
  | expected, h => .error (.conventionMismatch expected h.convention)

def convention : Strategy A R → Convention
  | legacy _ _ => .legacy
  | modern _ _ => .modern

def context : Strategy A R → CallContext
  | legacy _ c => c
  | modern _ c => c

end Strategy

variable [Throwable ε]

def Response.encodeRaised (r : Response R) (context : CallContext) (e : ε) :
    Activity (Except ε (Response R)) :=
  match r.writeException e with
  | (r', .ok ()) => .done (.ok r')
  | (_, .error e') =>
    .log (.leftUnencoded context.endpoint (Throwable.message e')) (.done (.error e'))

namespace LegacyHandler

def settle (context : CallContext) (r : Response R) :
    Except ε (Option R.Success) → Activity (Except ε (Response R))
  | .error e => r.encodeRaised context e
  | .ok returned? =>
    match Ending.of r.finished returned? with
    | .written true => .log (.valueDropped context.endpoint) (.done (.ok r))
    | .written false => .done (.ok r)
    | .returned v =>
      match r.writeResult (some v) with
      | (r', .ok ()) => .done (.ok r')
      | (_, .error e) => .done (.error (Throwable.ofResponse e))
    | .nothing => .done (.ok r)

def invoke (h : LegacyHandler A R) (context : CallContext) (call : InboundCall)
    (out : Outbound R) : Activity (Outbound R × Except ε Unit) :=
  match call.request A with
  | .error e => .done (out, .error (Throwable.ofCodec e))
  | .ok request => do
    let (ended, r) ← (h.run request context).perform .fresh
    match ← settle context r ended with
    | .error e => return (out, .error e)
    | .ok r =>
      Activity.emit (.finished .legacy context.endpoint r.code)
      return ((({ out with code := r.code }).writeHeaders r.headers).writeBody r.result, .ok ())

end LegacyHandler

namespace ModernHandler

def invoke (h : ModernHandler A R) (context : CallContext) (request : Request A) :
    Activity (Except ε (Answer R.Container)) := do
  match ← (h.run request).await with
  | .ok reply =>
    let answer := reply.toAnswer
    match Response.fresh.writeResult (R := R) answer.body with
    | (_, .error e) => return .error (Throwable.ofResponse e)
    | (r, .ok ()) =>
      Activity.emit (.finished .modern context.endpoint r.code)
      return .ok (answer.replaceBody r.result)
  | .error e =>
    match ← Response.encodeRaised .fresh context e with
    | .error e => return .error e
    | .ok r =>
      Activity.emit (.finished .modern context.endpoint r.code)
      return .ok (.plain r.result)

end ModernHandler

end ServiceBinding
