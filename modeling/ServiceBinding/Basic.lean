import ServiceBinding.SortedMap

/-!
# Headers, status codes, calling conventions and call contexts
-/

namespace ServiceBinding

abbrev Headers := SortedMap String

inductive StatusCode
  | ok
  | error
  deriving DecidableEq, Repr, Inhabited

def StatusCode.name : StatusCode → String
  | ok => "ok"
  | error => "error"

/-- How a dispatcher expects its handlers to answer: a legacy handler writes into a response
in place, a modern handler returns its reply. -/
inductive Convention
  | legacy
  | modern
  deriving DecidableEq, Repr

instance : Inhabited Convention := ⟨.legacy⟩

def Convention.name : Convention → String
  | legacy => "Legacy"
  | modern => "Modern"

structure CallContext where
  service : String
  endpoint : String
  deriving DecidableEq, Repr

end ServiceBinding
