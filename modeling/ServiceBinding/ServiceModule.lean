/-!
# Service modules

A service as its interface declares it: a path, whose last segment names the service, and
its methods in order. The first declaration of a name counts.
-/

namespace ServiceBinding

structure MethodSpec where
  name : String
  args : String
  result? : Option String
  deriving DecidableEq, Repr

def MethodSpec.isOneway (m : MethodSpec) : Bool := m.result?.isNone

structure ServiceModule where
  path : String
  methods : List MethodSpec
  deriving DecidableEq, Repr

namespace ServiceModule

/-- What stands before the first double colon of a reversed path. -/
def lastSegment : List Char → List Char
  | ':' :: ':' :: _ => []
  | c :: rest => c :: lastSegment rest
  | [] => []

def serviceName (m : ServiceModule) : String :=
  String.ofList (lastSegment m.path.toList.reverse).reverse

def method? (m : ServiceModule) (name : String) : Option MethodSpec :=
  m.methods.find? (·.name = name)

end ServiceModule

end ServiceBinding
