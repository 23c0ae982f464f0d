import ServiceBinding.ServiceModule

/-!
# Sample service modules

The sample interface under paths of many forms, and a module with repeated, one-way and
mismatched declarations.
-/

namespace ServiceBinding.Sample

def method (name : String) : MethodSpec := ⟨name, name ++ "_args", some (name ++ "_result")⟩

def helloMethod (name : String) : MethodSpec := ⟨name, "hello_args", some "hello_result"⟩

def oneway (name args : String) : MethodSpec := ⟨name, args, none⟩

def allMethods : List MethodSpec :=
  [method "hello", method "lookup", method "ping", oneway "notify" "notify_args",
    method "connect", method "race", method "picky", method "bare", method "odd",
    method "meta", ⟨"vmeta", "ping_args", some "vmeta_result"⟩, method "rich", method "tree",
    helloMethod "greet"]

def trickyMethods : List MethodSpec :=
  [helloMethod "dup", oneway "dup" "hello_args", oneway "pud" "hello_args", helloMethod "pud",
    helloMethod "", helloMethod "Hello", helloMethod "hello ", helloMethod "a::b",
    helloMethod "grüße", ⟨"badargs", "Hello_args", some "hello_result"⟩,
    ⟨"badresult", "hello_args", some "hello_Result"⟩, ⟨"badboth", "x_args", some "x_result"⟩,
    oneway "badoneway" "x_args", ⟨"emptyshapes", "", some ""⟩,
    ⟨"mixed", "hello_args", some "lookup_result"⟩,
    ⟨"mixed2", "lookup_args", some "hello_result"⟩]

def modules : List (String × ServiceModule) :=
  [("all", ⟨"gen::hello_world::HelloWorld", allMethods⟩),
    ("tricky", ⟨"gen::Tricky", trickyMethods⟩), ("plain", ⟨"Plain", allMethods⟩),
    ("anonymous", ⟨"", allMethods⟩),
    ("trailing", ⟨"gen::svc::", allMethods⟩), ("leading", ⟨"::Lead", allMethods⟩),
    ("onlysep", ⟨"::", allMethods⟩), ("colon", ⟨"gen:Single", allMethods⟩),
    ("onecolon", ⟨":", allMethods⟩), ("triple", ⟨"gen:::Three", allMethods⟩),
    ("quad", ⟨"gen::::Four", allMethods⟩), ("tripleend", ⟨"gen:::", allMethods⟩),
    ("dotted", ⟨"gen.svc.Dotted", allMethods⟩), ("unicode", ⟨"génération::服务", allMethods⟩),
    ("spaces", ⟨"gen:: Spaced ", allMethods⟩), ("empty", ⟨"gen::Empty", []⟩)]

end ServiceBinding.Sample
