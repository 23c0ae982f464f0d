import ServiceBinding.Sample.Thrown
import ServiceBinding.Shape.Union
import ServiceBinding.Text.Uppercase

/-!
# Sample shapes

The argument and result containers of the sample interface, from a method with one text to
one with every kind of value. Some result tables are unusual on purpose: families that
overlap, gaps, repeated positions of the success field, predicates wider than their field.
-/

namespace ServiceBinding.Sample

open Wire (Schema)

namespace Thrown

def isNotFound : Thrown → Bool
  | notFound _ => true
  | _ => false

def isUnavailable : Thrown → Bool
  | unavailable _ => true
  | _ => false

def isTimeout : Thrown → Bool
  | timeout _ => true
  | _ => false

def isNetwork : Thrown → Bool
  | timeout _ | refused | reset _ => true
  | _ => false

def isStrict : Thrown → Bool
  | notFound _ | boom _ => true
  | _ => false

def isResponse : Thrown → Bool
  | response _ => true
  | _ => false

def isCodec : Thrown → Bool
  | codec _ => true
  | _ => false

end Thrown

namespace Types

def notFound : ExceptionType Thrown := ⟨"NotFound", Thrown.isNotFound⟩
def unavailable : ExceptionType Thrown := ⟨"Unavailable", Thrown.isUnavailable⟩
def timeout : ExceptionType Thrown := ⟨"Timeout", Thrown.isTimeout⟩
def network : ExceptionType Thrown := ⟨"Network", Thrown.isNetwork⟩
def strict : ExceptionType Thrown := ⟨"Strict", Thrown.isStrict⟩
def response : ExceptionType Thrown := ⟨"ResponseError", Thrown.isResponse⟩
def codec : ExceptionType Thrown := ⟨"CodecError", Thrown.isCodec⟩

end Types

namespace Fields

@[reducible] def notFound (id : Int) (name : String) : ExceptionField Thrown where
  id? := some id
  name := name
  schema := .record "NotFound" (.ofList [("key", .text)])
  store := fun
    | .notFound key => some (key, ())
    | _ => none

@[reducible] def unavailable (id? : Option Int) (name : String) : ExceptionField Thrown where
  id? := id?
  name := name
  schema := .record "Unavailable" (.ofList [("retry_after_ms", .i64)])
  store := fun
    | .unavailable ms => some (ms, ())
    | _ => none

@[reducible] def timeout (id : Int) (name : String) : ExceptionField Thrown where
  id? := some id
  name := name
  schema := .record "Timeout" (.ofList [("after_ms", .u32)])
  store := fun
    | .timeout ms => some (ms, ())
    | _ => none

@[reducible] def text (id : Int) (name : String) : ExceptionField Thrown where
  id? := some id
  name := name
  schema := .text
  store := fun e => some e.message

end Fields

/-- A method's containers, and the value that follows from its arguments. -/
structure Shape where
  args : ArgsShape
  result : ResultShape Thrown
  derive : args.Val → result.Success

def successSlot : Option (FieldSpec Thrown) := some (.success "success")

def slot (id : Int) (name : String) (type : ExceptionType Thrown) :
    Option (FieldSpec Thrown) :=
  some (.exception id name type)

@[reducible] def unitArgs (name : String) : ArgsShape := ⟨name, .unit⟩

@[reducible] def helloArgs : ArgsShape :=
  ⟨"hello_args", .record "HelloArgs" (.ofList [("name", .text)])⟩

@[reducible] def helloResult : ResultShape Thrown :=
  .valued "hello_result" "HelloResult" "success" .text [] [successSlot] id

def hello : Shape := ⟨helloArgs, helloResult, fun a => "Hello, " ++ a.1⟩

@[reducible] def lookupArgs : ArgsShape :=
  ⟨"lookup_args", .record "LookupArgs" (.ofList [("key", .text)])⟩

@[reducible] def lookupResult : ResultShape Thrown :=
  .valued "lookup_result" "LookupResult" "success" .i64
    [Fields.notFound 1 "not_found", Fields.unavailable (some 2) "unavailable"]
    [successSlot, slot 1 "not_found" Types.notFound, slot 2 "unavailable" Types.unavailable]
    id

def lookup : Shape := ⟨lookupArgs, lookupResult, fun a => Int64.ofNat (String.utf8ByteSize a.1)⟩

@[reducible] def pingResult : ResultShape Thrown :=
  .void "ping_result" "PingResult" [] [none] id

def ping : Shape := ⟨unitArgs "ping_args", pingResult, fun _ => ()⟩

@[reducible] def connectArgs : ArgsShape :=
  ⟨"connect_args", .record "ConnectArgs" (.ofList [("host", .text), ("port", .u16)])⟩

@[reducible] def connectResult : ResultShape Thrown :=
  .void "connect_result" "ConnectResult"
    [Fields.timeout 1 "timeout", Fields.text 3 "network"]
    [none, slot 1 "timeout" Types.timeout, none, slot 3 "network" Types.network]
    id

def connect : Shape := ⟨connectArgs, connectResult, fun _ => ()⟩

@[reducible] def raceArgs : ArgsShape :=
  ⟨"race_args", .record "RaceArgs" (.ofList [("n", .i16)])⟩

@[reducible] def raceResult : ResultShape Thrown :=
  .valued "race_result" "RaceResult" "success" .bool
    [Fields.text 5 "any", Fields.timeout 2 "timeout", Fields.notFound (-1) "again"]
    [successSlot, slot 5 "any" Types.network, slot 2 "timeout" Types.timeout, none, none,
      slot (-1) "again" Types.notFound]
    id

def race : Shape := ⟨raceArgs, raceResult, fun a => decide (0 < Int16.toInt a.1)⟩

@[reducible] def pickyArgs : ArgsShape :=
  ⟨"picky_args", .record "PickyArgs" (.ofList [("id", .u32)])⟩

@[reducible] def pickyResult : ResultShape Thrown :=
  .valued "picky_result" "PickyResult" "success" .u32
    [Fields.notFound 1 "strict", Fields.unavailable none "unavailable"]
    [successSlot, slot 1 "strict" Types.strict, slot 2 "unavailable" Types.unavailable]
    fun e => .boom ("no room for: " ++ e.message)

def picky : Shape := ⟨pickyArgs, pickyResult, fun a => a.1⟩

@[reducible] def bareArgs : ArgsShape := ⟨"bare_args", .text⟩

@[reducible] def bareResult : ResultShape Thrown :=
  .valued "bare_result" "BareResult" "text" .text [] [] id

def bare : Shape := ⟨bareArgs, bareResult, id⟩

@[reducible] def oddArgs : ArgsShape :=
  ⟨"odd_args", .record "OddArgs" (.ofList [("pair", .pair .u8 .i32)])⟩

@[reducible] def oddResult : ResultShape Thrown :=
  .valued "odd_result" "OddResult" "success" (.pair .u8 .i32)
    [Fields.notFound 7 "zero", Fields.unavailable (some (-3)) "neg"]
    [slot 7 "zero" Types.notFound, some (.success "late"), slot (-3) "neg" Types.unavailable]
    id

def odd : Shape := ⟨oddArgs, oddResult, fun a => a.1⟩

@[reducible] def metaArgs : ArgsShape :=
  ⟨"meta_args", .record "MetaArgs" (.ofList [("text", .text)])⟩

@[reducible] def metaResult : ResultShape Thrown :=
  .valued "meta_result" "MetaResult" "success" .text
    [Fields.text 1 "misuse", Fields.text 2 "codec"]
    [successSlot, slot 1 "misuse" Types.response, slot 2 "codec" Types.codec]
    id

def misuse : Shape := ⟨metaArgs, metaResult, fun a => a.1⟩

@[reducible] def vmetaResult : ResultShape Thrown :=
  .void "vmeta_result" "VmetaResult" [Fields.text 1 "misuse"]
    [none, slot 1 "misuse" Types.response] id

def vmeta : Shape := ⟨unitArgs "ping_args", vmetaResult, fun _ => ()⟩

@[reducible] def color : Schema :=
  .choice "Color" (.ofList
    [("Red", .unit), ("Green", .u8), ("Blue", .record "Blue" (.ofList [("v", .i16)])),
      ("Pair", .pair .i32 .bool)])

@[reducible] def richArgs : ArgsShape :=
  ⟨"rich_args", .record "RichArgs" (.ofList
    [("flag", .bool), ("n8", .i8), ("n16", .i16), ("n32", .i32), ("n64", .i64), ("u64", .u64),
      ("dbl", .binary64), ("ch", .char), ("text", .text), ("data", .bytes),
      ("list", .list .i32), ("map", .map .i64), ("opt", .option .text), ("color", color)])⟩

@[reducible] def richResult : ResultShape Thrown :=
  .valued "rich_result" "RichResult" "success" richArgs.schema
    [Fields.notFound 1 "not_found"] [successSlot, slot 1 "not_found" Types.notFound] id

def rich : Shape := ⟨richArgs, richResult, id⟩

@[reducible] def treeArgs : ArgsShape := ⟨"tree_args", .tree "TreeArgs" "v" .i32 "kids"⟩

@[reducible] def treeResult : ResultShape Thrown :=
  .valued "tree_result" "TreeResult" "success" treeArgs.schema [] [successSlot] id

def tree : Shape := ⟨treeArgs, treeResult, id⟩

def mixed : Shape := ⟨helloArgs, lookupResult, fun a => Int64.ofNat (String.length a.1)⟩

def mixed2 : Shape := ⟨lookupArgs, helloResult, fun a => Text.uppercase a.1⟩

def shapes : List (String × Shape) :=
  [("hello", hello), ("lookup", lookup), ("ping", ping), ("connect", connect),
    ("race", race), ("picky", picky), ("bare", bare), ("odd", odd), ("meta", misuse),
    ("vmeta", vmeta), ("rich", rich), ("tree", tree), ("mixed", mixed), ("mixed2", mixed2)]

end ServiceBinding.Sample
