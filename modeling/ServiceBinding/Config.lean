import ServiceBinding.Basic
import ServiceBinding.IpAddress
import ServiceBinding.Text.Utf8
import ServiceBinding.Toml.Document

/-!
# Configuration

The dispatcher's convention and the server's address, from a TOML document with a section for
each. Sections and fields that are left out have defaults, unknown ones are ignored. A section
can also be an array of its fields in order.
-/

namespace ServiceBinding

open Toml (Value Entries)

structure ServerConfig where
  host : IpAddress
  port : UInt16
  deriving DecidableEq

instance : Inhabited ServerConfig := ⟨⟨.unspecified, 8888⟩⟩

structure Config where
  convention : Convention
  server : ServerConfig
  deriving DecidableEq

instance : Inhabited Config := ⟨⟨default, default⟩⟩

inductive ReadError
  | missing
  | notText
  deriving DecidableEq, Repr

def ReadError.message : ReadError → String
  | missing => "No such file or directory (os error 2)"
  | notText => "stream did not contain valid UTF-8"

inductive ConfigError
  | io (error : ReadError)
  | parse
  deriving DecidableEq, Repr

def ConfigError.message : ConfigError → String
  | io e => "reading config: " ++ e.message
  | parse => "parsing config: not a valid configuration"

namespace Config

/-- A section's fields: by name from a table, by position from an array. -/
structure Section where
  field? : String → Nat → Option Value

def Section.ofTable (es : Entries) : Section := ⟨fun name _ => es.lookup name⟩

def section? : Value → Option Section
  | .table _ es => some (.ofTable es)
  | .array vs => some ⟨fun _ i => vs[i]?⟩
  | .tables ts => some ⟨fun _ i => ts[i]?.map (.table .headed)⟩
  | .date _ => some ⟨fun _ _ => none⟩
  | _ => none

def isEmptyValue : Value → Bool
  | .table _ [] => true
  | .array [] => true
  | _ => false

def conventionNamed? : String → Option Convention
  | "legacy" => some .legacy
  | "modern" => some .modern
  | _ => none

def convention? : Value → Option Convention
  | .text s => conventionNamed? s
  | .table _ [(k, v)] => if isEmptyValue v then conventionNamed? k else none
  | _ => none

def host? : Value → Option IpAddress
  | .text s => IpAddress.parse s
  | _ => none

def port? : Value → Option UInt16
  | .integer i => if 0 ≤ i ∧ i < 0x10000 then some (UInt16.ofInt i) else none
  | _ => none

def Section.get {α : Type} (s : Section) (name : String) (position : Nat)
    (read? : Value → Option α) (default : α) : Option α :=
  match s.field? name position with
  | none => some default
  | some v => read? v

def dispatcherSection? (v : Value) : Option Convention := do
  (← section? v).get "convention" 0 convention? default

def serverSection? (v : Value) : Option ServerConfig := do
  let s ← section? v
  let host ← s.get "host" 0 host? (default : ServerConfig).host
  let port ← s.get "port" 1 port? (default : ServerConfig).port
  return ⟨host, port⟩

def ofTable? (es : Entries) : Option Config := do
  let root := Section.ofTable es
  let convention ← root.get "dispatcher" 0 dispatcherSection? default
  let server ← root.get "server" 1 serverSection? default
  return ⟨convention, server⟩

def ofToml (text : String) : Except ConfigError Config :=
  match (Toml.parse text).bind ofTable? with
  | some c => .ok c
  | none => .error .parse

def load (file? : Option (List UInt8)) : Except ConfigError Config :=
  match file? with
  | none => .error (.io .missing)
  | some bs =>
    match Utf8.text bs with
    | .error _ => .error (.io .notText)
    | .ok text => ofToml text

end Config

end ServiceBinding
