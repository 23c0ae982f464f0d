/-!
# TOML values

A value as a document denotes it; fractions and dates keep their spelling. A table is written
in braces, named by a header, implicit on the way to one that a header names, or on the way to
the last part of a dotted key. This decides whether a later line may add to it.
-/

namespace ServiceBinding.Toml

inductive TableKind
  | braced
  | headed
  | implicit
  | dotted
  deriving DecidableEq, Repr

inductive Value
  | text (s : String)
  | integer (i : Int)
  | fraction (spelling : String)
  | boolean (b : Bool)
  | date (spelling : String)
  | array (values : List Value)
  | table (kind : TableKind) (entries : List (String × Value))
  | tables (tables : List (List (String × Value)))

abbrev Entries := List (String × Value)

def setEntry (key : String) (v : Value) : Entries → Entries
  | [] => [(key, v)]
  | (k, w) :: rest => if k = key then (key, v) :: rest else (k, w) :: setEntry key v rest

def addEntry (key : String) (v : Value) (es : Entries) : Option Entries :=
  if (es.lookup key).isSome then none else some (es ++ [(key, v)])

/-- Adds an entry under a dotted key. Tables on the way are created; one that exists must
not have a header, and the last of them must come from a dotted key itself. -/
def addDotted (key : String) (v : Value) (own : Bool) :
    List String → Entries → Option Entries
  | [], es => if own then addEntry key v es else none
  | k :: path, es =>
    match es.lookup k with
    | none => do
      let inner ← addDotted key v true path []
      some (es ++ [(k, .table .dotted inner)])
    | some (.table .dotted inner) => do
      let inner ← addDotted key v true path inner
      some (setEntry k (.table .dotted inner) es)
    | some (.table .implicit inner) => do
      let inner ← addDotted key v false path inner
      some (setEntry k (.table .implicit inner) es)
    | some (.tables ts) =>
      match ts.reverse with
      | [] => none
      | last :: earlier => do
        let last ← addDotted key v false path last
        some (setEntry k (.tables (last :: earlier).reverse) es)
    | some _ => none

def changeUnder (change : Entries → Option Entries) :
    List String → Entries → Option Entries
  | [], es => change es
  | k :: path, es =>
    match es.lookup k with
    | none => do
      let inner ← changeUnder change path []
      some (es ++ [(k, .table .implicit inner)])
    | some (.table .braced _) => none
    | some (.table kind inner) => do
      let inner ← changeUnder change path inner
      some (setEntry k (.table kind inner) es)
    | some (.tables ts) =>
      match ts.reverse with
      | [] => none
      | last :: earlier => do
        let last ← changeUnder change path last
        some (setEntry k (.tables (last :: earlier).reverse) es)
    | some _ => none

end ServiceBinding.Toml
