import ServiceBinding.Text.Binary64
import ServiceBinding.Text.Quoted
import ServiceBinding.Wire.Schema

/-!
# Values as text for a reader

A value with the names of its schema: records with their fields, choices with their
alternative, texts in quotes.
-/

namespace ServiceBinding.Wire

open Text (quoted quotedChar)

def separated (parts : List String) : String := ", ".intercalate parts

def braced (name : String) (fields : List (String × String)) : String :=
  if fields.isEmpty then name
  else
    name ++ " \x7b " ++ separated (fields.map fun f => f.1 ++ ": " ++ f.2) ++ " \x7d"

def entriesText (entries : List (String × String)) : String :=
  "\x7b" ++ separated (entries.map fun e => quoted e.1 ++ ": " ++ e.2) ++ "\x7d"

mutual

def RoseTree.describe {α : Type} (name labelName kidsName : String) (label : α → String) :
    RoseTree α → String
  | .node a kids =>
    braced name
      [(labelName, label a),
        (kidsName, "[" ++ separated (describeAll name labelName kidsName label kids) ++ "]")]

def RoseTree.describeAll {α : Type} (name labelName kidsName : String) (label : α → String) :
    List (RoseTree α) → List String
  | [] => []
  | t :: rest =>
    t.describe name labelName kidsName label :: describeAll name labelName kidsName label rest

end

/-- An alternative beside its payload: nothing, a record of the same name, a pair or another
value in parentheses. -/
def alternativeText (name : String) (payload : Schema) (text : String) : String :=
  match payload with
  | .unit => name
  | .record _ _ => text
  | .pair _ _ => name ++ text
  | _ => name ++ "(" ++ text ++ ")"

mutual

def Schema.describe : (s : Schema) → s.Val → String
  | .unit, _ => "()"
  | .bool, b => if b then "true" else "false"
  | .word w, x => toString (w.number x)
  | .binary64, x => Binary64.text x
  | .char, c => quotedChar c
  | .text, t => quoted t
  | .option _, none => "None"
  | .option s, some x => "Some(" ++ s.describe x ++ ")"
  | .list s, xs => "[" ++ separated (List.map s.describe xs) ++ "]"
  | .map s, m =>
    entriesText ((SortedMap.entries m).map fun e => (e.1, s.describe e.2))
  | .pair s t, x => "(" ++ s.describe x.1 ++ ", " ++ t.describe x.2 ++ ")"
  | .record name ms, x => braced name (ms.describeAll x)
  | .choice _ ms, x => ms.describeOne x
  | .tree name labelName s kidsName, t =>
    RoseTree.describe name labelName kidsName s.describe t

def Members.describeAll : (ms : Members) → ms.All → List (String × String)
  | .nil, _ => []
  | .cons name s rest, x => (name, s.describe x.1) :: rest.describeAll x.2

def Members.describeOne : (ms : Members) → ms.One → String
  | .cons name s _, .inl x => alternativeText name s (s.describe x)
  | .cons _ _ rest, .inr x => rest.describeOne x

end

end ServiceBinding.Wire
