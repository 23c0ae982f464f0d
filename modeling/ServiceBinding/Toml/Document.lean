import ServiceBinding.Toml.Lexeme

/-!
# TOML documents

A document is read line by line into key-value pairs and headers, and those are put together
as one table. A key is set once, a header opens a table once, and values nest to a limited
depth.
-/

namespace ServiceBinding.Toml

/-- Keys have fewer parts, and values fewer levels, than this. -/
def depthLimit : Nat := 80

def isBareKeyChar (c : Char) : Bool :=
  ('a' ≤ c && c ≤ 'z') || ('A' ≤ c && c ≤ 'Z') || c.isDigit || c = '-' || c = '_'

def simpleKey? : List Char → Option (String × List Char)
  | '"' :: rest => asText (quotedBody rest)
  | '\'' :: rest => asText (literalBody rest)
  | cs =>
    match cs.takeWhile isBareKeyChar with
    | [] => none
    | name => some (String.ofList name, cs.drop name.length)

def keyParts? : Nat → List Char → Option (List String × List Char)
  | 0, _ => none
  | parts + 1, cs => do
    let (k, rest) ← simpleKey? (skipBlanks cs)
    match skipBlanks rest with
    | '.' :: rest =>
      let (ks, rest) ← keyParts? parts rest
      return (k :: ks, rest)
    | rest => return ([k], rest)

structure Key where
  path : List String
  last : String

def key? (cs : List Char) : Option (Key × List Char) := do
  let (ks, rest) ← keyParts? (depthLimit - 1) cs
  let last ← ks.getLast?
  return (⟨ks.dropLast, last⟩, rest)

def elements? (value? : List Char → Option (Value × List Char)) :
    Nat → List Char → Option (List Value × List Char)
  | 0, _ => none
  | fuel + 1, cs =>
    match skipLines false cs with
    | ']' :: rest => some ([], rest)
    | cs => do
      let (v, rest) ← value? cs
      match skipLines false rest with
      | ',' :: rest =>
        let (vs, rest) ← elements? value? fuel rest
        return (v :: vs, rest)
      | ']' :: rest => return ([v], rest)
      | _ => none

def members? (value? : List Char → Option (Value × List Char)) :
    Nat → Entries → List Char → Option (Entries × List Char)
  | 0, _, _ => none
  | fuel + 1, es, cs => do
    let (k, rest) ← key? cs
    let (v, rest) ← value? (skipBlanks (← expect? '=' rest))
    let es ← addDotted k.last v true k.path es
    match skipBlanks rest with
    | ',' :: rest => members? value? fuel es rest
    | rest => do return (es, ← expect? '}' rest)

def number? (cs : List Char) : Option (Value × List Char) :=
  match date? cs with
  | some (s, rest) => some (.date s, rest)
  | none =>
    match fraction? cs with
    | some (s, rest) => some (.fraction s, rest)
    | none =>
      match special? cs with
      | some (s, rest) => some (.fraction s, rest)
      | none => (integer? cs).map fun r => (.integer r.1, r.2)

def value? : Nat → List Char → Option (Value × List Char)
  | depth, cs =>
    match cs with
    | '"' :: _ | '\'' :: _ => (text? cs).map fun r => (.text r.1, r.2)
    | '[' :: rest =>
      match depth with
      | 0 => none
      | depth + 1 =>
        (elements? (value? depth) (rest.length + 1) rest).map fun r => (.array r.1, r.2)
    | '{' :: rest =>
      match depth with
      | 0 => none
      | depth + 1 =>
        match skipBlanks rest with
        | '}' :: rest => some (.table .braced [], rest)
        | _ =>
          (members? (value? depth) (rest.length + 1) [] rest).map fun r =>
            (.table .braced r.1, r.2)
    | 't' :: 'r' :: 'u' :: 'e' :: rest => some (.boolean true, rest)
    | 'f' :: 'a' :: 'l' :: 's' :: 'e' :: rest => some (.boolean false, rest)
    | _ => number? cs

inductive Line
  | pair (key : Key) (v : Value)
  | header (key : Key)
  | repeated (key : Key)

def pairLine? (cs : List Char) : Option (Line × List Char) := do
  let (k, rest) ← key? cs
  let (v, rest) ← value? (depthLimit - 1) (skipBlanks (← expect? '=' rest))
  return (.pair k v, ← lineEnd? rest)

def headerLine? : List Char → Option (Line × List Char)
  | '[' :: '[' :: rest => do
    let (k, rest) ← key? rest
    return (.repeated k, ← lineEnd? (← expect? ']' (← expect? ']' rest)))
  | '[' :: rest => do
    let (k, rest) ← key? rest
    return (.header k, ← lineEnd? (← expect? ']' rest))
  | _ => none

def lines? : Nat → List Char → Option (List Line)
  | 0, _ => none
  | fuel + 1, cs =>
    match skipBlanks cs with
    | [] => some []
    | '#' :: rest => do lines? fuel (← lineEnd? ('#' :: rest))
    | '[' :: rest => do
      let (l, rest) ← headerLine? ('[' :: rest)
      return l :: (← lines? fuel rest)
    | cs =>
      match newline? cs with
      | some rest => lines? fuel rest
      | none => do
        let (l, rest) ← pairLine? cs
        return l :: (← lines? fuel rest)

def fill : List Line → Entries → Option (Entries × List Line)
  | .pair k v :: rest, es => do fill rest (← addDotted k.last v true k.path es)
  | rest, es => some (es, rest)

/-- Opens a table by its own header: a new one, or one that other headers have implied. -/
def openTable (name : String) (filled : Entries → Option Entries) (es : Entries) :
    Option Entries :=
  match es.lookup name with
  | none => do return es ++ [(name, .table .headed (← filled []))]
  | some (.table .implicit inner) => do
    return setEntry name (.table .headed (← filled inner)) es
  | some _ => none

def openRepeated (name : String) (filled : Entries → Option Entries) (es : Entries) :
    Option Entries :=
  match es.lookup name with
  | none => do return es ++ [(name, .tables [← filled []])]
  | some (.tables ts) => do
    return setEntry name (.tables (ts ++ [← filled []])) es
  | some _ => none

def body (ls : List Line) (es : Entries) : Option Entries := (fill ls es).map Prod.fst

def isPair : Line → Bool
  | .pair _ _ => true
  | _ => false

def sections : Nat → List Line → Entries → Option Entries
  | 0, _, _ => none
  | _, [], es => some es
  | fuel + 1, l :: ls, es =>
    let rest := ls.dropWhile isPair
    match l with
    | .pair _ _ => none
    | .header k => do
      sections fuel rest (← changeUnder (openTable k.last (body ls)) k.path es)
    | .repeated k => do
      sections fuel rest (← changeUnder (openRepeated k.last (body ls)) k.path es)

def assemble (ls : List Line) : Option Entries := do
  sections (ls.length + 1) (ls.dropWhile isPair) (← body ls [])

def parse (s : String) : Option Entries :=
  let cs :=
    match s.toList with
    | c :: rest => if c.toNat = 0xFEFF then rest else c :: rest
    | [] => []
  (lines? (cs.length + 1) cs).bind assemble

end ServiceBinding.Toml
