import ServiceBinding.Toml.Value

/-!
# TOML texts, numbers and dates

Readers of the single values of a document. Each answers the value and the characters after
it, or nothing if no such value stands at the front.
-/

namespace ServiceBinding.Toml

def isBlank (c : Char) : Bool := c = ' ' || c = '\t'

def skipBlanks (cs : List Char) : List Char := cs.dropWhile isBlank

def newline? : List Char → Option (List Char)
  | '\n' :: rest => some rest
  | '\r' :: '\n' :: rest => some rest
  | _ => none

def isCommentChar (c : Char) : Bool :=
  let n := c.toNat
  n = 0x09 || (0x20 ≤ n && n ≤ 0x7E) || 0x80 ≤ n

def skipComment : List Char → List Char
  | '#' :: rest => rest.dropWhile isCommentChar
  | cs => cs

def lineEnd? (cs : List Char) : Option (List Char) :=
  match skipComment (skipBlanks cs) with
  | [] => some []
  | rest => newline? rest

def skipLines (inComment : Bool) : List Char → List Char
  | [] => []
  | '\r' :: '\n' :: rest => skipLines false rest
  | c :: rest =>
    if c = '\n' then skipLines false rest
    else if inComment then
      if isCommentChar c then skipLines true rest else c :: rest
    else if isBlank c then skipLines false rest
    else if c = '#' then skipLines true rest
    else c :: rest

def hexDigit? (c : Char) : Option Nat :=
  let n := c.toNat
  if 0x30 ≤ n ∧ n ≤ 0x39 then some (n - 0x30)
  else if 0x61 ≤ n ∧ n ≤ 0x66 then some (n - 0x61 + 10)
  else if 0x41 ≤ n ∧ n ≤ 0x46 then some (n - 0x41 + 10)
  else none

def codePoint? (digits : List Char) : Option Char := do
  let ds ← digits.mapM hexDigit?
  let n := ds.foldl (fun n d => n * 16 + d) 0
  if n.isValidChar then some (Char.ofNat n) else none

def simpleEscape? : Char → Option Char
  | 'b' => some (Char.ofNat 0x08)
  | 't' => some '\t'
  | 'n' => some '\n'
  | 'f' => some (Char.ofNat 0x0C)
  | 'r' => some '\r'
  | '"' => some '"'
  | '\\' => some '\\'
  | _ => none

def isPlain (c : Char) : Bool := isCommentChar c

def put (c : Char) : Option (List Char × List Char) → Option (List Char × List Char)
  | some (cs, rest) => some (c :: cs, rest)
  | none => none

def quotedBody : List Char → Option (List Char × List Char)
  | [] => none
  | '"' :: rest => some ([], rest)
  | '\\' :: 'u' :: a :: b :: c :: d :: rest =>
    match codePoint? [a, b, c, d] with
    | some x => put x (quotedBody rest)
    | none => none
  | '\\' :: 'U' :: a :: b :: c :: d :: e :: f :: g :: h :: rest =>
    match codePoint? [a, b, c, d, e, f, g, h] with
    | some x => put x (quotedBody rest)
    | none => none
  | '\\' :: e :: rest =>
    match simpleEscape? e with
    | some x => put x (quotedBody rest)
    | none => none
  | c :: rest => if c ≠ '\\' ∧ isPlain c then put c (quotedBody rest) else none

def literalBody : List Char → Option (List Char × List Char)
  | [] => none
  | '\'' :: rest => some ([], rest)
  | c :: rest => if isPlain c then put c (literalBody rest) else none

inductive Place
  | inText
  | beforeLineEnd
  | afterLineEnd

/-- The rest of a text between three double quotes; up to two quotes may stand before those
that end it. -/
def quotedLines : Place → List Char → Option (List Char × List Char)
  | _, [] => none
  | .beforeLineEnd, '\r' :: '\n' :: rest => quotedLines .afterLineEnd rest
  | .beforeLineEnd, c :: rest =>
    if c = '\n' then quotedLines .afterLineEnd rest
    else if isBlank c then quotedLines .beforeLineEnd rest
    else none
  | _, '"' :: '"' :: '"' :: '"' :: '"' :: rest => some (['"', '"'], rest)
  | _, '"' :: '"' :: '"' :: '"' :: rest => some (['"'], rest)
  | _, '"' :: '"' :: '"' :: rest => some ([], rest)
  | _, '\\' :: 'u' :: a :: b :: c :: d :: rest =>
    match codePoint? [a, b, c, d] with
    | some x => put x (quotedLines .inText rest)
    | none => none
  | _, '\\' :: 'U' :: a :: b :: c :: d :: e :: f :: g :: h :: rest =>
    match codePoint? [a, b, c, d, e, f, g, h] with
    | some x => put x (quotedLines .inText rest)
    | none => none
  | _, '\\' :: '\r' :: '\n' :: rest => quotedLines .afterLineEnd rest
  | _, '\\' :: e :: rest =>
    match simpleEscape? e with
    | some x => put x (quotedLines .inText rest)
    | none =>
      if e = '\n' then quotedLines .afterLineEnd rest
      else if isBlank e then quotedLines .beforeLineEnd rest
      else none
  | .inText, '\r' :: '\n' :: rest => put '\n' (quotedLines .inText rest)
  | .afterLineEnd, '\r' :: '\n' :: rest => quotedLines .afterLineEnd rest
  | .inText, c :: rest =>
    if c = '\n' ∨ (c ≠ '\\' ∧ isPlain c) then put c (quotedLines .inText rest) else none
  | .afterLineEnd, c :: rest =>
    if c = '\n' ∨ isBlank c then quotedLines .afterLineEnd rest
    else if c ≠ '\\' ∧ isPlain c then put c (quotedLines .inText rest)
    else none

def literalLines : List Char → Option (List Char × List Char)
  | [] => none
  | '\'' :: '\'' :: '\'' :: '\'' :: '\'' :: rest => some (['\'', '\''], rest)
  | '\'' :: '\'' :: '\'' :: '\'' :: rest => some (['\''], rest)
  | '\'' :: '\'' :: '\'' :: rest => some ([], rest)
  | '\r' :: '\n' :: rest => put '\n' (literalLines rest)
  | c :: rest => if c = '\n' ∨ isPlain c then put c (literalLines rest) else none

def dropFirstNewline (cs : List Char) : List Char := (newline? cs).getD cs

def asText : Option (List Char × List Char) → Option (String × List Char)
  | some (cs, rest) => some (String.ofList cs, rest)
  | none => none

def text? : List Char → Option (String × List Char)
  | '"' :: '"' :: '"' :: rest => asText (quotedLines .inText (dropFirstNewline rest))
  | '"' :: rest => asText (quotedBody rest)
  | '\'' :: '\'' :: '\'' :: rest => asText (literalLines (dropFirstNewline rest))
  | '\'' :: rest => asText (literalBody rest)
  | _ => none

def digitsValue (base : Nat) (ds : List Char) : Nat :=
  ds.foldl (fun n c => n * base + (hexDigit? c).getD 0) 0

def moreDigits (isDigit : Char → Bool) : List Char → List Char × List Char
  | [] => ([], [])
  | '_' :: c :: rest =>
    if isDigit c then
      let (ds, after) := moreDigits isDigit rest
      (c :: ds, after)
    else ([], '_' :: c :: rest)
  | c :: rest =>
    if isDigit c then
      let (ds, after) := moreDigits isDigit rest
      (c :: ds, after)
    else ([], c :: rest)

def digits? (isDigit : Char → Bool) : List Char → Option (List Char × List Char)
  | [] => none
  | c :: rest =>
    if isDigit c then
      let (ds, after) := moreDigits isDigit rest
      some (c :: ds, after)
    else none

def isOctal (c : Char) : Bool := '0' ≤ c && c ≤ '7'

def isBinary (c : Char) : Bool := c = '0' || c = '1'

def isHex (c : Char) : Bool := (hexDigit? c).isSome

def sign : List Char → Bool × List Char
  | '-' :: rest => (true, rest)
  | '+' :: rest => (false, rest)
  | cs => (false, cs)

def decimal? : List Char → Option (List Char × List Char)
  | '0' :: rest => some (['0'], rest)
  | cs => digits? Char.isDigit cs

def int64? (i : Int) : Option Int :=
  if -0x8000000000000000 ≤ i ∧ i < 0x8000000000000000 then some i else none

def based? (base : Nat) (isDigit : Char → Bool) (cs : List Char) :
    Option (Int × List Char) := do
  let (ds, rest) ← digits? isDigit cs
  let i ← int64? (digitsValue base ds)
  return (i, rest)

/-- Integers have 64 bits; only decimal ones have a sign. -/
def integer? : List Char → Option (Int × List Char)
  | '0' :: 'x' :: rest => based? 16 isHex rest
  | '0' :: 'o' :: rest => based? 8 isOctal rest
  | '0' :: 'b' :: rest => based? 2 isBinary rest
  | cs => do
    let (negative, body) := sign cs
    let (ds, rest) ← decimal? body
    let n : Int := digitsValue 10 ds
    let i ← int64? (if negative then -n else n)
    return (i, rest)

def exponent? : List Char → Option (Int × List Char)
  | c :: rest =>
    if c = 'e' ∨ c = 'E' then do
      let (negative, body) := sign rest
      let (ds, rest) ← digits? Char.isDigit body
      let n : Int := digitsValue 10 ds
      return (if negative then -n else n, rest)
    else none
  | [] => none

def fractionDigits? : List Char → Option (List Char × List Char)
  | '.' :: rest => digits? Char.isDigit rest
  | _ => none

def belowInfinity (m : Nat) (e : Int) : Bool :=
  let size := (Nat.toDigits 10 m).length + e
  if m = 0 ∨ size < 300 then true
  else if 400 < size then false
  else
    m * Nat.pow 10 e.toNat <
      (Nat.pow 2 1024 - Nat.pow 2 970) * Nat.pow 10 (-e).toNat

def spelling (cs rest : List Char) : String := String.ofList (cs.take (cs.length - rest.length))

/-- A number with a fraction, an exponent or both; a positive one must be finite. -/
def fraction? (cs : List Char) : Option (String × List Char) := do
  let (negative, body) := sign cs
  let (whole, rest) ← decimal? body
  let (part, rest, hasPart) :=
    match fractionDigits? rest with
    | some (ds, rest) => (ds, rest, true)
    | none => ([], rest, false)
  let (e, rest, hasExponent) :=
    match exponent? rest with
    | some (e, rest) => (e, rest, true)
    | none => ((0 : Int), rest, false)
  if hasPart || hasExponent then
    if negative || belowInfinity (digitsValue 10 (whole ++ part)) (e - part.length) then
      return (spelling cs rest, rest)
    else none
  else none

def special? (cs : List Char) : Option (String × List Char) :=
  match (sign cs).2 with
  | 'i' :: 'n' :: 'f' :: rest => some (spelling cs rest, rest)
  | 'n' :: 'a' :: 'n' :: rest => some (spelling cs rest, rest)
  | _ => none

def fixedDigits? (count : Nat) (cs : List Char) : Option (Nat × List Char) :=
  let ds := cs.take count
  if ds.length = count ∧ ds.all (·.isDigit) then some (digitsValue 10 ds, cs.drop count)
  else none

def expect? (c : Char) : List Char → Option (List Char)
  | d :: rest => if d = c then some rest else none
  | [] => none

def isLeapYear (y : Nat) : Bool := y % 4 = 0 && (y % 100 ≠ 0 || y % 400 = 0)

def daysInMonth (y m : Nat) : Nat :=
  if m = 2 then if isLeapYear y then 29 else 28
  else if m = 4 ∨ m = 6 ∨ m = 9 ∨ m = 11 then 30
  else 31

def day? (cs : List Char) : Option (List Char) := do
  let (y, rest) ← fixedDigits? 4 cs
  let (m, rest) ← fixedDigits? 2 (← expect? '-' rest)
  let (d, rest) ← fixedDigits? 2 (← expect? '-' rest)
  if 1 ≤ m ∧ m ≤ 12 ∧ 1 ≤ d ∧ d ≤ daysInMonth y m then some rest else none

def time? (cs : List Char) : Option (List Char) := do
  let (h, rest) ← fixedDigits? 2 cs
  let (m, rest) ← fixedDigits? 2 (← expect? ':' rest)
  let (s, rest) ← fixedDigits? 2 (← expect? ':' rest)
  if 23 < h ∨ 59 < m ∨ 60 < s then none
  else
    match rest with
    | '.' :: rest =>
      if (rest.takeWhile (·.isDigit)).isEmpty then none
      else some (rest.dropWhile (·.isDigit))
    | rest => some rest

def offset? : List Char → Option (List Char)
  | c :: rest =>
    if c = 'Z' ∨ c = 'z' then some rest
    else if c = '+' ∨ c = '-' then do
      let (h, rest) ← fixedDigits? 2 rest
      let (m, rest) ← fixedDigits? 2 (← expect? ':' rest)
      if h ≤ 23 ∧ m ≤ 59 then some rest else none
    else none
  | [] => none

def date? (cs : List Char) : Option (String × List Char) :=
  match day? cs with
  | none => (time? cs).map fun rest => (spelling cs rest, rest)
  | some rest =>
    match rest with
    | c :: timed =>
      match if c = 'T' ∨ c = 't' ∨ c = ' ' then time? timed else none with
      | some rest =>
        let rest := (offset? rest).getD rest
        some (spelling cs rest, rest)
      | none => some (spelling cs rest, rest)
    | [] => some (spelling cs rest, rest)

end ServiceBinding.Toml
