/-!
# Internet addresses

Addresses of four octets or of eight groups, read from text and written in canonical form.
Octets have no superfluous zeros. Of the eight groups, `::` stands for the zeros left out,
and the last two can be written as four octets.
-/

namespace ServiceBinding

inductive IpAddress
  | v4 (a b c d : UInt8)
  | v6 (groups : Vector UInt16 8)
  deriving DecidableEq

namespace IpAddress

def isV6 : IpAddress → Bool
  | v4 _ _ _ _ => false
  | v6 _ => true

def unspecified : IpAddress := v4 0 0 0 0

def octet (cs : List Char) : Option (UInt8 × List Char) :=
  let digits := cs.takeWhile (·.isDigit)
  let n := digits.foldl (fun n c => n * 10 + (c.toNat - '0'.toNat)) 0
  if digits = [] ∨ 3 < digits.length ∨ 255 < n then none
  else if digits.head? = some '0' ∧ 1 < digits.length then none
  else some (UInt8.ofNat n, cs.drop digits.length)

def afterChar (c : Char) : List Char → Option (List Char)
  | d :: rest => if d = c then some rest else none
  | [] => none

def octets (cs : List Char) : Option ((UInt8 × UInt8 × UInt8 × UInt8) × List Char) := do
  let (a, cs) ← octet cs
  let (b, cs) ← octet (← afterChar '.' cs)
  let (c, cs) ← octet (← afterChar '.' cs)
  let (d, cs) ← octet (← afterChar '.' cs)
  return ((a, b, c, d), cs)

def hexValue? (c : Char) : Option Nat :=
  let n := c.toNat
  if 0x30 ≤ n ∧ n ≤ 0x39 then some (n - 0x30)
  else if 0x61 ≤ n ∧ n ≤ 0x66 then some (n - 0x61 + 10)
  else if 0x41 ≤ n ∧ n ≤ 0x46 then some (n - 0x41 + 10)
  else none

def group (cs : List Char) : Option (UInt16 × List Char) :=
  let digits := (cs.takeWhile fun c => (hexValue? c).isSome).filterMap hexValue?
  if digits = [] ∨ 4 < digits.length then none
  else
    some (UInt16.ofNat (digits.foldl (fun n d => n * 16 + d) 0), cs.drop digits.length)

def pairUp (a b : UInt8) : UInt16 := UInt16.ofNat (a.toNat * 256 + b.toNat)

structure Groups where
  groups : List UInt16
  octetsLast : Bool
  rest : List Char

def readGroups (first : Bool) : Nat → List Char → Groups
  | 0, cs => ⟨[], false, cs⟩
  | room + 1, cs =>
    match if first then some cs else afterChar ':' cs with
    | none => ⟨[], false, cs⟩
    | some body =>
      match if 1 ≤ room then octets body else none with
      | some ((a, b, c, d), rest) => ⟨[pairUp a b, pairUp c d], true, rest⟩
      | none =>
        match group body with
        | none => ⟨[], false, cs⟩
        | some (g, rest) =>
          let more := readGroups false room rest
          ⟨g :: more.groups, more.octetsLast, more.rest⟩

def ofGroups (gs : List UInt16) : Option IpAddress :=
  if h : gs.length = 8 then some (v6 ⟨gs.toArray, by simpa using h⟩) else none

def readV6 (cs : List Char) : Option (IpAddress × List Char) := do
  let front := readGroups true 8 cs
  if front.groups.length = 8 then
    return (← ofGroups front.groups, front.rest)
  else if front.octetsLast then none
  else
    let rest ← afterChar ':' (← afterChar ':' front.rest)
    let back := readGroups true (7 - front.groups.length) rest
    let zeros := List.replicate (8 - front.groups.length - back.groups.length) 0
    return (← ofGroups (front.groups ++ zeros ++ back.groups), back.rest)

def parse (s : String) : Option IpAddress := do
  let cs := s.toList
  let (a, rest) ←
    match octets cs with
    | some ((a, b, c, d), rest) => some (v4 a b c d, rest)
    | none => readV6 cs
  if rest = [] then some a else none

def octetsText (a b c d : UInt8) : String :=
  s!"{a.toNat}.{b.toNat}.{c.toNat}.{d.toNat}"

def groupText (g : UInt16) : String := String.ofList (Nat.toDigits 16 g.toNat)

def groupsText (gs : List UInt16) : String := ":".intercalate (gs.map groupText)

def zeroRun (gs : List UInt16) (start : Nat) : Nat :=
  ((gs.drop start).takeWhile (· = 0)).length

def longestRun (gs : List UInt16) : Nat :=
  (List.range gs.length).foldl (fun i j => if zeroRun gs i < zeroRun gs j then j else i) 0

/-- Octets of a mapped address; else groups with the first longest run of two or more zeros
left out. -/
def v6Text (gs : List UInt16) : String :=
  match gs with
  | [0, 0, 0, 0, 0, 0xFFFF, x, y] =>
    "::ffff:" ++
      octetsText (UInt8.ofNat (x.toNat / 256)) (UInt8.ofNat (x.toNat % 256))
        (UInt8.ofNat (y.toNat / 256)) (UInt8.ofNat (y.toNat % 256))
  | gs =>
    let start := longestRun gs
    let run := zeroRun gs start
    if 1 < run then groupsText (gs.take start) ++ "::" ++ groupsText (gs.drop (start + run))
    else groupsText gs

def text : IpAddress → String
  | v4 a b c d => octetsText a b c d
  | v6 gs => v6Text gs.toList

end IpAddress

end ServiceBinding
