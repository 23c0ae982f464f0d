/-!
# Binary64 numbers as decimal text

A finite number is written with the fewest significant digits that lie within its rounding
interval, the nearest such digits, the upper ones of two equally near. Notation is positional
from 10^-4 up to 10^16 and scientific elsewhere; a positional integer keeps one zero after
the point.
-/

namespace ServiceBinding.Binary64

/-- A positive number `mantissa * 2^(exponent - 1074)`. -/
structure Finite where
  mantissa : Nat
  exponent : Nat

def implicitBit : Nat := 0x10000000000000

def isNegative (bits : UInt64) : Bool := bits.toNat ≥ 0x8000000000000000

def exponentField (bits : UInt64) : Nat := bits.toNat / implicitBit % 0x800

def fraction (bits : UInt64) : Nat := bits.toNat % implicitBit

def magnitude (bits : UInt64) : Finite :=
  if exponentField bits = 0 then ⟨fraction bits, 0⟩
  else ⟨implicitBit + fraction bits, exponentField bits - 1⟩

namespace Finite

def isBoundary (x : Finite) : Bool := x.mantissa = implicitBit && x.exponent ≠ 0

/-- The number in units of a quarter of its last place: lower end, value, upper end. -/
def quarters (x : Finite) : Nat × Nat × Nat :=
  let v := 4 * x.mantissa
  (if x.isBoundary then v - 1 else v - 2, v, v + 2)

def roundsFrom (x : Finite) (n : Nat) (e : Int) : Bool :=
  let (low, _, high) := x.quarters
  let scaled := n * Nat.pow 10 e.toNat * Nat.pow 2 1076
  let unit := Nat.pow 2 x.exponent * Nat.pow 10 (-e).toNat
  if x.mantissa % 2 = 0 then low * unit ≤ scaled && scaled ≤ high * unit
  else low * unit < scaled && scaled < high * unit

def decimalExponent (x : Finite) : Nat → Int → Int
  | 0, k => k
  | fuel + 1, k =>
    if x.mantissa * Nat.pow 2 x.exponent * Nat.pow 10 (-k).toNat <
        Nat.pow 2 1074 * Nat.pow 10 k.toNat then k
    else decimalExponent x fuel (k + 1)

structure Digits where
  digits : Nat
  unit : Int

def onGrid (x : Finite) (k : Int) (count : Nat) : Option Digits :=
  let e := k - count
  let num := x.mantissa * Nat.pow 2 x.exponent * Nat.pow 10 (-e).toNat
  let den := Nat.pow 2 1074 * Nat.pow 10 e.toNat
  let down := num / den
  let up := down + 1
  match x.roundsFrom down e, x.roundsFrom up e with
  | false, false => none
  | true, false => some ⟨down, e⟩
  | false, true => some ⟨up, e⟩
  | true, true => some (if 2 * (num % den) ≥ den then ⟨up, e⟩ else ⟨down, e⟩)

def shortestFrom (x : Finite) (k : Int) : Nat → Nat → Digits
  | 0, count => ⟨0, k - count⟩
  | fuel + 1, count =>
    match x.onGrid k count with
    | some d => d
    | none => shortestFrom x k fuel (count + 1)

def shortest (x : Finite) : Digits := x.shortestFrom (x.decimalExponent 700 (-330)) 17 1

end Finite

def zeros (n : Nat) : List Char := List.replicate n '0'

def stripZeros (ds : List Char) : List Char × Nat :=
  let kept := (ds.reverse.dropWhile (· = '0')).reverse
  (kept, ds.length - kept.length)

def positional (ds : List Char) (point : Int) : List Char :=
  if point ≤ 0 then '0' :: '.' :: (zeros (-point).toNat ++ ds)
  else if point.toNat < ds.length then
    ds.take point.toNat ++ '.' :: ds.drop point.toNat
  else ds ++ zeros (point.toNat - ds.length) ++ ['.', '0']

def scientific (ds : List Char) (point : Int) : List Char :=
  let mantissa :=
    match ds with
    | d :: e :: rest => d :: '.' :: e :: rest
    | short => short
  mantissa ++ 'e' :: (toString (point - 1)).toList

def magnitudeText (x : Finite) : List Char :=
  if x.mantissa = 0 then ['0', '.', '0']
  else
    let d := x.shortest
    let (ds, stripped) := stripZeros (Nat.toDigits 10 d.digits)
    let point := d.unit + stripped + ds.length
    if -4 < point ∧ point ≤ 16 then positional ds point else scientific ds point

def text (bits : UInt64) : String :=
  if exponentField bits = 0x7FF then
    if fraction bits ≠ 0 then "NaN"
    else if isNegative bits then "-inf" else "inf"
  else
    String.ofList ((if isNegative bits then ['-'] else []) ++ magnitudeText (magnitude bits))

end ServiceBinding.Binary64
