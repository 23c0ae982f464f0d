import ServiceBinding.Text.Utf8
import ServiceBinding.Wire.Word

/-!
# Reading from the front of a byte list

A decoder answers a value and the bytes after it, or the reason why no value stands at the
front. Decoders run one after the other by `bind` and a counted number of times by
`times`.
-/

universe u v

namespace ServiceBinding.Wire

inductive DecodeError
  | endOfInput
  | textOverrun (length available : Nat)
  | invalidText (error : Utf8.Error)
  | invalidChar
  | invalidBool (byte : Nat)
  | optionTag (byte : Nat)
  | unknownVariant (tag count : Nat)
  | wordOverflow (word : Word) (number : Int)
  | wideMarker
  | reservedMarker (byte : Nat)
  | sizeLimit
  | custom (text : String)
  deriving DecidableEq

def DecodeError.message : DecodeError → String
  | endOfInput => "io error: unexpected end of file"
  | textOverrun _ _ => "io error: "
  | invalidText e => "string is not valid utf8: " ++ e.message
  | invalidChar => "char is not valid"
  | invalidBool n => s!"invalid u8 while decoding bool, expected 0 or 1, found {n}"
  | optionTag n => s!"tag for enum is not valid, found {n}"
  | unknownVariant n k =>
    "invalid value: integer \x60" ++ toString n ++
      s!"\x60, expected variant index 0 <= i < {k}"
  | wordOverflow w n => s!"Invalid {w.name} {n}: you may have a version disagreement?"
  | wideMarker =>
    "Invalid value (u128 range): you may have a version or configuration disagreement?"
  | reservedMarker n =>
    s!"\nByte {n} is treated as an extension point; it should not be encoding anything.\n" ++
      "Do you have a mismatched bincode version or configuration?\n"
  | sizeLimit => "the size limit has been reached"
  | custom text => text

def Decoder (α : Type u) : Type u := List UInt8 → Except DecodeError (α × List UInt8)

namespace Decoder

variable {α : Type u} {β : Type v}

def pure (a : α) : Decoder α := fun bs => .ok (a, bs)

def fail (e : DecodeError) : Decoder α := fun _ => .error e

def bind (d : Decoder α) (next : α → Decoder β) : Decoder β := fun bs =>
  match d bs with
  | .ok (a, rest) => next a rest
  | .error e => .error e

def map (f : α → β) (d : Decoder α) : Decoder β := d.bind fun a => pure (f a)

def times (d : Decoder α) : Nat → Decoder (List α)
  | 0 => pure []
  | n + 1 => d.bind fun a => (d.times n).bind fun as => pure (a :: as)

def byte : Decoder UInt8
  | [] => .error .endOfInput
  | b :: rest => .ok (b, rest)

def take (n : Nat) (short : List UInt8 → DecodeError) : Decoder (List UInt8) := fun bs =>
  if n ≤ bs.length then .ok (bs.take n, bs.drop n) else .error (short bs)

end Decoder

end ServiceBinding.Wire
