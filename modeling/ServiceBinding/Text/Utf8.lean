/-!
# UTF-8

Characters as byte lists, and back. A reading that fails says where the offending
sequence starts and how many bytes of it could still have begun a character, or that the
text ends inside a character.
-/

namespace ServiceBinding.Utf8

inductive Fault
  | invalid (length : Nat)
  | incomplete
  deriving DecidableEq, Repr

structure Error where
  index : Nat
  fault : Fault
  deriving DecidableEq, Repr

def Error.message (e : Error) : String :=
  match e.fault with
  | .invalid n => s!"invalid utf-8 sequence of {n} bytes from index {e.index}"
  | .incomplete => s!"incomplete utf-8 byte sequence from index {e.index}"

def continuation (n : Nat) : UInt8 := UInt8.ofNat (0x80 + n % 0x40)

def encodeChar (c : Char) : List UInt8 :=
  let n := c.toNat
  if n < 0x80 then [UInt8.ofNat n]
  else if n < 0x800 then [UInt8.ofNat (0xC0 + n / 0x40), continuation n]
  else if n < 0x10000 then
    [UInt8.ofNat (0xE0 + n / 0x1000), continuation (n / 0x40), continuation n]
  else
    [UInt8.ofNat (0xF0 + n / 0x40000), continuation (n / 0x1000), continuation (n / 0x40),
      continuation n]

def encode (cs : List Char) : List UInt8 := cs.flatMap encodeChar

def bytes (s : String) : List UInt8 := encode s.toList

def follow (seen low high acc : Nat) : List UInt8 → Except Fault (Nat × List UInt8)
  | [] => .error .incomplete
  | b :: rest =>
    if low ≤ b.toNat ∧ b.toNat ≤ high then .ok (acc * 0x40 + b.toNat % 0x40, rest)
    else .error (.invalid seen)

/-- The least second byte after a first byte: no over-long forms. -/
def secondLow (first : Nat) : Nat :=
  if first = 0xE0 then 0xA0 else if first = 0xF0 then 0x90 else 0x80

/-- The greatest second byte after a first byte: no surrogates, nothing past U+10FFFF. -/
def secondHigh (first : Nat) : Nat :=
  if first = 0xED then 0x9F else if first = 0xF4 then 0x8F else 0xBF

def decodeChar : List UInt8 → Except Fault (Char × List UInt8)
  | [] => .error .incomplete
  | b :: rest =>
    let first := b.toNat
    if first < 0x80 then .ok (Char.ofNat first, rest)
    else if first < 0xC2 then .error (.invalid 1)
    else if first < 0xE0 then do
      let (n, rest) ← follow 1 0x80 0xBF (first - 0xC0) rest
      .ok (Char.ofNat n, rest)
    else if first < 0xF0 then do
      let (n, rest) ← follow 1 (secondLow first) (secondHigh first) (first - 0xE0) rest
      let (n, rest) ← follow 2 0x80 0xBF n rest
      .ok (Char.ofNat n, rest)
    else if first < 0xF5 then do
      let (n, rest) ← follow 1 (secondLow first) (secondHigh first) (first - 0xF0) rest
      let (n, rest) ← follow 2 0x80 0xBF n rest
      let (n, rest) ← follow 3 0x80 0xBF n rest
      .ok (Char.ofNat n, rest)
    else .error (.invalid 1)

theorem follow_shorter {seen low high acc n : Nat} {bs rest : List UInt8}
    (h : follow seen low high acc bs = .ok (n, rest)) : rest.length < bs.length := by
  cases bs with
  | nil => simp [follow] at h
  | cons b tail =>
    simp only [follow] at h
    split at h
    · cases h; simp
    · cases h

theorem decodeChar_shorter {bs rest : List UInt8} {c : Char}
    (h : decodeChar bs = .ok (c, rest)) : rest.length < bs.length := by
  cases bs with
  | nil => simp [decodeChar] at h
  | cons b tail =>
    simp only [decodeChar, bind, Except.bind] at h
    repeat' split at h
    all_goals cases h
    all_goals simp only [List.length_cons]
    · omega
    · next h₁ => have := follow_shorter h₁; omega
    · next h₁ _ _ h₂ => have := follow_shorter h₁; have := follow_shorter h₂; omega
    · next h₁ _ _ h₂ _ _ h₃ =>
      have := follow_shorter h₁; have := follow_shorter h₂; have := follow_shorter h₃; omega

def decodeFrom (index : Nat) (bs : List UInt8) : Except Error (List Char) :=
  match bs with
  | [] => .ok []
  | b :: tail =>
    match _h : decodeChar (b :: tail) with
    | .error fault => .error ⟨index, fault⟩
    | .ok (c, rest) =>
      match decodeFrom (index + ((b :: tail).length - rest.length)) rest with
      | .error e => .error e
      | .ok cs => .ok (c :: cs)
termination_by bs.length
decreasing_by exact decodeChar_shorter _h

def decode (bs : List UInt8) : Except Error (List Char) := decodeFrom 0 bs

def text (bs : List UInt8) : Except Error String :=
  match decode bs with
  | .ok cs => .ok (String.ofList cs)
  | .error e => .error e

end ServiceBinding.Utf8
