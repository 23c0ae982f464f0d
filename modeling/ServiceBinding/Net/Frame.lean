import ServiceBinding.Wire.Decoding
import ServiceBinding.Wire.Encoding

/-!
# Frames

A frame is a payload behind its length in four bytes, most significant first. A reader takes
exactly one frame from what it receives before the end of input: no byte at all is no message,
and an end inside a frame is an error. It looks at the length once it has five bytes.
-/

namespace ServiceBinding.Net

open Wire (Schema DecodeError)

inductive FrameError
  | brokenPipe
  | payload (error : DecodeError)
  deriving DecidableEq

def FrameError.message : FrameError → String
  | brokenPipe => "io error: broken pipe"
  | payload e => e.message

namespace Frame

def sizeLimit : Nat := 0xFFFFFFFF

def bigEndian4 (n : Nat) : List UInt8 :=
  [UInt8.ofNat (n / 0x1000000), UInt8.ofNat (n / 0x10000), UInt8.ofNat (n / 0x100),
    UInt8.ofNat n]

def ofBigEndian (bs : List UInt8) : Nat := bs.foldl (fun n b => n * 256 + b.toNat) 0

def write (payload : List UInt8) : Except FrameError (List UInt8) :=
  if payload.length ≤ sizeLimit then .ok (bigEndian4 payload.length ++ payload)
  else .error (.payload .sizeLimit)

def read (received : List UInt8) : Except FrameError (Option (List UInt8)) :=
  if received = [] then .ok none
  else if received.length < 5 then .error .brokenPipe
  else
    let size := ofBigEndian (received.take 4)
    if received.length < 4 + size then .error .brokenPipe
    else .ok (some ((received.drop 4).take size))

/-- A text may not reach beyond the size limit, whatever its payload holds. -/
def limited (size : Nat) : DecodeError → DecodeError
  | .textOverrun length available =>
    if sizeLimit < size - available + length then .sizeLimit
    else .textOverrun length available
  | e => e

def encode (s : Schema) (v : s.Val) : Except FrameError (List UInt8) :=
  write (s.encode .compact v)

def decode (s : Schema) (received : List UInt8) : Except FrameError (Option s.Val) :=
  match read received with
  | .error e => .error e
  | .ok none => .ok none
  | .ok (some payload) =>
    match s.decode .compact payload with
    | .ok (v, _) => .ok (some v)
    | .error e => .error (.payload (limited payload.length e))

end Frame

end ServiceBinding.Net
