import PanelLink.FrameError

/-!
The checksum of a content: the remainder of its bits, followed by sixteen zeros, on
division by `x^16 + x^12 + x^5 + 1` over the field of two elements, the most significant
bit of each byte first. It travels behind the content, high byte first, so that a content
with its checksum leaves the remainder zero.
-/

namespace PanelLink.Checksum

/-- The divisor `x^16 + x^12 + x^5 + 1` without its leading term. -/
def generator : UInt16 := 0x1021

/-- Multiply the remainder by `x`: a leading bit that leaves the register is divided out
again. -/
def shift (register : UInt16) : UInt16 :=
  if register &&& 0x8000 = 0 then register <<< 1
  else (register <<< 1) ^^^ generator

def shifts : (count : Nat) → UInt16 → UInt16
  | 0, register => register
  | count + 1, register => shifts count (shift register)

def absorb (register : UInt16) (byte : UInt8) : UInt16 :=
  shifts 8 (register ^^^ (byte.toUInt16 <<< 8))

end Checksum

def checksum (bytes : Bytes) : UInt16 := bytes.foldl Checksum.absorb 0

namespace Checksum

def width : Nat := 2

def trailer (value : UInt16) : Bytes := [(value >>> 8).toUInt8, value.toUInt8]

def ofTrailer (high low : UInt8) : UInt16 := (high.toUInt16 <<< 8) ||| low.toUInt16

def append (content : Bytes) : Bytes := content ++ trailer (checksum content)

def splitTrailer? (payload : Bytes) : Option (Bytes × UInt16) :=
  match payload.reverse with
  | low :: high :: content => some (content.reverse, ofTrailer high low)
  | _ => none

def check (payload : Bytes) : Except FrameError (Bytes × UInt16) :=
  match splitTrailer? payload with
  | none => .error (.shortFrame payload.length width)
  | some (content, received) =>
      if checksum content = received then .ok (content, received)
      else .error (.checksumMismatch (checksum content) received)

def split (payload : Bytes) : Except FrameError Bytes := (check payload).map Prod.fst

def verify (payload : Bytes) : Bool := (split payload).isOk

end PanelLink.Checksum
