import PanelLink.FrameError

/-!
Escaping keeps the frame boundary out of a payload: the boundary byte and the escape byte
itself are written as two bytes each. A frame on the line is a boundary, the escaped
payload and another boundary.
-/

namespace PanelLink.Escape

def endByte : UInt8 := 0xC0

def escByte : UInt8 := 0xDB

def endCode : UInt8 := 0xDC

def escCode : UInt8 := 0xDD

def escapeByte (byte : UInt8) : Bytes :=
  if byte = endByte then [escByte, endCode]
  else if byte = escByte then [escByte, escCode]
  else [byte]

def body (payload : Bytes) : Bytes := payload.flatMap escapeByte

def encode (payload : Bytes) : Bytes := endByte :: (body payload ++ [endByte])

def encodedLength (payload : Bytes) : Nat :=
  payload.length + payload.countP (fun byte => byte = endByte || byte = escByte) + 2

/-- The payload that `text` is the escaped form of. The first fault from the left decides
the error. -/
def decode : (text : Bytes) → Except FrameError Bytes
  | [] => .ok []
  | byte :: rest =>
      if byte = endByte then .error .strayEnd
      else if byte = escByte then
        match rest with
        | [] => .error .truncatedEscape
        | code :: rest =>
            if code = endCode then (decode rest).map (endByte :: ·)
            else if code = escCode then (decode rest).map (escByte :: ·)
            else .error (.invalidEscape code)
      else (decode rest).map (byte :: ·)

end PanelLink.Escape
