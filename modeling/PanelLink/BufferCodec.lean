import PanelLink.Receiver

/-!
Framing between two buffers, for callers that move the bytes themselves: arriving bytes
are pushed into one buffer and frames decoded from it, frames to be sent are encoded
behind the other.
-/

namespace PanelLink

structure BufferCodec where
  receiver : Receiver
  arriving : Bytes
  leaving : Bytes
deriving DecidableEq, Repr

namespace BufferCodec

def start (limit : Nat) : BufferCodec := ⟨.start limit, [], []⟩

def push (bytes : Bytes) (codec : BufferCodec) : BufferCodec :=
  { codec with arriving := codec.arriving ++ bytes }

def decode (codec : BufferCodec) : Option (Except FrameError Frame) × BufferCodec :=
  let (outcome, receiver, arriving) := codec.receiver.nextFrame codec.arriving
  (outcome, { codec with receiver, arriving })

def leftover : Failure := ⟨.other, "bytes remaining on stream"⟩

def decodeLast (codec : BufferCodec) :
    Except Failure (Option (Except FrameError Frame)) × BufferCodec :=
  match codec.decode with
  | (some outcome, codec) => (.ok (some outcome), codec)
  | (none, codec) => (if codec.arriving.isEmpty then .ok none else .error leftover, codec)

/-- Append the frame of `content`. It is taken back if it turns out larger than the
receiver would take. -/
def encode (content : Bytes) (codec : BufferCodec) :
    Except FrameError Unit × BufferCodec :=
  let before := codec.leaving.length
  let leaving := codec.leaving ++ Frame.encode content
  if codec.receiver.limit < leaving.length - before - 2 then
    (.error (.oversize codec.receiver.limit),
      { codec with leaving := leaving.take before })
  else (.ok (), { codec with leaving })

end BufferCodec

end PanelLink
