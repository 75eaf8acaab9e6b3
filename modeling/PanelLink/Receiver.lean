import PanelLink.Frame

/-!
The receiver cuts a stream of bytes into segments at the frame boundaries. A segment of at
least three bytes is unescaped at its boundary; shorter ones are the gaps between frames
and vanish. A segment that grows past the limit is reported once and then ignored up to
its boundary, where the receiver starts afresh.
-/

namespace PanelLink

namespace Receiver

inductive State where
  | accumulating
  /-- The segment has outgrown the limit. -/
  | discarding
deriving DecidableEq, Repr

end Receiver

structure Receiver where
  limit : Nat
  buffer : Bytes
  state : Receiver.State
deriving DecidableEq, Repr

namespace Receiver

abbrev Outcome := Except FrameError Bytes

/-- A payload has at least one content byte and the checksum. -/
def minimumSegment : Nat := 3

def start (limit : Nat) : Receiver := ⟨limit, [], .accumulating⟩

/-- End the segment at hand. The buffer is emptied whatever the segment amounts to. -/
def complete (receiver : Receiver) : Option Outcome × Receiver :=
  (if receiver.buffer.length < minimumSegment then none
    else some (Escape.decode receiver.buffer), { receiver with buffer := [] })

def feed (receiver : Receiver) (byte : UInt8) : Option Outcome × Receiver :=
  match receiver.state with
  | .discarding =>
      (none,
        if byte = Escape.endByte then { receiver with state := .accumulating }
        else receiver)
  | .accumulating =>
      if byte = Escape.endByte then receiver.complete
      else if receiver.limit ≤ receiver.buffer.length then
        (some (.error (.oversize receiver.limit)),
          { receiver with buffer := [], state := .discarding })
      else (none, { receiver with buffer := receiver.buffer ++ [byte] })

def reset (receiver : Receiver) : Receiver :=
  { receiver with buffer := [], state := .accumulating }

def buffered (receiver : Receiver) : Nat := receiver.buffer.length

def isDiscarding (receiver : Receiver) : Bool := receiver.state = .discarding

/-! ## Runs of bytes -/

def run (receiver : Receiver) : Bytes → Receiver
  | [] => receiver
  | byte :: rest => run (receiver.feed byte).2 rest

def trace (receiver : Receiver) : Bytes → List (Option Outcome)
  | [] => []
  | byte :: rest => (receiver.feed byte).1 :: trace (receiver.feed byte).2 rest

def outcomes (receiver : Receiver) (bytes : Bytes) : List Outcome :=
  (receiver.trace bytes).filterMap id

theorem run_append (receiver : Receiver) (first second : Bytes) :
    receiver.run (first ++ second) = (receiver.run first).run second := by
  induction first generalizing receiver with
  | nil => rfl
  | cons byte rest induction => exact induction _

theorem trace_append (receiver : Receiver) (first second : Bytes) :
    receiver.trace (first ++ second) =
      receiver.trace first ++ (receiver.run first).trace second := by
  induction first generalizing receiver with
  | nil => rfl
  | cons byte rest induction => simp [trace, run, induction]

theorem outcomes_append (receiver : Receiver) (first second : Bytes) :
    receiver.outcomes (first ++ second) =
      receiver.outcomes first ++ (receiver.run first).outcomes second := by
  simp [outcomes, trace_append]

/-! ## Frames -/

def frameOf (outcome : Outcome) : Except FrameError Frame := outcome.bind Frame.ofPayload

def nextFrame (receiver : Receiver) :
    Bytes → Option (Except FrameError Frame) × Receiver × Bytes
  | [] => (none, receiver, [])
  | byte :: rest =>
      match receiver.feed byte with
      | (some outcome, receiver) => (some (frameOf outcome), receiver, rest)
      | (none, receiver) => nextFrame receiver rest

end Receiver

end PanelLink
