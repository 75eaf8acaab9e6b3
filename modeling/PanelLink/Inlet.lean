import PanelLink.Receiver
import PanelLink.Source

/-!
An inlet reads frames from a source. It reads only when it has fed all the bytes it holds,
at most 256 at a time, and keeps what is behind a frame for the next call.
-/

namespace PanelLink

structure Inlet where
  receiver : Receiver
  /-- Bytes already read from the source and not yet fed. -/
  pending : Bytes
  source : Source
deriving DecidableEq, Repr

namespace Inlet

def chunkSize : Nat := 256

def start (limit : Nat) (source : Source) : Inlet := ⟨.start limit, [], source⟩

def endingOf : Reading → Option FrameError
  | .data [] => some .closed
  | .data (_ :: _) => none
  | .failure cause => if cause.isInterrupted then none else some (.transfer cause)

/-- One turn of a call: the first byte held is fed, and if there is none, the source is
read. -/
def turn (inlet : Inlet) : Option (Except FrameError Frame) × Inlet :=
  match inlet.pending with
  | byte :: rest =>
      let (outcome, receiver) := inlet.receiver.feed byte
      (outcome.map Receiver.frameOf, { inlet with receiver, pending := rest })
  | [] =>
      let (reading, source) := inlet.source.read chunkSize
      ((endingOf reading).map .error,
        { inlet with pending := inlet.pending ++ reading.bytes, source })

/-! ## Progress -/

def weight (inlet : Inlet) : Nat := inlet.pending.length + inlet.source.weight

theorem turn_of_exhausted {inlet : Inlet} (empty : inlet.pending = [])
    (exhausted : inlet.source.script = []) :
    inlet.turn =
      ((endingOf (Source.lastReading inlet.source.afterwards)).map .error, inlet) := by
  rcases inlet with ⟨receiver, pending, source⟩
  cases empty
  rw [turn, Source.read_of_script_eq_nil exhausted]
  cases ending : source.afterwards <;> rfl

theorem weight_turn_lt {inlet : Inlet}
    (remaining : inlet.pending = [] → inlet.source.script ≠ []) :
    inlet.turn.2.weight < inlet.weight := by
  rcases inlet with ⟨receiver, pending, source⟩
  cases pending with
  | cons byte rest => simp [turn, weight]
  | nil =>
      have script : source.script ≠ [] := remaining rfl
      have lighter := Source.weight_read_lt (by decide : 0 < chunkSize) script
      simp only [turn, weight, List.nil_append, List.length_nil]
      omega

theorem remaining_of_turn {inlet next : Inlet} (went : inlet.turn = (none, next)) :
    inlet.pending = [] → inlet.source.script ≠ [] := by
  intro empty exhausted
  rw [turn_of_exhausted empty exhausted] at went
  cases ending : inlet.source.afterwards <;> rw [ending] at went <;> cases went

theorem weight_lt_of_turn {inlet next : Inlet} (went : inlet.turn = (none, next)) :
    next.weight < inlet.weight := by
  have lighter := weight_turn_lt (remaining_of_turn went)
  rwa [went] at lighter

def receive (inlet : Inlet) : Except FrameError Frame × Inlet :=
  match _ : inlet.turn with
  | (some result, later) => (result, later)
  | (none, next) => receive next
termination_by inlet.weight
decreasing_by exact weight_lt_of_turn ‹_›

/-! ## Other uses -/

def reset (inlet : Inlet) : Inlet :=
  { inlet with receiver := inlet.receiver.reset, pending := [] }

/-- Read from the source directly, past the bytes the inlet holds. -/
def readPast (capacity : Nat) (inlet : Inlet) : Reading × Inlet :=
  let (reading, source) := inlet.source.read capacity
  (reading, { inlet with source })

end Inlet

end PanelLink
