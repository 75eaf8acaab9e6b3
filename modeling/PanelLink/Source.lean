import PanelLink.Failure

/-!
The reading side of a line, as the list of answers that its read calls will get. A read
takes the first answer; data longer than the caller asked for stays for the next read.
Afterwards the line is either closed, which reads as no bytes, or silent, which reads as a
timeout.
-/

namespace PanelLink

inductive Reading where
  /-- Bytes that have arrived. No bytes at all means that the other end has closed. -/
  | data (bytes : Bytes)
  | failure (cause : Failure)
deriving DecidableEq, Repr

def Reading.bytes : Reading → Bytes
  | data bytes => bytes
  | failure _ => []

inductive Afterwards where
  | closed
  | silent
deriving DecidableEq, Repr

structure Source where
  script : List Reading
  afterwards : Afterwards := .closed
deriving DecidableEq, Repr

namespace Source

def ofBytes (bytes : Bytes) : Source := { script := [.data bytes] }

def lastReading : Afterwards → Reading
  | .closed => .data []
  | .silent => .failure ⟨.timedOut, "Operation timed out"⟩

def read (capacity : Nat) (source : Source) : Reading × Source :=
  match source.script with
  | [] => (lastReading source.afterwards, source)
  | .failure cause :: rest => (.failure cause, { source with script := rest })
  | .data bytes :: rest =>
      if bytes.length ≤ capacity then (.data bytes, { source with script := rest })
      else (.data (bytes.take capacity),
        { source with script := .data (bytes.drop capacity) :: rest })

def extend (source : Source) (bytes : Bytes) : Source :=
  if bytes.isEmpty then source
  else { source with script := source.script ++ [.data bytes] }

def clear (source : Source) : Source := { source with script := [] }

/-! ## Progress

Every read of a script that has not run out leaves less of it. -/

/-- One for each answer, and two for each byte, which is first read and then used. -/
def scriptWeight : List Reading → Nat
  | [] => 0
  | .data bytes :: rest => 2 * bytes.length + 1 + scriptWeight rest
  | .failure _ :: rest => 1 + scriptWeight rest

def weight (source : Source) : Nat := scriptWeight source.script

theorem read_of_script_eq_nil {capacity : Nat} {source : Source}
    (exhausted : source.script = []) :
    source.read capacity = (lastReading source.afterwards, source) := by
  rw [read, exhausted]

theorem weight_read_lt {capacity : Nat} (positive : 0 < capacity) {source : Source}
    (remaining : source.script ≠ []) :
    (source.read capacity).2.weight + (source.read capacity).1.bytes.length <
      source.weight := by
  rcases source with ⟨script, afterwards⟩
  match script with
  | [] => exact absurd rfl remaining
  | .failure cause :: rest =>
      simp only [read, weight, scriptWeight, Reading.bytes, List.length_nil]
      omega
  | .data bytes :: rest =>
      by_cases fits : bytes.length ≤ capacity
      · simp only [read, if_pos fits, weight, scriptWeight, Reading.bytes]
        omega
      · simp only [read, if_neg fits, weight, scriptWeight, Reading.bytes,
          List.length_take, List.length_drop]
        omega

end Source

end PanelLink
