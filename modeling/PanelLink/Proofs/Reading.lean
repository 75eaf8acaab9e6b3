import PanelLink.Inlet
import PanelLink.Proofs.Encoding

/-!
What an inlet gives is fixed by what its line brings. Its results are the frames and
errors that the bytes bring about in one receiver, and in between, where they happen, the
failures of the line. How the bytes are cut into readings makes no difference.
-/

namespace PanelLink

/-! ## Frames in a run of bytes -/

namespace Receiver

/-- The frames in a run of bytes, and the errors in place of those that are lost. -/
def frames (receiver : Receiver) (bytes : Bytes) : List (Except FrameError Frame) :=
  (receiver.outcomes bytes).map frameOf

@[simp] theorem frames_nil (receiver : Receiver) : receiver.frames [] = [] := rfl

theorem frames_cons (receiver : Receiver) (byte : UInt8) (rest : Bytes) :
    receiver.frames (byte :: rest) =
      (receiver.feed byte).1.toList.map frameOf ++
        (receiver.feed byte).2.frames rest := by
  cases fed : (receiver.feed byte).1 <;> simp [frames, outcomes, trace, fed]

theorem frames_append (receiver : Receiver) (first second : Bytes) :
    receiver.frames (first ++ second) =
      receiver.frames first ++ (receiver.run first).frames second := by
  simp [frames, outcomes_append]

end Receiver

/-! ## Single reads -/

namespace Source

/-- What a read can take from a script: its first answer, or only the front of the bytes
there. -/
inductive Taken : List Reading → Reading → List Reading → Prop where
  | whole (reading : Reading) (rest : List Reading) : Taken (reading :: rest) reading rest
  | front {taken left : Bytes} (rest : List Reading) (nonempty : taken ≠ [])
      (more : left ≠ []) :
      Taken (.data (taken ++ left) :: rest) (.data taken) (.data left :: rest)

theorem read_of_script_ne_nil {capacity : Nat} {source : Source} (positive : 0 < capacity)
    (remaining : source.script ≠ []) :
    ∃ reading rest, source.read capacity = (reading, { source with script := rest }) ∧
      Taken source.script reading rest := by
  rcases source with ⟨script, afterwards⟩
  match script with
  | [] => exact absurd rfl remaining
  | .failure cause :: rest => exact ⟨.failure cause, rest, rfl, .whole _ _⟩
  | .data bytes :: rest =>
      by_cases fits : bytes.length ≤ capacity
      · exact ⟨.data bytes, rest, by simp [read, fits], .whole _ _⟩
      · refine ⟨.data (bytes.take capacity), .data (bytes.drop capacity) :: rest,
          by simp [read, fits], ?_⟩
        have taken : bytes.take capacity ≠ [] := by
          simp only [ne_eq, List.take_eq_nil_iff]
          rintro (none | none)
          · omega
          · simp [none] at fits
        have left : bytes.drop capacity ≠ [] := by
          simp only [ne_eq, List.drop_eq_nil_iff]
          exact fits
        simpa using Taken.front rest taken left

theorem afterwards_read (capacity : Nat) (source : Source) :
    (source.read capacity).2.afterwards = source.afterwards := by
  unfold read
  split
  · rfl
  · rfl
  · split <;> rfl

end Source

/-! ## The results that a script leads to -/

namespace Receiver

def answer (receiver : Receiver) : Reading → List (Except FrameError Frame)
  | .data [] => [.error .closed]
  | .data (first :: rest) => receiver.frames (first :: rest)
  | .failure cause => if cause.isInterrupted then [] else [.error (.transfer cause)]

/-- The results that a script leads to. Each reading finds the receiver as the bytes
before it left it. -/
def answers (receiver : Receiver) : List Reading → List (Except FrameError Frame)
  | [] => []
  | reading :: rest =>
      receiver.answer reading ++ (receiver.run reading.bytes).answers rest

theorem answer_data {bytes : Bytes} (receiver : Receiver) (nonempty : bytes ≠ []) :
    receiver.answer (.data bytes) = receiver.frames bytes := by
  cases bytes with
  | nil => exact absurd rfl nonempty
  | cons first rest => rfl

theorem answer_eq (receiver : Receiver) (reading : Reading) :
    receiver.answer reading =
      ((Inlet.endingOf reading).map Except.error).toList ++
        receiver.frames reading.bytes := by
  match reading with
  | .data [] => rfl
  | .data (first :: rest) => rfl
  | .failure cause =>
      rw [answer, Inlet.endingOf]
      split <;> rfl

theorem answers_of_taken {script rest : List Reading} {reading : Reading}
    (receiver : Receiver) (taken : Source.Taken script reading rest) :
    receiver.answers script =
      receiver.answer reading ++ (receiver.run reading.bytes).answers rest := by
  cases taken with
  | whole reading rest => rfl
  | @front taken left rest nonempty more =>
      have whole : taken ++ left ≠ [] := by simp [nonempty]
      rw [answers, answers, answer_data receiver whole, answer_data receiver nonempty,
        answer_data _ more, frames_append]
      simp [Reading.bytes, run_append]

end Receiver

namespace Source

def lastError : Afterwards → FrameError
  | .closed => .closed
  | .silent => .transfer ⟨.timedOut, "Operation timed out"⟩

end Source

namespace Inlet

theorem endingOf_lastReading (afterwards : Afterwards) :
    endingOf (Source.lastReading afterwards) = some (Source.lastError afterwards) := by
  cases afterwards <;> rfl

def calls (inlet : Inlet) : (count : Nat) → List (Except FrameError Frame)
  | 0 => []
  | count + 1 => inlet.receive.1 :: inlet.receive.2.calls count

def forecast (inlet : Inlet) : List (Except FrameError Frame) :=
  inlet.receiver.frames inlet.pending ++
    (inlet.receiver.run inlet.pending).answers inlet.source.script

/-! ### Turns -/

theorem forecast_of_exhausted {inlet : Inlet} (empty : inlet.pending = [])
    (exhausted : inlet.source.script = []) : inlet.forecast = [] := by
  rw [forecast, empty, exhausted]
  rfl

theorem turn_of_empty {inlet : Inlet} (empty : inlet.pending = []) :
    inlet.turn =
      ((endingOf (inlet.source.read chunkSize).1).map .error,
        { inlet with
          pending := (inlet.source.read chunkSize).1.bytes
          source := (inlet.source.read chunkSize).2 }) := by
  rcases inlet with ⟨receiver, pending, source⟩
  cases empty
  rfl

theorem afterwards_turn (inlet : Inlet) :
    inlet.turn.2.source.afterwards = inlet.source.afterwards := by
  rcases inlet with ⟨receiver, pending, source⟩
  cases pending with
  | nil => exact source.afterwards_read chunkSize
  | cons byte rest => rfl

/-- A turn gives a result or nothing, and in either case the results after it are those
that were still to come. -/
theorem forecast_turn {inlet : Inlet}
    (remaining : inlet.pending = [] → inlet.source.script ≠ []) :
    inlet.forecast = inlet.turn.1.toList ++ inlet.turn.2.forecast := by
  rcases inlet with ⟨receiver, pending, source⟩
  cases pending with
  | cons byte rest =>
      rw [forecast, Receiver.frames_cons, List.append_assoc, ← Option.toList_map]
      rfl
  | nil =>
      have script : source.script ≠ [] := remaining rfl
      rcases Source.read_of_script_ne_nil (by decide : 0 < chunkSize) script with
        ⟨reading, rest, read, taken⟩
      rw [turn_of_empty rfl, read, forecast, forecast, Receiver.frames_nil,
        List.nil_append, Receiver.run, receiver.answers_of_taken taken,
        Receiver.answer_eq, List.append_assoc]

theorem receive_forecast (inlet : Inlet) :
    inlet.receive.1 =
      inlet.forecast.headD (.error (Source.lastError inlet.source.afterwards)) ∧
      inlet.receive.2.forecast = inlet.forecast.tail ∧
      inlet.receive.2.source.afterwards = inlet.source.afterwards := by
  fun_induction receive inlet with
  | case1 inlet result later ended =>
      have same := inlet.afterwards_turn
      rw [ended] at same
      by_cases finished : inlet.pending = [] ∧ inlet.source.script = []
      · rw [turn_of_exhausted finished.1 finished.2, endingOf_lastReading] at ended
        cases ended
        rw [forecast_of_exhausted finished.1 finished.2]
        exact ⟨rfl, rfl, rfl⟩
      · have coming := forecast_turn fun empty exhausted => finished ⟨empty, exhausted⟩
        rw [coming, ended]
        exact ⟨rfl, rfl, same⟩
  | case2 inlet next went induction =>
      have same := inlet.afterwards_turn
      have coming := forecast_turn (remaining_of_turn went)
      rw [went] at same coming
      rw [coming, ← same]
      exact induction

theorem calls_eq (inlet : Inlet) (count : Nat) :
    inlet.calls count =
      (inlet.forecast ++ List.replicate count
        (Except.error (Source.lastError inlet.source.afterwards))).take count := by
  induction count generalizing inlet with
  | zero => rfl
  | succ count induction =>
      rcases inlet.receive_forecast with ⟨head, tail, same⟩
      rw [calls, induction, head, tail, same]
      cases inlet.forecast with
      | nil => simp [List.replicate_succ]
      | cons result rest =>
          have enough :
              min (count - rest.length) count =
                min (count - rest.length) (count + 1) := by
            omega
          rw [List.headD_cons, List.tail_cons, List.cons_append, List.take_succ_cons,
            List.take_append, List.take_append, List.take_replicate, List.take_replicate,
            enough]

end Inlet

/-! ## Results that the bytes decide -/

def Inlet.isDecoded : Except FrameError Frame → Bool
  | .error (.transfer _) | .error .closed => false
  | _ => true

theorem Inlet.isDecoded_error (error : FrameError) :
    isDecoded (.error error) = error.recoverable := by
  cases error <;> rfl

namespace Receiver

theorem isDecoded_frameOf {outcome : Outcome}
    (recoverable : ∀ error, outcome = .error error → error.recoverable = true) :
    Inlet.isDecoded (frameOf outcome) = true := by
  cases outcome with
  | error error =>
      rw [frameOf, Except.bind, Inlet.isDecoded_error]
      exact recoverable error rfl
  | ok payload =>
      cases opened : Frame.ofPayload payload with
      | ok frame => simp [frameOf, Except.bind, opened, Inlet.isDecoded]
      | error error =>
          simp [frameOf, Except.bind, opened, Inlet.isDecoded_error,
            Frame.recoverable_of_ofPayload opened]

theorem feed_eq_some {receiver later : Receiver} {byte : UInt8} {outcome : Outcome}
    (fed : receiver.feed byte = (some outcome, later)) :
    outcome = .error (.oversize receiver.limit) ∨
      minimumSegment ≤ receiver.buffer.length ∧
      outcome = Escape.decode receiver.buffer := by
  unfold feed at fed
  split at fed
  · cases fed
  · split at fed
    · right
      simp only [complete, Prod.mk.injEq] at fed
      split at fed
      · cases fed.1
      · rename_i long
        exact ⟨Nat.le_of_not_lt long, (Option.some.inj fed.1).symm⟩
    · split at fed
      · cases fed
        exact .inl rfl
      · cases fed

theorem isDecoded_of_feed {receiver later : Receiver} {byte : UInt8} {outcome : Outcome}
    (fed : receiver.feed byte = (some outcome, later)) :
    Inlet.isDecoded (frameOf outcome) = true := by
  apply isDecoded_frameOf
  intro error failed
  rcases feed_eq_some fed with oversize | ⟨_, decoded⟩
  · cases failed.symm.trans oversize
    rfl
  · exact Escape.recoverable_of_decode (decoded.symm.trans failed)

theorem isDecoded_of_mem_frames {receiver : Receiver} {bytes : Bytes}
    {result : Except FrameError Frame} (member : result ∈ receiver.frames bytes) :
    Inlet.isDecoded result = true := by
  induction bytes generalizing receiver with
  | nil => cases member
  | cons byte rest induction =>
      rw [frames_cons] at member
      rcases List.mem_append.mp member with now | later
      · rcases List.mem_map.mp now with ⟨outcome, brought, rfl⟩
        have fed : (receiver.feed byte).1 = some outcome := Option.mem_toList.mp brought
        exact isDecoded_of_feed (Prod.ext fed rfl)
      · exact induction later

theorem filter_isDecoded_answer (receiver : Receiver) (reading : Reading) :
    (receiver.answer reading).filter Inlet.isDecoded = receiver.frames reading.bytes := by
  match reading with
  | .data [] => rfl
  | .data (first :: rest) =>
      exact List.filter_eq_self.mpr fun _ member => isDecoded_of_mem_frames member
  | .failure cause =>
      rw [answer]
      split <;> rfl

/-- However a script cuts the bytes and whatever fails in between, they bring about the
same frames. -/
theorem filter_isDecoded_answers (receiver : Receiver) (script : List Reading) :
    (receiver.answers script).filter Inlet.isDecoded =
      receiver.frames (script.flatMap Reading.bytes) := by
  induction script generalizing receiver with
  | nil => rfl
  | cons reading rest induction =>
      rw [answers, List.filter_append, filter_isDecoded_answer, induction,
        List.flatMap_cons, frames_append]

end Receiver

namespace Inlet

theorem forecast_start (limit : Nat) (source : Source) :
    (start limit source).forecast = (Receiver.start limit).answers source.script := rfl

/-- Called for frames over and over, an inlet answers each reading of the script in turn,
and from then on finds the line closed. All results but the failures of the line are the
frames of the bytes joined together: none is lost, none comes twice, and the pieces in
which the bytes arrive make no difference. -/
theorem calls_start_eq (limit : Nat) (script : List Reading) :
    let inlet := start limit { script }
    let results := (Receiver.start limit).answers script
    let decoded := (Receiver.start limit).frames (script.flatMap Reading.bytes)
    (∀ count, inlet.calls count =
        (results ++ List.replicate count (Except.error FrameError.closed)).take count) ∧
      (∀ count, (inlet.calls count).filter isDecoded <+: decoded) ∧
      ∀ more, (inlet.calls (results.length + more)).filter isDecoded = decoded := by
  intro inlet results decoded
  have called (count : Nat) : inlet.calls count =
      (results ++ List.replicate count (Except.error FrameError.closed)).take count :=
    calls_eq inlet count
  have filtered (count : Nat) :
      (results ++ List.replicate count (Except.error FrameError.closed)).filter
        isDecoded = decoded := by
    rw [List.filter_append, Receiver.filter_isDecoded_answers,
      List.filter_replicate_of_neg]
    · exact List.append_nil decoded
    · exact Bool.false_ne_true
  refine ⟨called, ?_, ?_⟩
  · intro count
    rw [called, ← filtered count]
    exact (List.take_prefix _ _).filter isDecoded
  · intro more
    have enough : min more (results.length + more) = more := by omega
    rw [called, List.take_length_add_append, List.take_replicate, enough, filtered more]

example :
    (Receiver.start 512).answers [.data [0xC0, 0x40], .failure (.ofKind .interrupted),
      .failure (.ofKind .timedOut), .data [0x48], .data [], .data [0xC4, 0xC0]] =
      [.error (.transfer (.ofKind .timedOut)), .error .closed,
        .ok (.ofContent [0x40])] := rfl

end Inlet

end PanelLink
