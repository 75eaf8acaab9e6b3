import PanelLink.Proofs.Noise
import PanelLink.Proofs.Remainder

/-!
A stream is a row of segments, each ended by a boundary, with some bytes behind the last
of them. A receiver takes one segment after the other, so that each result of an inlet is
that of a single segment or of the line. A segment long enough for a frame never unescapes
to less than a checksum, and not to the empty content with its checksum either, since
those two bytes need no escaping.
-/

namespace PanelLink

/-! ## Segments of a stream -/

@[elab_as_elim]
theorem Escape.segment_induction {motive : Bytes → Prop}
    (last : ∀ bytes, endByte ∉ bytes → motive bytes)
    (ended : ∀ segment rest, endByte ∉ segment → motive rest →
      motive (segment ++ [endByte] ++ rest))
    (bytes : Bytes) : motive bytes := by
  by_cases broken : endByte ∈ bytes
  · rcases List.eq_append_cons_of_mem broken with ⟨segment, rest, split, unbroken⟩
    have shorter : rest.length < bytes.length := by
      rw [split, List.length_append, List.length_cons]
      omega
    have whole := ended segment rest unbroken (segment_induction last ended rest)
    rwa [List.append_assoc, List.singleton_append, ← split] at whole
  · exact last bytes broken
termination_by bytes.length
decreasing_by exact shorter

namespace Receiver

theorem frames_unbroken (limit : Nat) {bytes : Bytes}
    (unbroken : Escape.endByte ∉ bytes) :
    (start limit).frames bytes =
      if bytes.length ≤ limit then [] else [.error (.oversize limit)] := by
  rw [frames, outcomes_start limit unbroken]
  split <;> rfl

/-- A segment comes to an error where it outgrows the limit, to nothing if it is short,
and else to what it unescapes to. -/
theorem frames_segment_cases (limit : Nat) {segment : Bytes}
    (unbroken : Escape.endByte ∉ segment) :
    (limit < segment.length ∧
        (start limit).frames (segment ++ [Escape.endByte]) = [.error (.oversize limit)]) ∨
      (segment.length < 3 ∧
        (start limit).frames (segment ++ [Escape.endByte]) = []) ∨
      (3 ≤ segment.length ∧ segment.length ≤ limit ∧
        (start limit).frames (segment ++ [Escape.endByte]) =
          [frameOf (Escape.decode segment)]) := by
  rcases Nat.lt_or_ge limit segment.length with beyond | within
  · left
    refine ⟨beyond, ?_⟩
    rw [frames, outcomes_segment limit unbroken, if_neg (Nat.not_le_of_lt beyond),
      verdict, if_pos beyond]
    rfl
  · right
    rcases Nat.lt_or_ge segment.length 3 with short | long
    · left
      refine ⟨short, ?_⟩
      rw [frames_segment unbroken within, verdict, if_neg (Nat.not_lt_of_le within),
        if_pos short]
      rfl
    · right
      exact ⟨long, within, frames_long_segment unbroken within long⟩

end Receiver

/-! ## Possible results -/

inductive Inlet.Possible (limit : Nat) : Except FrameError Frame → Prop where
  | frame {frame : Frame} (nonempty : frame.content ≠ [])
      (fits : frame.checksum = checksum frame.content) : Possible limit (.ok frame)
  | truncatedEscape : Possible limit (.error .truncatedEscape)
  | invalidEscape (byte : UInt8) : Possible limit (.error (.invalidEscape byte))
  | checksumMismatch {computed received : UInt16} (different : computed ≠ received) :
      Possible limit (.error (.checksumMismatch computed received))
  | oversize : Possible limit (.error (.oversize limit))
  | transfer {cause : Failure} (lasting : cause.kind ≠ .interrupted) :
      Possible limit (.error (.transfer cause))
  | closed : Possible limit (.error .closed)

theorem Checksum.check_error_cases {payload : Bytes} {error : FrameError}
    (long : width ≤ payload.length) (failed : check payload = .error error) :
    ∃ computed received, computed ≠ received ∧
    error = .checksumMismatch computed received := by
  rcases exists_eq_append_pair long with ⟨content, high, low, rfl⟩
  rw [check_append_pair] at failed
  split at failed
  · cases failed
  · rename_i different
    cases failed
    exact ⟨_, _, different, rfl⟩

namespace Receiver

theorem length_payload_of_segment {segment payload : Bytes} (long : 3 ≤ segment.length)
    (decoded : Escape.decode segment = .ok payload) :
    Checksum.width ≤ payload.length := by
  have doubled := Escape.length_body_le payload
  rw [← Escape.eq_body_of_decode decoded] at doubled
  rw [Checksum.width]
  omega

theorem content_ne_nil_of_segment {segment : Bytes} {frame : Frame}
    (long : 3 ≤ segment.length)
    (decoded : Escape.decode segment = .ok (Checksum.append frame.content)) :
    frame.content ≠ [] := by
  intro empty
  have written : segment = [0, 0] := by
    rw [Escape.eq_body_of_decode decoded, empty]
    rfl
  rw [written] at long
  exact absurd long (by decide)

theorem possible_frameOf_decode (limit : Nat) {segment : Bytes}
    (unbroken : Escape.endByte ∉ segment) (long : 3 ≤ segment.length) :
    Inlet.Possible limit (frameOf (Escape.decode segment)) := by
  cases decoded : Escape.decode segment with
  | error error =>
      rcases Escape.decode_error_cases unbroken decoded with rfl | ⟨byte, rfl⟩
      · exact .truncatedEscape
      · exact .invalidEscape byte
  | ok payload =>
      rw [frameOf, Except.bind]
      cases opened : Frame.ofPayload payload with
      | error error =>
          have failed := eq_error_of_map_eq_error opened
          rcases Checksum.check_error_cases (length_payload_of_segment long decoded)
            failed with
            ⟨computed, received, different, rfl⟩
          exact .checksumMismatch different
      | ok frame =>
          rcases Frame.eq_of_ofPayload opened with ⟨rfl, genuine⟩
          apply Inlet.Possible.frame
          · exact content_ne_nil_of_segment long decoded
          · exact congrArg Frame.checksum genuine

theorem possible_of_mem_frames {limit : Nat} {bytes : Bytes}
    {result : Except FrameError Frame} (member : result ∈ (start limit).frames bytes) :
    Inlet.Possible limit result := by
  induction bytes using Escape.segment_induction with
  | last bytes unbroken =>
      rw [frames_unbroken limit unbroken] at member
      split at member
      · cases member
      · rw [List.mem_singleton.mp member]
        exact .oversize
  | ended segment rest unbroken induction =>
      rw [frames_append_endByte_append] at member
      rcases List.mem_append.mp member with here | later
      · rcases frames_segment_cases limit unbroken with
          ⟨_, reported⟩ | ⟨_, silent⟩ | ⟨long, _, closed⟩
        · rw [reported] at here
          rw [List.mem_singleton.mp here]
          exact .oversize
        · rw [silent] at here
          cases here
        · rw [closed] at here
          rw [List.mem_singleton.mp here]
          exact possible_frameOf_decode limit unbroken long
      · exact induction later

theorem possible_of_mem_answers_of_not_isDecoded {limit : Nat} {receiver : Receiver}
    {script : List Reading} {result : Except FrameError Frame}
    (member : result ∈ receiver.answers script)
    (undecoded : Inlet.isDecoded result = false) : Inlet.Possible limit result := by
  induction script generalizing receiver with
  | nil => cases member
  | cons reading rest induction =>
      rcases List.mem_append.mp member with here | later
      · match reading with
        | .data [] =>
            rw [List.mem_singleton.mp here]
            exact .closed
        | .data (first :: others) =>
            rw [isDecoded_of_mem_frames here] at undecoded
            cases undecoded
        | .failure cause =>
            rw [answer] at here
            split at here
            · cases here
            · rename_i lasting
              rw [List.mem_singleton.mp here]
              exact .transfer (by simpa [Failure.isInterrupted] using lasting)
      · exact induction later

theorem possible_of_mem_answers {limit : Nat} {script : List Reading}
    {result : Except FrameError Frame} (member : result ∈ (start limit).answers script) :
    Inlet.Possible limit result := by
  cases decoded : Inlet.isDecoded result with
  | false => exact possible_of_mem_answers_of_not_isDecoded member decoded
  | true =>
      have among : result ∈ ((start limit).answers script).filter Inlet.isDecoded :=
        List.mem_filter.mpr ⟨member, decoded⟩
      rw [filter_isDecoded_answers] at among
      exact possible_of_mem_frames among

end Receiver

namespace Inlet

theorem possible_lastError (limit : Nat) (afterwards : Afterwards) :
    Possible limit (.error (Source.lastError afterwards)) := by
  cases afterwards with
  | closed => exact .closed
  | silent => exact .transfer (by decide)

theorem mem_calls {inlet : Inlet} {count : Nat} {result : Except FrameError Frame}
    (member : result ∈ inlet.calls count) :
    result ∈ inlet.forecast ∨
    result = .error (Source.lastError inlet.source.afterwards) := by
  rw [calls_eq] at member
  rcases List.mem_append.mp (List.mem_of_mem_take member) with coming | last
  · exact .inl coming
  · exact .inr (List.eq_of_mem_replicate last)

/-- Whatever the line does, an inlet gives frames with a content and its own checksum,
errors of escaping, of the checksum or of the size, and lasting failures of the line. It
never gives a frame without a content, a payload too short for a checksum or a boundary
inside one. -/
theorem calls_possible (limit : Nat) (source : Source) (count : Nat) :
    let results := (start limit source).calls count
    (∀ result ∈ results, Possible limit result) ∧
      (∀ length minimum, .error (.shortFrame length minimum) ∉ results) ∧
      .error .strayEnd ∉ results ∧
      ∀ value, .ok ⟨[], value⟩ ∉ results := by
  intro results
  have possible : ∀ result ∈ results, Possible limit result := by
    intro result member
    rcases mem_calls member with coming | rfl
    · rw [forecast_start] at coming
      exact Receiver.possible_of_mem_answers coming
    · exact possible_lastError limit source.afterwards
  refine ⟨possible, ?_, ?_, ?_⟩
  · intro length minimum member
    cases possible _ member
  · intro member
    cases possible _ member
  · intro value member
    cases possible _ member with
    | frame nonempty => exact nonempty rfl

/-- Each kind of result once. The second segment is long enough, but two of its bytes are
an escape pair, so that nothing but a checksum is left of it. -/
theorem calls_possible_each :
    let source : Source := { script := [.failure (.ofKind .interrupted),
      .data [0xC0, 0x40, 0x48, 0xC4, 0xC0, 0xDB, 0xDC, 0x00, 0xC0],
      .data [1, 2, 0xDB, 0xC0, 0xDB],
      .data [1, 2, 0xC0, 1, 2, 3, 4, 5, 6, 0xC0, 0x00, 0x00, 0xC0],
      .failure (.ofKind .timedOut)] }
    let results : List (Except FrameError Frame) := [.ok (.ofContent [0x40]),
      .error (.checksumMismatch 0x0000 0xC000), .error .truncatedEscape,
      .error (.invalidEscape 1), .error (.oversize 5),
      .error (.transfer (.ofKind .timedOut)), .error .closed]
    (start 5 source).calls 7 = results ∧ ∀ result ∈ results, Possible 5 result := by
  intro source results
  have called : (start 5 source).calls 7 = results := by
    rw [calls_eq]
    decide +kernel
  refine ⟨called, ?_⟩
  rw [← called]
  exact (calls_possible 5 source 7).1

end Inlet

end PanelLink
