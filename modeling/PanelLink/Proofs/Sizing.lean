import PanelLink.Proofs.Accepting

/-!
The size of a frame is known before the frame is written. It is counted over the payload
and not measured on the line, and it is counted with the checksum that the frame holds,
while the one on the line is computed. The count is right because each byte adds to it as
many bytes as it is written as, and because no frame is made with a checksum other than
that of its content.
-/

namespace PanelLink

namespace Escape

theorem length_escapeByte (byte : UInt8) :
    (escapeByte byte).length = if byte = endByte || byte = escByte then 2 else 1 := by
  by_cases isEnd : byte = endByte
  · rw [isEnd]
    rfl
  · by_cases isEsc : byte = escByte
    · rw [isEsc]
      rfl
    · simp [escapeByte_of_plain ⟨isEnd, isEsc⟩, isEnd, isEsc]

theorem encodedLength_cons (byte : UInt8) (rest : Bytes) :
    encodedLength (byte :: rest) = (escapeByte byte).length + encodedLength rest := by
  rw [encodedLength, encodedLength, List.countP_cons, List.length_cons, length_escapeByte]
  split <;> omega

theorem length_encode_eq (payload : Bytes) :
    (encode payload).length = encodedLength payload := by
  induction payload with
  | nil => rfl
  | cons byte rest induction =>
      rw [length_encode] at induction
      rw [length_encode, body_cons, List.length_append, encodedLength_cons, ← induction]
      omega

end Escape

namespace Frame

inductive Made : Frame → Prop where
  | ofContent (content : Bytes) : Made (.ofContent content)
  | ofPayload {payload : Bytes} {frame : Frame} (opened : ofPayload payload = .ok frame) :
    Made frame

theorem Made.eq_ofContent {frame : Frame} (made : frame.Made) :
    frame = .ofContent frame.content := by
  cases made with
  | ofContent content => rfl
  | ofPayload opened => exact (eq_of_ofPayload opened).2

theorem wireSize_ofContent (content : Bytes) :
    (ofContent content).wireSize = (encode content).length :=
  (Escape.length_encode_eq _).symm

theorem Made.length_encode {frame : Frame} (made : frame.Made) :
    (encode frame.content).length = frame.wireSize := by
  rw [← wireSize_ofContent, ← made.eq_ofContent]

theorem wireSize_bounds (frame : Frame) :
    frame.content.length + 4 ≤ frame.wireSize ∧
    frame.wireSize ≤ 2 * frame.content.length + 6 := by
  let payload := frame.content ++ Checksum.trailer frame.checksum
  have size : frame.wireSize = (Escape.body payload).length + 2 := by
    rw [← Escape.length_encode, Escape.length_encode_eq]
    rfl
  have length : payload.length = frame.content.length + 2 := List.length_append
  have atLeast := Escape.length_le_length_body payload
  have atMost := Escape.length_body_le payload
  omega

/-- What is announced is what is written. A payload takes as many bytes at the end of any
destination as were counted for it. A frame, made in whichever way, is sent if its size is
within the limit, in exactly so many bytes, and is refused if it is not. A frame that came
out of a payload is the one made of its content. -/
theorem wireSize_written :
    (∀ payload destination : Bytes, (destination ++ Escape.encode payload).length =
        destination.length + Escape.encodedLength payload) ∧
      (∀ frame : Frame, frame.Made →
        frame.content.length + 4 ≤ frame.wireSize ∧
          frame.wireSize ≤ 2 * frame.content.length + 6 ∧
          ∀ outlet : Outlet, outlet.sink.Accepting →
            if fits outlet.limit frame.wireSize then
              ∃ written, written.length = frame.wireSize ∧
              (outlet.sendFrame frame).1 = .ok () ∧
                (outlet.sendFrame frame).2.sink.accepted = outlet.sink.accepted ++ written
            else outlet.sendFrame frame = (.error (.oversize outlet.limit), outlet)) ∧
      ∀ payload frame, ofPayload payload = .ok frame →
      frame = ofContent frame.content := by
  refine ⟨?_, ?_, ?_⟩
  · intro payload destination
    rw [List.length_append, Escape.length_encode_eq]
  · intro frame made
    rcases frame.wireSize_bounds with ⟨atLeast, atMost⟩
    refine ⟨atLeast, atMost, ?_⟩
    intro outlet accepting
    have size := made.length_encode
    rw [← size]
    split
    · rename_i fitting
      rcases outlet.sendEncoded_of_fits accepting fitting with
        ⟨sink, sending, accepted, _⟩
      have sent : outlet.sendFrame frame = (.ok (), { outlet with sink }) := sending
      refine ⟨encode frame.content, rfl, ?_, ?_⟩
      · rw [sent]
      · rw [sent]
        exact accepted
    · rename_i tooLong
      exact Outlet.sendEncoded_of_not_fits (Bool.eq_false_iff.mpr tooLong)
  · intro payload frame opened
    exact (Made.ofPayload opened).eq_ofContent

theorem wireSize_written_escaped :
    let frame : Frame := ⟨[0xC0, 0xDB, 0xA8], 0xDBC8⟩
    let sink : Sink :=
      { writes := [.accept 4, .failure (.ofKind .interrupted), .accept 3],
        calls := [.wrote [0x01]] }
    ofPayload [0xC0, 0xDB, 0xA8, 0xDB, 0xC8] = .ok frame ∧ sink.Accepting ∧
      frame.wireSize = 10 ∧
      ((Outlet.start 8 sink).sendFrame frame).2.sink.accepted.length = 1 + 10 ∧
      (Outlet.start 7 sink).sendFrame frame = (.error (.oversize 7), .start 7 sink) ∧
      frame = ofContent frame.content := by
  intro frame sink
  have opened : ofPayload [0xC0, 0xDB, 0xA8, 0xDB, 0xC8] = .ok frame := by decide +kernel
  have accepting : sink.Accepting := by constructor <;> decide
  have size : frame.wireSize = 10 := by decide +kernel
  rcases wireSize_written with ⟨_, made, same⟩
  rcases made frame (.ofPayload opened) with ⟨_, _, sending⟩
  have reached := sending (.start 8 sink) accepting
  have exceeded := sending (.start 7 sink) accepting
  rw [size, if_pos (by decide)] at reached
  rw [size, if_neg (by decide)] at exceeded
  rcases reached with ⟨written, length, _, accepted⟩
  refine ⟨opened, accepting, size, ?_, exceeded, same _ _ opened⟩
  rw [accepted, List.length_append, length]
  rfl

/-- With a checksum put in by hand the announced size can be wrong. -/
example : (⟨[0x40], 0xC0C0⟩ : Frame).wireSize = 7 ∧ (encode [0x40]).length = 5 := by
  decide +kernel

end Frame

end PanelLink
