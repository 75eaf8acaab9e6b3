import PanelLink.BufferCodec
import PanelLink.Proofs.Draining

/-!
A buffer codec and an inlet make the same of the same bytes. However pushes, decodes and
encodes are mixed, what has been decoded and what is still to come of the bytes held are
together what all the bytes pushed lead to.
-/

namespace PanelLink

/-! ## The next frame -/

namespace Receiver

theorem nextFrame_eq_none {receiver later : Receiver} {bytes left : Bytes}
    (found : receiver.nextFrame bytes = (none, later, left)) :
    receiver.frames bytes = [] ∧ receiver.run bytes = later := by
  fun_induction nextFrame receiver bytes with
  | case1 receiver =>
      cases found
      exact ⟨rfl, rfl⟩
  | case2 => cases found
  | case3 receiver byte rest fed feeding induction =>
      rcases induction found with ⟨nothing, running⟩
      rw [frames_cons, run, feeding]
      exact ⟨nothing, running⟩

theorem nextFrame_leaves_nothing {receiver later : Receiver} {bytes left : Bytes}
    (found : receiver.nextFrame bytes = (none, later, left)) : left = [] := by
  fun_induction nextFrame receiver bytes with
  | case1 receiver =>
      cases found
      rfl
  | case2 => cases found
  | case3 receiver byte rest fed feeding induction => exact induction found

theorem nextFrame_eq_some {receiver later : Receiver} {bytes left : Bytes}
    {result : Except FrameError Frame}
    (found : receiver.nextFrame bytes = (some result, later, left)) :
    receiver.frames bytes = result :: later.frames left ∧
      receiver.run bytes = later.run left := by
  fun_induction nextFrame receiver bytes with
  | case1 => cases found
  | case2 receiver byte rest outcome fed feeding =>
      cases found
      rw [frames_cons, run, feeding]
      exact ⟨rfl, rfl⟩
  | case3 receiver byte rest fed feeding induction =>
      rcases induction found with ⟨first, running⟩
      rw [frames_cons, run, feeding]
      exact ⟨first, running⟩

end Receiver

namespace BufferCodec

/-! ## Schedules -/

inductive Operation where
  | push (bytes : Bytes)
  | decode
  | encode (content : Bytes)
deriving DecidableEq, Repr

namespace Operation

def bytes : Operation → Bytes
  | push bytes => bytes
  | _ => []

def isEncode : Operation → Bool
  | encode _ => true
  | _ => false

end Operation

def pushed (operations : List Operation) : Bytes := operations.flatMap Operation.bytes

def perform (codec : BufferCodec) : Operation → BufferCodec
  | .push bytes => codec.push bytes
  | .decode => codec.decode.2
  | .encode content => (codec.encode content).2

def performAll (codec : BufferCodec) : List Operation → BufferCodec
  | [] => codec
  | operation :: rest => (codec.perform operation).performAll rest

def answer (codec : BufferCodec) : Operation → List (Option (Except FrameError Frame))
  | .decode => [codec.decode.1]
  | _ => []

def decodes (codec : BufferCodec) :
    List Operation → List (Option (Except FrameError Frame))
  | [] => []
  | operation :: rest => codec.answer operation ++ (codec.perform operation).decodes rest

theorem performAll_append (codec : BufferCodec) (first second : List Operation) :
    codec.performAll (first ++ second) = (codec.performAll first).performAll second := by
  induction first generalizing codec with
  | nil => rfl
  | cons operation rest induction => exact induction _

/-! ## Decoding -/

theorem decode_cases (codec : BufferCodec) :
    (codec.decode.1 = none ∧ codec.decode.2.arriving = [] ∧
      codec.receiver.frames codec.arriving = [] ∧
      codec.receiver.run codec.arriving = codec.decode.2.receiver) ∨
    ∃ result, codec.decode.1 = some result ∧
      codec.receiver.frames codec.arriving =
        result :: codec.decode.2.receiver.frames codec.decode.2.arriving ∧
      codec.receiver.run codec.arriving =
        codec.decode.2.receiver.run codec.decode.2.arriving := by
  cases found : codec.receiver.nextFrame codec.arriving with
  | mk outcome rest =>
      rcases rest with ⟨later, left⟩
      simp only [decode, found]
      cases outcome with
      | none =>
          left
          rcases Receiver.nextFrame_eq_none found with ⟨nothing, running⟩
          exact ⟨rfl, Receiver.nextFrame_leaves_nothing found, nothing, running⟩
      | some result =>
          right
          rcases Receiver.nextFrame_eq_some found with ⟨first, running⟩
          exact ⟨result, rfl, first, running⟩

theorem arriving_decode_of_eq_none {codec : BufferCodec}
    (nothing : codec.decode.1 = none) : codec.decode.2.arriving = [] := by
  rcases codec.decode_cases with ⟨_, empty, _⟩ | ⟨result, something, _⟩
  · exact empty
  · rw [nothing] at something
    cases something

theorem decodeLast_eq (codec : BufferCodec) :
    codec.decodeLast = (.ok codec.decode.1, codec.decode.2) := by
  rcases codec.decode_cases with ⟨nothing, empty, _⟩ | ⟨result, something, _⟩
  · have decoded : codec.decode = (none, codec.decode.2) := Prod.ext nothing rfl
    rw [decodeLast, decoded]
    simp [empty]
  · have decoded : codec.decode = (some result, codec.decode.2) := Prod.ext something rfl
    rw [decodeLast, decoded]

theorem encode_eq (content : Bytes) (codec : BufferCodec) :
    (codec.encode content).2 =
      { codec with leaving := (codec.encode content).2.leaving } := by
  simp only [encode]
  split <;> rfl

theorem receiver_encode (content : Bytes) (codec : BufferCodec) :
    (codec.encode content).2.receiver = codec.receiver := by
  rw [encode_eq]

theorem arriving_encode (content : Bytes) (codec : BufferCodec) :
    (codec.encode content).2.arriving = codec.arriving := by
  rw [encode_eq]

/-! ## What is decoded and what is to come -/

/-- An operation takes nothing from what the bytes lead to, and adds to it only by its own
bytes. -/
theorem frames_perform (codec : BufferCodec) (operation : Operation) (rest : Bytes) :
    (codec.answer operation).filterMap id ++
        (codec.perform operation).receiver.frames
          ((codec.perform operation).arriving ++ rest) =
      codec.receiver.frames (codec.arriving ++ (operation.bytes ++ rest)) := by
  cases operation with
  | push bytes => simp [answer, perform, push, Operation.bytes]
  | encode content =>
      simp [answer, perform, Operation.bytes, receiver_encode, arriving_encode]
  | decode =>
      rcases codec.decode_cases with
        ⟨nothing, empty, silent, running⟩ | ⟨result, something, first, running⟩
      · simp [answer, perform, Operation.bytes, nothing, empty, Receiver.frames_append,
          silent, running]
      · simp [answer, perform, Operation.bytes, something, Receiver.frames_append, first,
          running]

theorem frames_performAll (codec : BufferCodec) (operations : List Operation) :
    (codec.decodes operations).filterMap id ++
        (codec.performAll operations).receiver.frames
          (codec.performAll operations).arriving =
      codec.receiver.frames (codec.arriving ++ pushed operations) := by
  induction operations generalizing codec with
  | nil => simp [decodes, performAll, pushed]
  | cons operation rest induction =>
      rw [decodes, performAll, List.filterMap_append, List.append_assoc, induction,
        frames_perform]
      rfl

theorem frames_performAll_of_exhausted {codec : BufferCodec}
    {before after : List Operation}
    (exhausted : (codec.performAll before).decode.1 = none) (quiet : pushed after = []) :
    let later := codec.performAll (before ++ .decode :: after)
    later.receiver.frames later.arriving = [] := by
  intro later
  have split : later = ((codec.performAll before).perform .decode).performAll after :=
    performAll_append codec before (.decode :: after)
  have conserved := frames_performAll ((codec.performAll before).perform .decode) after
  rw [← split, quiet, perform, arriving_decode_of_eq_none exhausted] at conserved
  exact (List.append_eq_nil_iff.mp conserved).2

/-! ## Encoding on the side -/

theorem decodes_encode_cons (codec : BufferCodec) (content : Bytes)
    (rest : List Operation) :
    codec.decodes (.encode content :: rest) = (codec.encode content).2.decodes rest := rfl

theorem decodes_leaving (codec : BufferCodec) (leaving : Bytes)
    (operations : List Operation) :
    decodes { codec with leaving } operations = codec.decodes operations := by
  induction operations generalizing codec leaving with
  | nil => rfl
  | cons operation rest induction =>
      cases operation with
      | push bytes => exact induction (codec.push bytes) leaving
      | decode =>
          exact congrArg (codec.decode.1 :: ·) (induction codec.decode.2 leaving)
      | encode content =>
          rw [decodes_encode_cons, decodes_encode_cons, encode_eq content codec,
            encode_eq content { codec with leaving }]
          exact (induction codec _).trans (induction codec _).symm

theorem decodes_filter_not_isEncode (codec : BufferCodec) (operations : List Operation) :
    codec.decodes (operations.filter fun operation => !operation.isEncode) =
      codec.decodes operations := by
  induction operations generalizing codec with
  | nil => rfl
  | cons operation rest induction =>
      cases operation with
      | push bytes => exact induction (codec.push bytes)
      | decode => exact congrArg (codec.decode.1 :: ·) (induction codec.decode.2)
      | encode content =>
          rw [decodes_encode_cons, encode_eq]
          exact (induction codec).trans (decodes_leaving codec _ rest).symm

/-! ## The same as an inlet -/

/-- In any schedule of pushes, decodes and encodes, the decodes give in order what an
inlet gives of all the bytes pushed, and have given all of it once one behind the last
push comes to nothing. That one leaves no bytes, so that nothing is ever left over at the
end. Encodes have no influence on any of it. -/
theorem decodes_start (limit : Nat) {operations : List Operation} {source : Source}
    (brings : source.Brings (pushed operations)) :
    let codec := (start limit).performAll operations
    let results := ((start limit).decodes operations).filterMap id
    let reading := (Inlet.start limit source).drain
    reading.2 = .error .closed ∧
      results <+: reading.1 ∧
      (∀ before after, operations = before ++ .decode :: after → pushed after = [] →
        ((start limit).performAll before).decode.1 = none → results = reading.1) ∧
      (codec.decode.1 = none → codec.decode.2.arriving = []) ∧
      codec.decodeLast = (.ok codec.decode.1, codec.decode.2) ∧
      (∀ content, (codec.encode content).2.arriving = codec.arriving) ∧
      (start limit).decodes (operations.filter fun operation => !operation.isEncode) =
        (start limit).decodes operations := by
  intro codec results reading
  have read :
      reading = ((Receiver.start limit).frames (pushed operations), .error .closed) :=
    Inlet.drain_of_brings brings
  have conserved : results ++ codec.receiver.frames codec.arriving = reading.1 := by
    rw [read]
    exact frames_performAll (start limit) operations
  refine ⟨by rw [read], ⟨_, conserved⟩, ?_, arriving_decode_of_eq_none,
    codec.decodeLast_eq, fun content => arriving_encode content codec,
    decodes_filter_not_isEncode _ operations⟩
  intro before after split quiet exhausted
  have nothing := frames_performAll_of_exhausted exhausted quiet
  rw [← split] at nothing
  rw [← conserved, nothing, List.append_nil]

theorem decodes_start_in_pieces :
    let operations : List Operation := [.push [0xC0, 0x40], .decode, .encode [0xDB],
      .push [0x48, 0xC4, 0xC0, 1, 2, 0xDB, 0xC0], .decode, .decode, .decode, .encode []]
    let source : Source :=
      { script := [.data [0xC0, 0x40, 0x48, 0xC4], .data [0xC0, 1, 2, 0xDB, 0xC0]] }
    source.Brings (pushed operations) ∧
      (start 8).decodes operations =
        [none, some (.ok (.ofContent [0x40])), some (.error .truncatedEscape), none] ∧
      (Inlet.start 8 source).drain.1 =
        [.ok (.ofContent [0x40]), .error .truncatedEscape] := by
  intro operations source
  have brings : source.Brings (pushed operations) := by
    refine ⟨source.script.map Reading.bytes, ?_, ?_, rfl⟩ <;> decide
  refine ⟨brings, rfl, ?_⟩
  rcases decodes_start 8 brings with ⟨_, _, complete, _⟩
  exact (complete (operations.take 6) [.encode []] rfl rfl rfl).symm

end BufferCodec

end PanelLink
