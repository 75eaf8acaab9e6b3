import PanelLink.Proofs.Noise
import PanelLink.Proofs.Remainder

/-!
A byte damaged on the line costs its frame and nothing else. It turns an escape pair into
one that stands for nothing, or it changes one byte of the payload, which the checksum
never misses.
-/

namespace PanelLink

/-! ## Places in an escaped text -/

namespace Escape

theorem exists_split_of_lt_length_body {payload : Bytes} {index : Nat}
    (inside : index < (body payload).length) :
    ∃ front byte back offset, payload = front ++ byte :: back ∧
      index = (body front).length + offset ∧ offset < (escapeByte byte).length := by
  induction payload generalizing index with
  | nil => cases inside
  | cons first rest induction =>
      rw [body_cons, List.length_append] at inside
      by_cases here : index < (escapeByte first).length
      · exact ⟨[], first, rest, index, rfl, (Nat.zero_add index).symm, here⟩
      · have later : index - (escapeByte first).length < (body rest).length := by omega
        rcases induction later with ⟨front, byte, back, offset, rfl, position, within⟩
        refine ⟨first :: front, byte, back, offset, rfl, ?_, within⟩
        rw [body_cons, List.length_append]
        omega

theorem getElem?_body (front back : Bytes) {byte : UInt8} {offset : Nat}
    (within : offset < (escapeByte byte).length) :
    (body (front ++ byte :: back))[(body front).length + offset]? =
      (escapeByte byte)[offset]? := by
  rw [body_append, body_cons, List.getElem?_append_right (Nat.le_add_right _ _),
    Nat.add_sub_cancel_left, List.getElem?_append_left within]

theorem set_body (front back : Bytes) {byte : UInt8} {offset : Nat} (other : UInt8)
    (within : offset < (escapeByte byte).length) :
    (body (front ++ byte :: back)).set ((body front).length + offset) other =
      body front ++ ((escapeByte byte).set offset other ++ body back) := by
  rw [body_append, body_cons, List.set_append_right _ _ (Nat.le_add_right _ _),
    Nat.add_sub_cancel_left, List.set_append_left _ _ within]

theorem getLast?_body_ne (payload : Bytes) : (body payload).getLast? ≠ some escByte := by
  rcases List.eq_nil_or_concat payload with rfl | ⟨front, last, rfl⟩
  · simp [body]
  · rw [List.concat_eq_append, body_append]
    rcases escapeByte_cases last with ⟨notEsc, form⟩ | ⟨code, notEsc, form⟩
    · simpa [body, form] using notEsc
    · simpa [body, form] using notEsc

end Escape

/-! ## Damage -/

/-- One byte of a text is received as another. The boundary and the escape byte are
neither hit nor made. -/
structure Damage (text : Bytes) where
  index : Nat
  sent : UInt8
  received : UInt8
  found : text[index]? = some sent
  sent_plain : sent ≠ Escape.endByte ∧ sent ≠ Escape.escByte
  received_plain : received ≠ Escape.endByte ∧ received ≠ Escape.escByte
  different : received ≠ sent

namespace Damage

def apply {text : Bytes} (damage : Damage text) : Bytes :=
  text.set damage.index damage.received

/-- The byte hit is the second of an escape pair: it stands behind an escape byte, and in
an escaped text each of these opens a pair. -/
def HitsCode {text : Bytes} (damage : Damage text) : Prop :=
  0 < damage.index ∧ text[damage.index - 1]? = some Escape.escByte

instance {text : Bytes} (damage : Damage text) : Decidable damage.HitsCode :=
  inferInstanceAs (Decidable (_ ∧ _))

def BreaksPair {text : Bytes} (damage : Damage text) : Prop :=
  damage.HitsCode ∧ damage.received ≠ Escape.endCode ∧ damage.received ≠ Escape.escCode

instance {text : Bytes} (damage : Damage text) : Decidable damage.BreaksPair :=
  inferInstanceAs (Decidable (_ ∧ _))

theorem length_apply {text : Bytes} (damage : Damage text) :
    damage.apply.length = text.length :=
  List.length_set

theorem endByte_not_mem_apply {text : Bytes} (damage : Damage text)
    (unbroken : Escape.endByte ∉ text) : Escape.endByte ∉ damage.apply := by
  intro member
  rcases List.mem_or_eq_of_mem_set member with before | made
  · exact unbroken before
  · exact damage.received_plain.1 made.symm

theorem hit_literal {front back : Bytes} {byte : UInt8}
    (damage : Damage (Escape.body (front ++ byte :: back)))
    (position : damage.index = (Escape.body front).length + 0)
    (form : Escape.escapeByte byte = [byte]) :
    ¬damage.HitsCode ∧ damage.received ≠ byte ∧
      damage.apply = Escape.body (front ++ damage.received :: back) := by
  have within : 0 < (Escape.escapeByte byte).length := Escape.length_escapeByte_pos byte
  refine ⟨?_, ?_, ?_⟩
  · rintro ⟨positive, behind⟩
    rw [position, Nat.add_zero] at positive behind
    rw [Escape.body_append, List.getElem?_append_left (by omega),
      ← List.getLast?_eq_getElem?] at behind
    exact Escape.getLast?_body_ne front behind
  · have found := damage.found
    rw [position, Escape.getElem?_body front back within, form] at found
    intro same
    exact damage.different (same.trans (Option.some.inj found))
  · rw [apply, position, Escape.set_body front back damage.received within, form,
      Escape.body_append front (damage.received :: back), Escape.body_cons,
      Escape.escapeByte_of_plain damage.received_plain]
    rfl

theorem hit_code {front back : Bytes} {byte code : UInt8}
    (damage : Damage (Escape.body (front ++ byte :: back)))
    (position : damage.index = (Escape.body front).length + 1)
    (form : Escape.escapeByte byte = [Escape.escByte, code]) :
    damage.HitsCode ∧ Escape.escapeByte byte ≠ [Escape.escByte, damage.received] ∧
      damage.apply =
        Escape.body front ++ ([Escape.escByte, damage.received] ++ Escape.body back) := by
  have within : 1 < (Escape.escapeByte byte).length := by simp [form]
  refine ⟨⟨?_, ?_⟩, ?_, ?_⟩
  · rw [position]
    exact Nat.succ_pos _
  · have opening := Escape.getElem?_body front back (Nat.lt_of_succ_lt within)
    rw [position, Nat.add_sub_cancel]
    rw [form] at opening
    exact opening
  · have found := damage.found
    rw [position, Escape.getElem?_body front back within, form] at found
    have same : code = damage.sent := Option.some.inj found
    rw [form, same]
    simpa using damage.different.symm
  · rw [apply, position, Escape.set_body front back damage.received within, form]
    rfl

theorem hit_cases {payload : Bytes} (damage : Damage (Escape.body payload)) :
    ∃ front byte back, payload = front ++ byte :: back ∧
      ((¬damage.HitsCode ∧ damage.received ≠ byte ∧
          damage.apply = Escape.body (front ++ damage.received :: back)) ∨
        (damage.HitsCode ∧ Escape.escapeByte byte ≠ [Escape.escByte, damage.received] ∧
          damage.apply =
            Escape.body front ++
              ([Escape.escByte, damage.received] ++ Escape.body back))) := by
  have inside : damage.index < (Escape.body payload).length :=
    (List.getElem?_eq_some_iff.mp damage.found).1
  rcases Escape.exists_split_of_lt_length_body inside with
    ⟨front, byte, back, offset, rfl, position, within⟩
  refine ⟨front, byte, back, rfl, ?_⟩
  rcases Escape.escapeByte_cases byte with ⟨_, form⟩ | ⟨code, _, form⟩
  · left
    rw [form, List.length_singleton] at within
    exact damage.hit_literal (by omega) form
  · right
    by_cases opening : offset = 0
    · -- The first byte of a pair is an escape byte, which is never hit.
      have found := damage.found
      rw [position, Escape.getElem?_body front back within, form, opening] at found
      exact absurd (Option.some.inj found).symm damage.sent_plain.2
    · rw [form, List.length_cons, List.length_singleton] at within
      exact damage.hit_code (by omega) form

theorem decode_of_breaksPair {payload : Bytes} {damage : Damage (Escape.body payload)}
    (breaks : damage.BreaksPair) :
    Escape.decode damage.apply = .error (.invalidEscape damage.received) := by
  rcases breaks with ⟨hits, notEndCode, notEscCode⟩
  rcases damage.hit_cases with ⟨front, byte, back, _, ⟨misses, _⟩ | ⟨_, _, applied⟩⟩
  · exact absurd hits misses
  · rw [applied, Escape.decode_body_append]
    rw [List.cons_append, List.singleton_append,
      Escape.decode_of_invalid _ notEndCode notEscCode]
    rfl

theorem decode_of_not_breaksPair {payload : Bytes} {damage : Damage (Escape.body payload)}
    (keeps : ¬damage.BreaksPair) :
    ∃ front byte back other, payload = front ++ byte :: back ∧ other ≠ byte ∧
      Escape.decode damage.apply = .ok (front ++ other :: back) := by
  rcases damage.hit_cases with
    ⟨front, byte, back, split, ⟨_, different, applied⟩ | ⟨hits, different, applied⟩⟩
  · exact ⟨front, byte, back, damage.received, split, different,
      by rw [applied, Escape.decode_body]⟩
  · have code : ∃ other, Escape.escapeByte other = [Escape.escByte, damage.received] := by
      by_cases isEndCode : damage.received = Escape.endCode
      · exact ⟨Escape.endByte, by rw [isEndCode]; rfl⟩
      · by_cases isEscCode : damage.received = Escape.escCode
        · exact ⟨Escape.escByte, by rw [isEscCode]; rfl⟩
        · exact absurd ⟨hits, isEndCode, isEscCode⟩ keeps
    rcases code with ⟨other, form⟩
    refine ⟨front, byte, back, other, split, ?_, ?_⟩
    · rintro rfl
      exact different form
    · rw [applied, ← form, ← Escape.body_cons, ← Escape.body_append, Escape.decode_body]

end Damage

/-! ## Damaged frames -/

theorem Checksum.check_replaced {content front back : Bytes} {byte other : UInt8}
    (split : append content = front ++ byte :: back) (different : other ≠ byte) :
    ∃ computed received, computed ≠ received ∧
      check (front ++ other :: back) = .error (.checksumMismatch computed received) := by
  apply check_of_checksum_ne_zero
  · have sameLength : (front ++ other :: back).length = (append content).length := by
      rw [split, List.length_append, List.length_append, List.length_cons,
        List.length_cons]
    rw [sameLength, length_append]
    exact Nat.le_add_left width content.length
  · rw [← checksum_append content, split]
    exact checksum_replaced_ne different

namespace Receiver

theorem frames_damaged {limit : Nat} {content : Bytes}
    (passes : Frame.Passes limit content)
    (damage : Damage (Escape.body (Checksum.append content))) :
    ∃ error, (start limit).frames (damage.apply ++ [Escape.endByte]) = [.error error] ∧
      if damage.BreaksPair then error = .invalidEscape damage.received
      else ∃ computed received, computed ≠ received ∧
        error = .checksumMismatch computed received := by
  have within : damage.apply.length ≤ limit := by
    rw [damage.length_apply]
    exact length_body_of_fits passes.2
  have long : 3 ≤ damage.apply.length := by
    rw [damage.length_apply]
    exact three_le_length_body passes.1
  have unbroken := damage.endByte_not_mem_apply (Escape.endByte_not_mem_body _)
  rw [frames_long_segment unbroken within long]
  by_cases breaks : damage.BreaksPair
  · refine ⟨.invalidEscape damage.received, ?_, by rw [if_pos breaks]⟩
    rw [Damage.decode_of_breaksPair breaks]
    rfl
  · rcases Damage.decode_of_not_breaksPair breaks with
      ⟨front, byte, back, other, split, different, decoded⟩
    rcases Checksum.check_replaced split different with
      ⟨computed, received, mismatch, checked⟩
    refine ⟨.checksumMismatch computed received, ?_, ?_⟩
    · rw [decoded, frameOf, Except.bind, Frame.ofPayload, checked]
      rfl
    · rw [if_neg breaks]
      exact ⟨computed, received, mismatch, rfl⟩

end Receiver

namespace Inlet

/-- A frame with one damaged byte is never taken for another frame: it is reported, as a
wrong escape if its escape pair was broken and as a wrong checksum otherwise, and the
frame behind it is received. -/
theorem drain_damaged {limit : Nat} {content next : Bytes} {source : Source}
    (passes : Frame.Passes limit content) (nextPasses : Frame.Passes limit next)
    (damage : Damage (Escape.body (Checksum.append content)))
    (brings : source.Brings
      ([Escape.endByte] ++ damage.apply ++ [Escape.endByte] ++ Frame.encode next)) :
    ∃ error,
      (start limit source).drain =
        ([.error error, .ok (Frame.ofContent next)], .error .closed) ∧
      if damage.BreaksPair then error = .invalidEscape damage.received
      else ∃ computed received, computed ≠ received ∧
        error = .checksumMismatch computed received := by
  rcases Receiver.frames_damaged passes damage with ⟨error, damaged, detected⟩
  refine ⟨error, ?_, detected⟩
  have read : (Receiver.start limit).frames
      ([Escape.endByte] ++ damage.apply ++ [Escape.endByte] ++ Frame.encode next) =
        [.error error, .ok (Frame.ofContent next)] := by
    calc (Receiver.start limit).frames
          ([Escape.endByte] ++ damage.apply ++ [Escape.endByte] ++ Frame.encode next)
        = (Receiver.start limit).frames
            ([] ++ [Escape.endByte] ++
              (damage.apply ++ [Escape.endByte] ++ Frame.encode next)) := by
          simp
      _ = (Receiver.start limit).frames
            (damage.apply ++ [Escape.endByte] ++ Frame.encode next) :=
          Receiver.frames_append_endByte_append limit [] _
      _ = [.error error] ++ (Receiver.start limit).frames (Frame.encode next ++ []) := by
          rw [Receiver.frames_append_endByte_append, damaged, List.append_nil]
      _ = [.error error, .ok (Frame.ofContent next)] := by
          rw [Receiver.frames_encode_append [] nextPasses]
          rfl
  rw [drain_of_brings brings, read]

theorem drain_damaged_code :
    let swapped : Damage (Escape.body (Checksum.append [0xC0])) :=
      { index := 1, sent := 0xDC, received := 0xDD, found := rfl
        sent_plain := by decide, received_plain := by decide, different := by decide }
    let broken : Damage (Escape.body (Checksum.append [0xC0])) :=
      { index := 1, sent := 0xDC, received := 0x01, found := rfl
        sent_plain := by decide, received_plain := by decide, different := by decide }
    Frame.Passes 4 [0xC0] ∧ Frame.Passes 4 [0x40] ∧ ¬swapped.BreaksPair ∧
      broken.BreaksPair ∧
      (∃ computed received, computed ≠ received ∧
        (start 4 { script := [.data [0xC0, 0xDB], .data [0xDD, 0xD9, 0x4C, 0xC0],
          .data [0xC0, 0x40, 0x48, 0xC4, 0xC0]] }).drain =
            ([.error (.checksumMismatch computed received), .ok (.ofContent [0x40])],
              .error .closed)) ∧
      (start 4 (.ofBytes
          [0xC0, 0xDB, 0x01, 0xD9, 0x4C, 0xC0, 0xC0, 0x40, 0x48, 0xC4, 0xC0])).drain =
        ([.error (.invalidEscape 0x01), .ok (.ofContent [0x40])], .error .closed) := by
  intro swapped broken
  have passes : Frame.Passes 4 [0xC0] := by decide
  have nextPasses : Frame.Passes 4 [0x40] := by decide
  have keeps : ¬swapped.BreaksPair := by decide
  have breaks : broken.BreaksPair := by decide
  refine ⟨passes, nextPasses, keeps, breaks, ?_, ?_⟩
  · have brings :
        Source.Brings
          { script := [.data [0xC0, 0xDB], .data [0xDD, 0xD9, 0x4C, 0xC0],
              .data [0xC0, 0x40, 0x48, 0xC4, 0xC0]] }
        ([Escape.endByte] ++ swapped.apply ++ [Escape.endByte] ++ Frame.encode [0x40]) :=
      ⟨[[0xC0, 0xDB], [0xDD, 0xD9, 0x4C, 0xC0], [0xC0, 0x40, 0x48, 0xC4, 0xC0]],
        by decide, by decide, rfl⟩
    rcases drain_damaged passes nextPasses swapped brings with ⟨error, drained, detected⟩
    rw [if_neg keeps] at detected
    rcases detected with ⟨computed, received, mismatch, rfl⟩
    exact ⟨computed, received, mismatch, drained⟩
  · rcases drain_damaged passes nextPasses broken (Source.brings_ofBytes (by decide)) with
      ⟨error, drained, detected⟩
    rw [if_pos breaks] at detected
    subst detected
    exact drained

end Inlet

end PanelLink
