import PanelLink.Proofs.Encoding

/-!
Unescaping accepts the escaped forms of payloads and nothing else. Any other text goes
along with the escaped form of some payload up to a place where no byte can be read. There
is only one such place, since no byte's escaped form is the front of another's, and what
stands there decides the error.
-/

namespace PanelLink.Escape

/-! ## Escaped forms from the front -/

theorem length_eq_of_escapeByte_append {byte other : UInt8} {rest others : Bytes}
    (equal : escapeByte byte ++ rest = escapeByte other ++ others) :
    (escapeByte byte).length = (escapeByte other).length := by
  rcases escapeByte_cases byte with ⟨plain, form⟩ | ⟨code, _, form⟩ <;>
    rcases escapeByte_cases other with
      ⟨otherPlain, otherForm⟩ | ⟨otherCode, _, otherForm⟩ <;>
      rw [form, otherForm] at equal
  · rw [form, otherForm]
    rfl
  · exact absurd (List.cons.inj equal).1 plain
  · exact absurd (List.cons.inj equal).1.symm otherPlain
  · rw [form, otherForm]
    rfl

theorem escapeByte_injective {byte other : UInt8}
    (equal : escapeByte byte = escapeByte other) : byte = other := by
  have read := decode_escapeByte_append byte []
  rw [equal, decode_escapeByte_append other []] at read
  cases read
  rfl

theorem escapeByte_append_injective {byte other : UInt8} {rest others : Bytes}
    (equal : escapeByte byte ++ rest = escapeByte other ++ others) :
    byte = other ∧ rest = others := by
  rcases List.append_inj equal (length_eq_of_escapeByte_append equal) with
    ⟨sameForm, sameRest⟩
  exact ⟨escapeByte_injective sameForm, sameRest⟩

/-! ## Faults -/

/-- A text with no escaped form at its front, and the error that it gives. -/
inductive Fault : Bytes → FrameError → Prop where
  | strayEnd (rest : Bytes) : Fault (endByte :: rest) .strayEnd
  | truncatedEscape : Fault [escByte] .truncatedEscape
  | invalidEscape {code : UInt8} (rest : Bytes) (notEndCode : code ≠ endCode)
      (notEscCode : code ≠ escCode) :
      Fault (escByte :: code :: rest) (.invalidEscape code)

theorem Fault.decode_eq {text : Bytes} {error : FrameError} (fault : Fault text error) :
    decode text = .error error := by
  cases fault with
  | strayEnd rest =>
      rw [decode.eq_def]
      exact if_pos rfl
  | truncatedEscape => rfl
  | invalidEscape rest notEndCode notEscCode =>
      exact decode_of_invalid rest notEndCode notEscCode

theorem not_fault_escapeByte_append (byte : UInt8) (rest : Bytes) (error : FrameError) :
    ¬Fault (escapeByte byte ++ rest) error := by
  intro fault
  by_cases isEnd : byte = endByte
  · subst isEnd
    cases fault with
    | invalidEscape _ notEndCode _ => exact notEndCode rfl
  · by_cases isEsc : byte = escByte
    · subst isEsc
      cases fault with
      | invalidEscape _ _ notEscCode => exact notEscCode rfl
    · rw [escapeByte_of_plain ⟨isEnd, isEsc⟩] at fault
      cases fault with
      | strayEnd => exact isEnd rfl
      | truncatedEscape => exact isEsc rfl
      | invalidEscape => exact isEsc rfl

theorem exists_fault_of_decode {text : Bytes} {error : FrameError}
    (failed : decode text = .error error) :
    ∃ front rest, text = body front ++ rest ∧ Fault rest error := by
  fun_induction decode text with
  | case1 => cases failed
  | case2 rest =>
      cases failed
      exact ⟨[], _, rfl, .strayEnd rest⟩
  | case3 =>
      cases failed
      exact ⟨[], _, rfl, .truncatedEscape⟩
  | case4 rest _ induction =>
      rcases induction (eq_error_of_map_eq_error failed) with ⟨front, behind, rfl, fault⟩
      exact ⟨endByte :: front, behind, rfl, fault⟩
  | case5 rest _ _ induction =>
      rcases induction (eq_error_of_map_eq_error failed) with ⟨front, behind, rfl, fault⟩
      exact ⟨escByte :: front, behind, rfl, fault⟩
  | case6 code rest notEndCode notEscCode =>
      cases failed
      exact ⟨[], _, rfl, .invalidEscape rest notEndCode notEscCode⟩
  | case7 byte rest notEnd notEsc induction =>
      rcases induction (eq_error_of_map_eq_error failed) with ⟨front, behind, rfl, fault⟩
      refine ⟨byte :: front, behind, ?_, fault⟩
      rw [body_cons, escapeByte_of_plain ⟨notEnd, notEsc⟩]
      rfl

theorem decode_eq_error_iff (text : Bytes) (error : FrameError) :
    decode text = .error error ↔
    ∃ front rest, text = body front ++ rest ∧ Fault rest error := by
  constructor
  · exact exists_fault_of_decode
  · rintro ⟨front, rest, rfl, fault⟩
    rw [decode_body_append, fault.decode_eq]
    rfl

example : decode [0x01, 0xDB] = .error .truncatedEscape := rfl

/-- The place of the fault is where the one payload that can be read ends. -/
theorem fault_unique {front other rest others : Bytes} {error cause : FrameError}
    (equal : body front ++ rest = body other ++ others) (fault : Fault rest error)
    (otherFault : Fault others cause) : front = other ∧ rest = others := by
  induction front generalizing other with
  | nil =>
      cases other with
      | nil => exact ⟨rfl, equal⟩
      | cons byte other =>
          have begins : rest = escapeByte byte ++ (body other ++ others) := by
            rw [← List.append_assoc, ← body_cons, ← equal]
            rfl
          rw [begins] at fault
          exact absurd fault (not_fault_escapeByte_append _ _ _)
  | cons byte front induction =>
      cases other with
      | nil =>
          have begins : others = escapeByte byte ++ (body front ++ rest) := by
            rw [← List.append_assoc, ← body_cons, equal]
            rfl
          rw [begins] at otherFault
          exact absurd otherFault (not_fault_escapeByte_append _ _ _)
      | cons otherByte other =>
          rw [body_cons, body_cons, List.append_assoc, List.append_assoc] at equal
          rcases escapeByte_append_injective equal with ⟨rfl, behind⟩
          rcases induction behind with ⟨rfl, sameRest⟩
          exact ⟨rfl, sameRest⟩

/-! ## What is accepted -/

theorem decode_eq_ok_iff (text payload : Bytes) :
    decode text = .ok payload ↔ [endByte] ++ text ++ [endByte] = encode payload := by
  have framed :
      [endByte] ++ text ++ [endByte] = encode payload ↔ text = body payload := by
    simp [encode]
  rw [framed]
  constructor
  · exact eq_body_of_decode
  · rintro rfl
    exact decode_body payload

/-- A text is read as a payload if and only if the payload is written as that text between
two boundaries. Any other text has one place where a fault stands behind the escaped form
of a payload, and the fault gives the error. -/
theorem decode_exactly :
    (∀ text payload : Bytes,
      decode text = .ok payload ↔ [endByte] ++ text ++ [endByte] = encode payload) ∧
    (∀ (text : Bytes) (error : FrameError),
      decode text = .error error ↔
      ∃ front rest, text = body front ++ rest ∧ Fault rest error) ∧
    ∀ (front other rest others : Bytes) (error cause : FrameError),
      body front ++ rest = body other ++ others → Fault rest error → Fault others cause →
        front = other ∧ rest = others := by
  refine ⟨decode_eq_ok_iff, decode_eq_error_iff, ?_⟩
  intro front other rest others error cause equal fault otherFault
  exact fault_unique equal fault otherFault

theorem decode_exactly_competing :
    decode [0x01, 0xDB, 0xC0, 0x02] = .error (.invalidEscape 0xC0) ∧
      decode [0x01, 0xDB, 0xDB, 0xDD] = .error (.invalidEscape 0xDB) ∧
      decode [0x01, 0xDB] = .error .truncatedEscape ∧
      ∀ front rest error, [0x01, 0xDB, 0xC0, 0x02] = body front ++ rest →
      Fault rest error →
        front = [0x01] ∧ rest = [0xDB, 0xC0, 0x02] := by
  rcases decode_exactly with ⟨_, failsIff, unique⟩
  have beforeEnd : Fault [0xDB, 0xC0, 0x02] (.invalidEscape 0xC0) :=
    .invalidEscape [0x02] (by decide) (by decide)
  have beforeEsc : Fault [0xDB, 0xDB, 0xDD] (.invalidEscape 0xDB) :=
    .invalidEscape [0xDD] (by decide) (by decide)
  refine ⟨?_, ?_, ?_, ?_⟩
  · exact (failsIff _ _).mpr ⟨[0x01], _, rfl, beforeEnd⟩
  · exact (failsIff _ _).mpr ⟨[0x01], _, rfl, beforeEsc⟩
  · exact (failsIff _ _).mpr ⟨[0x01], _, rfl, .truncatedEscape⟩
  · intro front rest error split fault
    exact unique front [0x01] rest _ error _ split.symm fault beforeEnd

end PanelLink.Escape
