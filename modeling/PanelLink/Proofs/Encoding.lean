import PanelLink.Frame
import PanelLink.Proofs.Fallible

/-!
A content comes back from the bytes that carry it: the checksum behind it fits, and
unescaping undoes escaping. In between there is no boundary, so that the two around a
frame are the only ones in it. No other bytes carry the content, since each byte has one
escaped form and each content one checksum.
-/

namespace PanelLink

/-! ## Escaping -/

namespace Escape

theorem endByte_not_mem_escapeByte (byte : UInt8) : endByte ∉ escapeByte byte := by
  unfold escapeByte
  split
  · decide
  · split
    · decide
    · rename_i notEnd _
      simpa using Ne.symm notEnd

theorem endByte_not_mem_body (payload : Bytes) : endByte ∉ body payload := by
  intro member
  rcases List.mem_flatMap.mp member with ⟨byte, _, inside⟩
  exact endByte_not_mem_escapeByte byte inside

theorem body_cons (byte : UInt8) (rest : Bytes) :
    body (byte :: rest) = escapeByte byte ++ body rest := rfl

theorem body_append (front back : Bytes) :
    body (front ++ back) = body front ++ body back :=
  List.flatMap_append

theorem escapeByte_of_plain {byte : UInt8} (plain : byte ≠ endByte ∧ byte ≠ escByte) :
    escapeByte byte = [byte] := by
  rw [escapeByte, if_neg plain.1, if_neg plain.2]

theorem escapeByte_cases (byte : UInt8) :
    (byte ≠ escByte ∧ escapeByte byte = [byte]) ∨
      ∃ code, code ≠ escByte ∧ escapeByte byte = [escByte, code] := by
  by_cases isEnd : byte = endByte
  · subst isEnd
    exact .inr ⟨endCode, by decide, rfl⟩
  · by_cases isEsc : byte = escByte
    · subst isEsc
      exact .inr ⟨escCode, by decide, rfl⟩
    · exact .inl ⟨isEsc, escapeByte_of_plain ⟨isEnd, isEsc⟩⟩

theorem decode_escapeByte_append (byte : UInt8) (text : Bytes) :
    decode (escapeByte byte ++ text) = (decode text).map (byte :: ·) := by
  by_cases isEnd : byte = endByte
  · subst isEnd
    rfl
  · by_cases isEsc : byte = escByte
    · subst isEsc
      rfl
    · rw [escapeByte, if_neg isEnd, if_neg isEsc, List.singleton_append, decode.eq_def]
      simp [isEnd, isEsc]

theorem decode_body (payload : Bytes) : decode (body payload) = .ok payload := by
  induction payload with
  | nil => rfl
  | cons byte rest induction =>
      rw [body_cons, decode_escapeByte_append, induction]
      rfl

example : decode [0x01, 0xDB, 0xDC, 0xDB, 0xDD] = .ok [0x01, 0xC0, 0xDB] := rfl

theorem decode_body_append (front text : Bytes) :
    decode (body front ++ text) = (decode text).map (front ++ ·) := by
  induction front with
  | nil =>
      rw [body, List.flatMap_nil, List.nil_append]
      cases decode text <;> rfl
  | cons byte rest induction =>
      rw [body_cons, List.append_assoc, decode_escapeByte_append, induction]
      cases decode text <;> rfl

theorem decode_of_invalid {code : UInt8} (rest : Bytes) (notEndCode : code ≠ endCode)
    (notEscCode : code ≠ escCode) :
    decode (escByte :: code :: rest) = .error (.invalidEscape code) := by
  have notEnd : escByte ≠ endByte := by decide
  simp [decode, notEnd, notEndCode, notEscCode]

theorem recoverable_of_decode {text : Bytes} {error : FrameError}
    (failed : decode text = .error error) : error.recoverable = true := by
  fun_induction decode text with
  | case1 => cases failed
  | case2 | case3 | case6 =>
      cases failed
      rfl
  | case4 rest _ induction => exact induction (eq_error_of_map_eq_error failed)
  | case5 rest _ _ induction => exact induction (eq_error_of_map_eq_error failed)
  | case7 byte rest _ _ induction => exact induction (eq_error_of_map_eq_error failed)

/-- Nothing but the escaped form of a payload is read as that payload. -/
theorem eq_body_of_decode {text payload : Bytes} (decoded : decode text = .ok payload) :
    text = body payload := by
  fun_induction decode text generalizing payload with
  | case1 =>
      cases decoded
      rfl
  | case2 | case3 | case6 => cases decoded
  | case4 rest _ induction =>
      rcases exists_of_map_eq_ok decoded with ⟨inner, read, rfl⟩
      rw [induction read]
      rfl
  | case5 rest _ _ induction =>
      rcases exists_of_map_eq_ok decoded with ⟨inner, read, rfl⟩
      rw [induction read]
      rfl
  | case7 byte rest notEnd notEsc induction =>
      rcases exists_of_map_eq_ok decoded with ⟨inner, read, rfl⟩
      rw [body_cons, escapeByte_of_plain ⟨notEnd, notEsc⟩, ← induction read]
      rfl

theorem decode_error_cases {text : Bytes} {error : FrameError} (unbroken : endByte ∉ text)
    (failed : decode text = .error error) :
    error = .truncatedEscape ∨ ∃ byte, error = .invalidEscape byte := by
  fun_induction decode text with
  | case1 => cases failed
  | case2 rest => exact absurd List.mem_cons_self unbroken
  | case3 =>
      cases failed
      exact .inl rfl
  | case4 rest _ induction =>
      have unbrokenRest :=
        List.not_mem_of_not_mem_cons (List.not_mem_of_not_mem_cons unbroken)
      exact induction unbrokenRest (eq_error_of_map_eq_error failed)
  | case5 rest _ _ induction =>
      have unbrokenRest :=
        List.not_mem_of_not_mem_cons (List.not_mem_of_not_mem_cons unbroken)
      exact induction unbrokenRest (eq_error_of_map_eq_error failed)
  | case6 code rest =>
      cases failed
      exact .inr ⟨code, rfl⟩
  | case7 byte rest _ _ induction =>
      exact induction (List.not_mem_of_not_mem_cons unbroken)
        (eq_error_of_map_eq_error failed)

theorem length_escapeByte_pos (byte : UInt8) : 1 ≤ (escapeByte byte).length := by
  unfold escapeByte
  split
  · simp
  · split <;> simp

theorem length_le_length_body (payload : Bytes) :
    payload.length ≤ (body payload).length := by
  induction payload with
  | nil => simp
  | cons byte rest induction =>
      have positive := length_escapeByte_pos byte
      rw [body_cons, List.length_append, List.length_cons]
      omega

theorem length_body_le (payload : Bytes) :
    (body payload).length ≤ 2 * payload.length := by
  induction payload with
  | nil => simp [body]
  | cons byte rest induction =>
      have short : (escapeByte byte).length ≤ 2 := by
        rcases escapeByte_cases byte with ⟨_, form⟩ | ⟨code, _, form⟩ <;> simp [form]
      rw [body_cons, List.length_append, List.length_cons]
      omega

theorem length_encode (payload : Bytes) :
    (encode payload).length = (body payload).length + 2 := by
  simp [encode]

end Escape

/-! ## Checksums -/

namespace Checksum

theorem ofTrailer_trailer (value : UInt16) :
    ofTrailer (value >>> 8).toUInt8 value.toUInt8 = value := by
  have bound : value.toNat < 65536 := value.toNat_lt
  have shifted : value.toNat >>> 8 = value.toNat / 256 := Nat.shiftRight_eq_div_pow _ 8
  have highBound : value.toNat / 256 < 256 := by omega
  have lowBound : value.toNat % 256 < 256 := by omega
  apply UInt16.toNat_inj.mp
  calc (ofTrailer (value >>> 8).toUInt8 value.toUInt8).toNat
      = (value.toNat / 256 % 256) <<< 8 % 65536 ||| value.toNat % 256 := by
        simp [ofTrailer, shifted]
    _ = (value.toNat / 256) <<< 8 ||| value.toNat % 256 := by
        rw [Nat.mod_eq_of_lt highBound, Nat.shiftLeft_eq, Nat.mod_eq_of_lt (by omega)]
    _ = value.toNat / 256 * 256 + value.toNat % 256 := by
        rw [← Nat.shiftLeft_add_eq_or_of_lt lowBound, Nat.shiftLeft_eq]
    _ = value.toNat := by omega

theorem trailer_ofTrailer (high low : UInt8) :
    trailer (ofTrailer high low) = [high, low] := by
  have upper : (ofTrailer high low >>> 8).toUInt8 = high := by
    apply UInt8.toBitVec_inj.mp
    apply BitVec.eq_of_getLsbD_eq
    intro index inside
    have inRegister : index < 16 := by omega
    have inHigh : 8 + index < 16 := by omega
    simp [ofTrailer, inside, inRegister, inHigh]
  have lower : (ofTrailer high low).toUInt8 = low := by
    apply UInt8.toBitVec_inj.mp
    apply BitVec.eq_of_getLsbD_eq
    intro index inside
    simp [ofTrailer, inside]
  rw [trailer, upper, lower]

theorem splitTrailer?_append_trailer (content : Bytes) (value : UInt16) :
    splitTrailer? (content ++ trailer value) = some (content, value) := by
  simp [splitTrailer?, trailer, ofTrailer_trailer]

theorem eq_append_of_splitTrailer? {payload content : Bytes} {value : UInt16}
    (split : splitTrailer? payload = some (content, value)) :
    payload = content ++ trailer value := by
  unfold splitTrailer? at split
  split at split
  · rename_i low high rest reversed
    cases split
    rw [trailer_ofTrailer]
    simpa using congrArg List.reverse reversed
  · cases split

theorem check_append (content : Bytes) :
    check (append content) = .ok (content, checksum content) := by
  simp [check, append, splitTrailer?_append_trailer]

theorem eq_append_of_check {payload content : Bytes} {value : UInt16}
    (passed : check payload = .ok (content, value)) :
    payload = append content ∧ value = checksum content := by
  unfold check at passed
  split at passed
  · cases passed
  · rename_i split
    split at passed
    · rename_i fits
      cases passed
      refine ⟨?_, fits.symm⟩
      rw [append, fits]
      exact eq_append_of_splitTrailer? split
    · cases passed

theorem recoverable_of_check {payload : Bytes} {error : FrameError}
    (failed : check payload = .error error) : error.recoverable = true := by
  unfold check at failed
  split at failed
  · cases failed
    rfl
  · split at failed
    · cases failed
    · cases failed
      rfl

theorem length_append (content : Bytes) :
    (append content).length = content.length + width := by
  simp [append, trailer, width]

end Checksum

/-! ## Frames -/

namespace Frame

theorem ofPayload_append (content : Bytes) :
    ofPayload (Checksum.append content) = .ok (ofContent content) := by
  rw [ofPayload, Checksum.check_append]
  rfl

theorem fits_encode_iff (limit : Nat) (content : Bytes) :
    fits limit (encode content).length = true ↔
      (Escape.body (Checksum.append content)).length ≤ limit := by
  simp [fits, encode, Escape.length_encode]

theorem eq_of_ofPayload {payload : Bytes} {frame : Frame}
    (opened : ofPayload payload = .ok frame) :
    payload = Checksum.append frame.content ∧ frame = ofContent frame.content := by
  rcases exists_of_map_eq_ok opened with ⟨⟨content, value⟩, passed, rfl⟩
  rcases Checksum.eq_append_of_check passed with ⟨whole, rfl⟩
  exact ⟨whole, rfl⟩

theorem recoverable_of_ofPayload {payload : Bytes} {error : FrameError}
    (failed : ofPayload payload = .error error) : error.recoverable = true :=
  Checksum.recoverable_of_check (eq_error_of_map_eq_error failed)

end Frame

end PanelLink
