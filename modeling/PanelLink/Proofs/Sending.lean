import PanelLink.Outlet
import PanelLink.Proofs.Noise

/-!
Frames that were sent are received, also on a line that fails in between. A send hands
over the whole frame, or nothing, or the front of it. The next frame begins with a
boundary, so a front left over costs only itself.
-/

namespace PanelLink

/-! ## What a sink has taken -/

namespace Sink

def taken (calls : List SinkCall) : Bytes := calls.flatMap SinkCall.taken

theorem taken_cons (call : SinkCall) (calls : List SinkCall) :
    taken (call :: calls) = call.taken ++ taken calls := rfl

theorem taken_append (first second : List SinkCall) :
    taken (first ++ second) = taken first ++ taken second := List.flatMap_append

theorem taken_of_isFlush {calls : List SinkCall}
    (flushes : ∀ call ∈ calls, call.isFlush = true) : taken calls = [] := by
  apply List.flatMap_eq_nil_iff.mpr
  intro call member
  have isFlush := flushes call member
  cases call with
  | wrote | writeFailed => cases isFlush
  | flushed | flushFailed => rfl

inductive Delivers : Bytes → List SinkCall → Except Refusal Unit → Prop where
  | done : Delivers [] [] (.ok ())
  | stalled {bytes : Bytes} (pending : bytes ≠ []) :
      Delivers bytes [.wrote []] (.error .stalled)
  | failed {bytes : Bytes} {cause : Failure} (pending : bytes ≠ [])
      (lasting : cause.isInterrupted = false) :
      Delivers bytes [.writeFailed cause] (.error (.failed cause))
  | again {bytes : Bytes} {cause : Failure} {calls : List SinkCall}
      {result : Except Refusal Unit}
      (pending : bytes ≠ []) (interrupted : cause.isInterrupted = true) :
      Delivers bytes calls result → Delivers bytes (.writeFailed cause :: calls) result
  | took {part rest : Bytes} {calls : List SinkCall} {result : Except Refusal Unit}
      (something : part ≠ []) :
      Delivers rest calls result → Delivers (part ++ rest) (.wrote part :: calls) result

theorem deliver_delivers (script : List WriteReply) (bytes : Bytes) :
    Delivers bytes (deliver script bytes).calls (deliver script bytes).result := by
  fun_induction deliver script bytes with
  | case1 script => exact .done
  | case2 bytes pending =>
      have whole : Delivers (bytes ++ []) [.wrote bytes] (.ok ()) := .took pending .done
      rwa [List.append_nil] at whole
  | case3 script bytes pending => exact .stalled pending
  | case4 count script bytes pending positive induction =>
      have something : bytes.take count ≠ [] := by
        rw [ne_eq, List.take_eq_nil_iff]
        exact not_or.mpr ⟨positive, pending⟩
      have whole := Delivers.took something induction
      rwa [List.take_append_drop] at whole
  | case5 cause script bytes pending interrupted induction =>
      exact .again pending interrupted induction
  | case6 cause script bytes pending lasting =>
      exact .failed pending (Bool.eq_false_iff.mpr lasting)

theorem Delivers.front {bytes : Bytes} {calls : List SinkCall}
    {result : Except Refusal Unit} (delivers : Delivers bytes calls result) :
    taken calls <+: bytes := by
  induction delivers with
  | done | stalled | failed => exact List.nil_prefix
  | again _ _ _ induction => exact induction
  | took _ _ induction => exact (List.prefix_append_right_inj _).mpr induction

theorem Delivers.ok_iff {bytes : Bytes} {calls : List SinkCall}
    {result : Except Refusal Unit} (delivers : Delivers bytes calls result) :
    result = .ok () ↔ taken calls = bytes := by
  induction delivers with
  | done => exact ⟨fun _ => rfl, fun _ => rfl⟩
  | stalled pending | failed pending => simp [taken, SinkCall.taken, Ne.symm pending]
  | again _ _ _ induction => exact induction
  | took _ _ induction =>
      rw [taken_cons, SinkCall.taken, List.append_right_inj, induction]

inductive Settles : List SinkCall → Except Failure Unit → Prop where
  | done : Settles [.flushed] (.ok ())
  | failed {cause : Failure} (lasting : cause.isInterrupted = false) :
      Settles [.flushFailed cause] (.error cause)
  | again {cause : Failure} {calls : List SinkCall} {result : Except Failure Unit}
      (interrupted : cause.isInterrupted = true) :
      Settles calls result → Settles (.flushFailed cause :: calls) result

theorem settle_settles (script : List FlushReply) :
    Settles (settle script).2.1 (settle script).1 := by
  fun_induction settle script with
  | case1 => exact .done
  | case2 script => exact .done
  | case3 cause script interrupted result calls rest settled induction =>
      rw [settled] at induction
      exact .again interrupted induction
  | case4 cause script lasting => exact .failed (Bool.eq_false_iff.mpr lasting)

theorem Settles.isFlush_eq_true {calls : List SinkCall} {result : Except Failure Unit}
    (settles : Settles calls result) : ∀ call ∈ calls, call.isFlush = true := by
  induction settles with
  | done | failed => simp [SinkCall.isFlush]
  | again _ _ induction => exact List.forall_mem_cons.mpr ⟨rfl, induction⟩

theorem accepted_writeAll (bytes : Bytes) (sink : Sink) :
    (sink.writeAll bytes).2.accepted =
      sink.accepted ++ taken (deliver sink.writes bytes).calls :=
  accepted_record _ _

theorem accepted_of_writeAll_ok {bytes : Bytes} {sink later : Sink}
    (wrote : sink.writeAll bytes = (.ok (), later)) :
    later.accepted = sink.accepted ++ bytes := by
  have accepted := accepted_writeAll bytes sink
  have whole := (deliver_delivers sink.writes bytes).ok_iff.mp (congrArg Prod.fst wrote)
  rwa [whole, wrote] at accepted

theorem accepted_of_writeAll {bytes : Bytes} {sink later : Sink}
    {result : Except Refusal Unit} (wrote : sink.writeAll bytes = (result, later)) :
    ∃ part, part <+: bytes ∧ later.accepted = sink.accepted ++ part := by
  have accepted := accepted_writeAll bytes sink
  rw [wrote] at accepted
  exact ⟨_, (deliver_delivers sink.writes bytes).front, accepted⟩

theorem accepted_flushAll (sink : Sink) : sink.flushAll.2.accepted = sink.accepted := by
  have recorded :
      sink.flushAll.2.accepted = sink.accepted ++ taken (settle sink.flushes).2.1 :=
    accepted_record _ _
  rw [recorded, taken_of_isFlush (settle_settles sink.flushes).isFlush_eq_true,
    List.append_nil]

end Sink

namespace Outlet

/-! ## One send -/

/-- What sending a content can come to, with the bytes that are handed over. -/
inductive Sent (limit : Nat) (content : Bytes) :
    Except FrameError Unit → Bytes → Prop where
  | whole (fits : Frame.fits limit (Frame.encode content).length = true) :
      Sent limit content (.ok ()) (Frame.encode content)
  | refused : Sent limit content (.error (.oversize limit)) []
  | cutOff {part : Bytes} {error : FrameError} (front : part <+: Frame.encode content)
      (lasting : error.recoverable = false) : Sent limit content (.error error) part

theorem recoverable_refusalError (refusal : Refusal) :
    (refusalError refusal).recoverable = false := by
  cases refusal <;> rfl

theorem flush_cases (outlet : Outlet) :
    outlet.flush.1 = .ok () ∨ ∃ cause, outlet.flush.1 = .error (.transfer cause) := by
  have mapped : outlet.flush.1 = outlet.sink.flushAll.1.mapError .transfer := rfl
  rw [mapped]
  cases outlet.sink.flushAll.1 with
  | ok => exact .inl rfl
  | error cause => exact .inr ⟨cause, rfl⟩

theorem accepted_flush (outlet : Outlet) :
    outlet.flush.2.sink.accepted = outlet.sink.accepted :=
  Sink.accepted_flushAll outlet.sink

theorem send_sent (content : Bytes) (outlet : Outlet) :
    ∃ bytes, Sent outlet.limit content (outlet.send content).1 bytes ∧
      (outlet.send content).2.sink.accepted = outlet.sink.accepted ++ bytes ∧
      (outlet.send content).2.limit = outlet.limit := by
  rw [send, sendEncoded]
  split
  · rename_i fits
    split
    · rename_i sink wrote
      have accepted : ({ outlet with sink } : Outlet).flush.2.sink.accepted =
          outlet.sink.accepted ++ Frame.encode content :=
        (accepted_flush _).trans (Sink.accepted_of_writeAll_ok wrote)
      refine ⟨Frame.encode content, ?_, accepted, rfl⟩
      rcases flush_cases { outlet with sink } with done | ⟨cause, failed⟩
      · rw [done]
        exact .whole fits
      · -- All of the frame is on the line, but the sender was told otherwise.
        rw [failed]
        exact .cutOff (List.prefix_refl _) rfl
    · rename_i refusal sink wrote
      rcases Sink.accepted_of_writeAll wrote with ⟨part, front, accepted⟩
      exact ⟨part, .cutOff front (recoverable_refusalError refusal), accepted, rfl⟩
  · exact ⟨[], .refused, (List.append_nil _).symm, rfl⟩

/-! ## A session -/

structure Attempt where
  content : Bytes
  result : Except FrameError Unit
deriving DecidableEq, Repr

def sendEach : List Bytes → Outlet → List Attempt × Outlet
  | [], outlet => ([], outlet)
  | content :: rest, outlet =>
      let (result, later) := outlet.send content
      let (attempts, last) := sendEach rest later
      (⟨content, result⟩ :: attempts, last)

inductive Written (limit : Nat) : List Attempt → Bytes → Prop where
  | nil : Written limit [] []
  | cons {attempt : Attempt} {attempts : List Attempt} {bytes rest : Bytes} :
      Sent limit attempt.content attempt.result bytes →
      Written limit attempts rest →
      Written limit (attempt :: attempts) (bytes ++ rest)

theorem sendEach_written (contents : List Bytes) (outlet : Outlet) :
    ∃ bytes, Written outlet.limit (sendEach contents outlet).1 bytes ∧
      (sendEach contents outlet).2.sink.accepted = outlet.sink.accepted ++ bytes := by
  induction contents generalizing outlet with
  | nil => exact ⟨[], .nil, (List.append_nil _).symm⟩
  | cons content rest induction =>
      rcases outlet.send_sent content with ⟨first, sent, acceptedFirst, sameLimit⟩
      rcases induction (outlet.send content).2 with ⟨others, written, acceptedOthers⟩
      rw [sameLimit] at written
      refine ⟨first ++ others, .cons sent written, ?_⟩
      rw [← List.append_assoc, ← acceptedFirst]
      exact acceptedOthers

/-- The content of an attempt that should come through: sent without an error, and not
empty. -/
def Attempt.delivered? (attempt : Attempt) : Option Bytes :=
  match attempt.result with
  | .ok () => if attempt.content = [] then none else some attempt.content
  | .error _ => none

def delivered (attempts : List Attempt) : List Bytes :=
  attempts.filterMap Attempt.delivered?

theorem delivered_cons_error (content : Bytes) (error : FrameError)
    (attempts : List Attempt) :
    delivered (⟨content, .error error⟩ :: attempts) = delivered attempts := rfl

theorem delivered_cons_empty (attempts : List Attempt) :
    delivered (⟨[], .ok ()⟩ :: attempts) = delivered attempts := rfl

theorem delivered_cons_ok {content : Bytes} (attempts : List Attempt)
    (nonempty : content ≠ []) :
    delivered (⟨content, .ok ()⟩ :: attempts) = content :: delivered attempts := by
  simp [delivered, Attempt.delivered?, nonempty]

end Outlet

def Inlet.contents (results : List (Except FrameError Frame)) : List Bytes :=
  results.filterMap fun result => result.toOption.map Frame.content

theorem Inlet.contents_append (first second : List (Except FrameError Frame)) :
    contents (first ++ second) = contents first ++ contents second :=
  List.filterMap_append

theorem Inlet.contents_cons_ok (frame : Frame) (rest : List (Except FrameError Frame)) :
    contents (.ok frame :: rest) = frame.content :: contents rest := rfl

/-! ## Reading what a session has written -/

theorem Frame.fits_of_le {limit wider length : Nat} (le : limit ≤ wider)
    (fits : Frame.fits limit length = true) : Frame.fits wider length = true := by
  simp only [Frame.fits, decide_eq_true_eq] at fits ⊢
  exact Nat.le_trans fits le

theorem Receiver.frames_encode_nil {limit : Nat} (rest : Bytes)
    (fits : Frame.fits limit (Frame.encode []).length = true) :
    (start limit).frames (Frame.encode [] ++ rest) = (start limit).frames rest := by
  have within : ([0, 0] : Bytes).length ≤ limit := length_body_of_fits fits
  have gap : (start limit).frames ([0, 0] ++ [Escape.endByte]) = [] := by
    rw [frames_segment (by decide) within, verdict, if_neg (Nat.not_lt_of_le within)]
    rfl
  have regrouped : Frame.encode [] ++ rest =
      ([] ++ [Escape.endByte]) ++ (([0, 0] ++ [Escape.endByte]) ++ rest) := rfl
  rw [regrouped, frames_append_endByte_append, frames_append_endByte_append, gap]
  rfl

namespace Outlet

/-- Each content that was sent is received behind any noise, the front of a frame cut off
before it included. -/
theorem Written.delivered_sublist {limit readLimit : Nat} {attempts : List Attempt}
    {bytes : Bytes} (written : Written limit attempts bytes) (wider : limit ≤ readLimit)
    (noise : Bytes) :
    (delivered attempts).Sublist
      (Inlet.contents ((Receiver.start readLimit).frames (noise ++ bytes))) := by
  -- Any noise in front, since the front of a frame cut off stands before the rest of the
  -- session.
  induction written generalizing noise with
  | nil => exact List.nil_sublist _
  | @cons attempt attempts bytes rest sent _ induction =>
      rcases attempt with ⟨content, result⟩
      cases sent with
      | whole fits =>
          by_cases empty : content = []
          · subst empty
            have behind := induction (noise ++ Frame.encode [])
            rw [List.append_assoc] at behind
            rwa [delivered_cons_empty]
          · have passes : Frame.Passes readLimit content :=
              ⟨empty, Frame.fits_of_le wider fits⟩
            rw [Receiver.frames_noise noise rest passes, delivered_cons_ok attempts empty,
              Inlet.contents_append, Inlet.contents_cons_ok]
            exact ((induction []).cons_cons content).trans (List.sublist_append_right _ _)
      | refused =>
          rw [delivered_cons_error]
          exact induction noise
      | cutOff front lasting =>
          have behind := induction (noise ++ bytes)
          rw [List.append_assoc] at behind
          rwa [delivered_cons_error]

theorem Written.frames_eq {limit readLimit : Nat} {attempts : List Attempt}
    {bytes : Bytes} (written : Written limit attempts bytes) (wider : limit ≤ readLimit)
    (undisturbed : ∀ attempt ∈ attempts, ∀ error, attempt.result = .error error →
      error.recoverable = true) :
    (Receiver.start readLimit).frames bytes =
      (delivered attempts).map fun content => .ok (Frame.ofContent content) := by
  induction written with
  | nil => rfl
  | @cons attempt attempts bytes rest sent _ induction =>
      have others := induction fun other member =>
        undisturbed other (List.mem_cons_of_mem attempt member)
      have now := undisturbed attempt List.mem_cons_self
      rcases attempt with ⟨content, result⟩
      cases sent with
      | whole fits =>
          by_cases empty : content = []
          · subst empty
            rw [Receiver.frames_encode_nil rest (Frame.fits_of_le wider fits), others,
              delivered_cons_empty]
          · have passes : Frame.Passes readLimit content :=
              ⟨empty, Frame.fits_of_le wider fits⟩
            have received := Receiver.frames_noise [] rest passes
            rw [List.nil_append, others] at received
            rw [received, delivered_cons_ok attempts empty]
            rfl
      | refused => rwa [delivered_cons_error]
      | @cutOff _ error front lasting =>
          rw [now error rfl] at lasting
          cases lasting

/-- Whatever the sink does in a session, each content that was sent without an error,
unless it was empty, is received by one who reads all that the sink has taken, in the
order of sending. If the line never failed, these are all that is received, and no error
comes with them. -/
theorem drain_sendEach {limit readLimit : Nat} {contents : List Bytes}
    {writes : List WriteReply} {flushes : List FlushReply} {source : Source}
    (wider : limit ≤ readLimit)
    (brings : source.Brings
      (sendEach contents (start limit { writes, flushes })).2.sink.accepted) :
    let attempts := (sendEach contents (start limit { writes, flushes })).1
    let reading := (Inlet.start readLimit source).drain
    (delivered attempts).Sublist (Inlet.contents reading.1) ∧ reading.2 = .error .closed ∧
      ((∀ attempt ∈ attempts, attempt.result ≠ .error .closed ∧
          ∀ cause, attempt.result ≠ .error (.transfer cause)) →
        reading = ((delivered attempts).map fun content => .ok (Frame.ofContent content),
          .error .closed)) := by
  intro attempts reading
  rcases sendEach_written contents (start limit { writes, flushes }) with
    ⟨bytes, written, accepted⟩
  have taken :
      (sendEach contents (start limit { writes, flushes })).2.sink.accepted = bytes :=
    accepted
  rw [taken] at brings
  have read : reading = ((Receiver.start readLimit).frames bytes, .error .closed) :=
    Inlet.drain_of_brings brings
  rw [read]
  refine ⟨written.delivered_sublist wider [], rfl, ?_⟩
  intro undisturbed
  rw [written.frames_eq wider]
  intro attempt member error failed
  rcases undisturbed attempt member with ⟨notClosed, notTransfer⟩
  cases error with
  | closed => exact absurd failed notClosed
  | transfer cause => exact absurd failed (notTransfer cause)
  | _ => rfl

theorem drain_sendEach_behind_front :
    let contents : List Bytes := [[0x40], [0xC0, 0xDB], []]
    let breaking : List WriteReply :=
      [.accept 3, .failure (.ofKind .brokenPipe), .accept 2,
        .failure (.ofKind .interrupted), .accept 4]
    let others : List Bytes := [[0x40], [0xC0, 0xDB, 0xC0], [0x07]]
    let lasting : List WriteReply :=
      [.accept 3, .failure (.ofKind .interrupted), .accept 2]
    let flushes : List FlushReply := [.failure (.ofKind .interrupted), .done]
    let behindFront : Source :=
      { script := [.data [0xC0, 0x40, 0x48, 0xC0, 0xDB],
          .data [0xDC, 0xDB, 0xDD, 0x6C, 0x42],
          .data [0xC0, 0xC0, 0x00, 0x00, 0xC0]] }
    let complete : Source :=
      { script := [.data [0xC0, 0x40, 0x48, 0xC4],
          .data [0xC0, 0xC0, 0x07, 0x70, 0xE7, 0xC0]] }
    delivered (sendEach contents (start 8 { writes := breaking, flushes })).1 =
      [[0xC0, 0xDB]] ∧
      [[0xC0, 0xDB]].Sublist (Inlet.contents (Inlet.start 8 behindFront).drain.1) ∧
      delivered (sendEach others (start 6 { writes := lasting, flushes })).1 =
        [[0x40], [0x07]] ∧
      (Inlet.start 7 complete).drain =
        ([.ok (.ofContent [0x40]), .ok (.ofContent [0x07])], .error .closed) := by
  intro contents breaking others lasting flushes behindFront complete
  have bringsBroken : behindFront.Brings
      (sendEach contents (start 8 { writes := breaking, flushes })).2.sink.accepted := by
    refine ⟨behindFront.script.map Reading.bytes, ?_, ?_, rfl⟩ <;> decide +kernel
  have bringsWhole : complete.Brings
      (sendEach others (start 6 { writes := lasting, flushes })).2.sink.accepted := by
    refine ⟨complete.script.map Reading.bytes, ?_, ?_, rfl⟩ <;> decide +kernel
  have deliveredBroken :
      delivered (sendEach contents (start 8 { writes := breaking, flushes })).1 =
        [[0xC0, 0xDB]] := by decide +kernel
  have attempted : (sendEach others (start 6 { writes := lasting, flushes })).1 =
      [⟨[0x40], .ok ()⟩, ⟨[0xC0, 0xDB, 0xC0], .error (.oversize 6)⟩,
        ⟨[0x07], .ok ()⟩] := by
    decide +kernel
  refine ⟨deliveredBroken, ?_, congrArg delivered attempted, ?_⟩
  · have survived := (drain_sendEach (Nat.le_refl 8) bringsBroken).1
    rwa [deliveredBroken] at survived
  · have reading := (drain_sendEach (by decide : 6 ≤ 7) bringsWhole).2.2
    rw [attempted] at reading
    exact reading (by simp)

end Outlet

end PanelLink
