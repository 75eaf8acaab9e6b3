import PanelLink.Proofs.Accepting

/-!
One send, call by call. Each write offers what the calls before it have left of the frame,
until all is taken, a call takes nothing, or a call fails for good. The sink is flushed
when all is taken, and only then. The result can be read off the calls, and interrupted
calls leave no trace in it.
-/

namespace PanelLink

/-! ## Calls -/

namespace SinkCall

def failure? : SinkCall → Option Failure
  | writeFailed cause | flushFailed cause => some cause
  | _ => none

def goesOn : SinkCall → Bool
  | wrote bytes => bytes ≠ []
  | writeFailed cause | flushFailed cause => cause.isInterrupted
  | flushed => false

end SinkCall

namespace Sink

def firstFailure (calls : List SinkCall) : Option Failure :=
  (calls.filterMap SinkCall.failure?).find? fun cause => !cause.isInterrupted

theorem firstFailure_append (first second : List SinkCall) :
    firstFailure (first ++ second) = (firstFailure first).or (firstFailure second) := by
  rw [firstFailure, List.filterMap_append, List.find?_append]
  rfl

theorem firstFailure_cons_of_goesOn {call : SinkCall} (calls : List SinkCall)
    (goesOn : call.goesOn = true) :
    firstFailure (call :: calls) = firstFailure calls := by
  cases call with
  | wrote bytes => rfl
  | flushed => rfl
  | writeFailed cause | flushFailed cause =>
      have interrupted : cause.isInterrupted = true := goesOn
      apply List.find?_cons_of_neg
      simp [interrupted]

theorem mem_dropLast_cons {call first : SinkCall} {calls : List SinkCall}
    (member : call ∈ (first :: calls).dropLast) :
    call = first ∨ call ∈ calls.dropLast := by
  cases calls with
  | nil => cases member
  | cons second calls =>
      rw [List.dropLast_cons_cons] at member
      exact List.mem_cons.mp member

/-- What is left of `bytes`, and the sink, after `count` write calls that each offer what
is left. -/
def offer : (count : Nat) → Bytes → Sink → Bytes × Sink
  | 0, bytes, sink => (bytes, sink)
  | count + 1, bytes, sink =>
      match sink.write bytes with
      | (.ok taken, later) => offer count (bytes.drop taken) later
      | (.error _, later) => offer count bytes later

def flushTimes : (count : Nat) → Sink → Sink
  | 0, sink => sink
  | count + 1, sink => flushTimes count sink.flush.2

/-! ## Writing to the end -/

theorem offer_succ_of_ok {sink later : Sink} {bytes : Bytes} {taken : Nat} (count : Nat)
    (wrote : sink.write bytes = (.ok taken, later)) :
    sink.offer (count + 1) bytes = later.offer count (bytes.drop taken) := by
  rw [offer, wrote]

theorem offer_succ_of_error {sink later : Sink} {bytes : Bytes} {cause : Failure}
    (count : Nat) (failed : sink.write bytes = (.error cause, later)) :
    sink.offer (count + 1) bytes = later.offer count bytes := by
  rw [offer, failed]

theorem offer_deliver (script : List WriteReply) (flushes : List FlushReply)
    (made : List SinkCall) (bytes : Bytes) :
    (offer (deliver script bytes).calls.length bytes ⟨script, flushes, made⟩).2 =
      ⟨(deliver script bytes).remaining, flushes,
        made ++ (deliver script bytes).calls⟩ := by
  fun_induction deliver script bytes generalizing made with
  | case1 script => simp [offer]
  | case2 bytes pending => rfl
  | case3 script bytes pending => rfl
  | case4 count script bytes pending positive induction =>
      have wrote : write bytes ⟨.accept count :: script, flushes, made⟩ =
        (.ok (min count bytes.length),
          ⟨script, flushes, made ++ [.wrote (bytes.take count)]⟩) := rfl
      have left : bytes.drop (min count bytes.length) = bytes.drop count :=
        List.drop_eq_drop_min.symm
      rw [Delivery.after, List.length_cons, offer_succ_of_ok _ wrote, left, induction,
        List.append_assoc, List.singleton_append]
  | case5 cause script bytes pending interrupted induction =>
      have failed : write bytes ⟨.failure cause :: script, flushes, made⟩ =
        (.error cause, ⟨script, flushes, made ++ [.writeFailed cause]⟩) := rfl
      rw [Delivery.after, List.length_cons, offer_succ_of_error _ failed, induction,
        List.append_assoc, List.singleton_append]
  | case6 cause script bytes pending lasting => rfl

theorem writeAll_delivers {bytes : Bytes} {sink later : Sink}
    {result : Except Refusal Unit} (wrote : sink.writeAll bytes = (result, later)) :
    ∃ calls, Delivers bytes calls result ∧ later = (sink.offer calls.length bytes).2 ∧
      later.calls = sink.calls ++ calls := by
  cases wrote
  refine ⟨(deliver sink.writes bytes).calls, deliver_delivers sink.writes bytes, ?_, rfl⟩
  exact (offer_deliver sink.writes sink.flushes sink.calls bytes).symm

example :
    writeAll [1, 2, 3]
      { writes := [.accept 1, .failure (.ofKind .interrupted), .accept 0] } =
      (.error .stalled,
        { calls := [.wrote [1], .writeFailed (.ofKind .interrupted), .wrote []] }) := rfl

namespace Delivers

variable {bytes : Bytes} {calls : List SinkCall} {result : Except Refusal Unit}

theorem isFlush_eq_false (delivers : Delivers bytes calls result) :
    ∀ call ∈ calls, call.isFlush = false := by
  induction delivers with
  | done => exact fun _ member => nomatch member
  | stalled | failed => simp [SinkCall.isFlush]
  | again _ _ _ induction | took _ _ induction =>
      exact List.forall_mem_cons.mpr ⟨rfl, induction⟩

theorem stalled_iff (delivers : Delivers bytes calls result) :
    result = .error .stalled ↔ .wrote [] ∈ calls := by
  induction delivers with
  | done | stalled | failed => simp
  | again _ _ _ induction => simp [induction]
  | took something _ induction => simp [induction, Ne.symm something]

theorem failed_iff (delivers : Delivers bytes calls result) (cause : Failure) :
    result = .error (.failed cause) ↔ firstFailure calls = some cause := by
  induction delivers with
  | done | stalled => simp [firstFailure, SinkCall.failure?]
  | failed _ lasting => simp [firstFailure, SinkCall.failure?, lasting]
  | @again _ interruption calls _ _ interrupted _ induction =>
      have passed : SinkCall.goesOn (.writeFailed interruption) = true := interrupted
      rw [firstFailure_cons_of_goesOn calls passed, induction]
  | took _ _ induction => exact induction

theorem not_taken_before (delivers : Delivers bytes calls result) :
    ∀ first call rest, calls = first ++ call :: rest → taken first ≠ bytes := by
  induction delivers with
  | done =>
      intro first call rest split
      simp at split
  | stalled pending | failed pending =>
      intro first call rest split
      cases first with
      | nil => exact pending.symm
      | cons _ first => simp at split
  | again pending _ _ induction =>
      intro first call rest split
      cases first with
      | nil => exact pending.symm
      | cons _ first =>
          cases split
          exact induction first call rest rfl
  | took something _ induction =>
      intro first call rest split
      cases first with
      | nil => exact (List.append_ne_nil_of_left_ne_nil something _).symm
      | cons _ first =>
          cases split
          rw [taken_cons, SinkCall.taken, ne_eq, List.append_right_inj]
          exact induction first call rest rfl

theorem goesOn_of_ok (delivers : Delivers bytes calls result)
    (succeeded : result = .ok ()) : ∀ call ∈ calls, call.goesOn = true := by
  induction delivers with
  | done => exact fun _ member => nomatch member
  | stalled | failed => cases succeeded
  | again _ interrupted _ induction =>
      exact List.forall_mem_cons.mpr ⟨interrupted, induction succeeded⟩
  | took something _ induction =>
      exact List.forall_mem_cons.mpr ⟨decide_eq_true something, induction succeeded⟩

theorem goesOn_of_mem_dropLast (delivers : Delivers bytes calls result) :
    ∀ call ∈ calls.dropLast, call.goesOn = true := by
  induction delivers with
  | done | stalled | failed => exact fun _ member => nomatch member
  | again _ interrupted _ induction =>
      intro call member
      rcases mem_dropLast_cons member with rfl | later
      · exact interrupted
      · exact induction call later
  | took something _ induction =>
      intro call member
      rcases mem_dropLast_cons member with rfl | later
      · exact decide_eq_true something
      · exact induction call later

end Delivers

/-! ## Flushing -/

theorem flushTimes_settle (script : List FlushReply) (writes : List WriteReply)
    (made : List SinkCall) :
    flushTimes (settle script).2.1.length ⟨writes, script, made⟩ =
      ⟨writes, (settle script).2.2, made ++ (settle script).2.1⟩ := by
  fun_induction settle script generalizing made with
  | case1 => rfl
  | case2 script => rfl
  | case3 cause script interrupted result calls rest settled induction =>
      have failed : (flush ⟨writes, .failure cause :: script, made⟩).2 =
        ⟨writes, script, made ++ [.flushFailed cause]⟩ := rfl
      rw [settled] at induction
      rw [List.length_cons, flushTimes, failed, induction, List.append_assoc,
        List.singleton_append]
  | case4 cause script lasting => rfl

theorem flushAll_settles {sink later : Sink} {result : Except Failure Unit}
    (flushed : sink.flushAll = (result, later)) :
    ∃ calls, Settles calls result ∧ later = sink.flushTimes calls.length ∧
      later.calls = sink.calls ++ calls := by
  cases flushed
  refine ⟨(settle sink.flushes).2.1, settle_settles sink.flushes, ?_, rfl⟩
  exact (flushTimes_settle sink.flushes sink.writes sink.calls).symm

namespace Settles

variable {calls : List SinkCall} {result : Except Failure Unit}

theorem ne_nil (settles : Settles calls result) : calls ≠ [] := by
  cases settles <;> exact List.cons_ne_nil _ _

theorem ok_iff (settles : Settles calls result) :
    result = .ok () ↔
    ∃ interrupts : List Failure, (∀ cause ∈ interrupts, cause.isInterrupted = true) ∧
      calls = interrupts.map .flushFailed ++ [.flushed] := by
  induction settles with
  | done => exact ⟨fun _ => ⟨[], by simp, rfl⟩, fun _ => rfl⟩
  | failed lasting =>
      refine ⟨fun succeeded => (nomatch succeeded), ?_⟩
      rintro ⟨interrupts, _, form⟩
      cases interrupts <;> simp at form
  | @again cause calls result interrupted _ induction =>
      rw [induction]
      constructor
      · rintro ⟨interrupts, passed, rfl⟩
        exact ⟨cause :: interrupts, List.forall_mem_cons.mpr ⟨interrupted, passed⟩, rfl⟩
      · rintro ⟨interrupts, passed, form⟩
        cases interrupts with
        | nil => cases form
        | cons other interrupts =>
            cases form
            exact ⟨interrupts,
              fun cause member => passed cause (List.mem_cons_of_mem _ member), rfl⟩

theorem error_iff (settles : Settles calls result) (cause : Failure) :
    result = .error cause ↔ firstFailure calls = some cause := by
  induction settles with
  | done => simp [firstFailure, SinkCall.failure?]
  | failed lasting => simp [firstFailure, SinkCall.failure?, lasting]
  | @again interruption calls _ interrupted _ induction =>
      have passed : SinkCall.goesOn (.flushFailed interruption) = true := interrupted
      rw [firstFailure_cons_of_goesOn calls passed, induction]

theorem goesOn_of_mem_dropLast (settles : Settles calls result) :
    ∀ call ∈ calls.dropLast, call.goesOn = true := by
  induction settles with
  | done | failed => exact fun _ member => nomatch member
  | again interrupted _ induction =>
      intro call member
      rcases mem_dropLast_cons member with rfl | later
      · exact interrupted
      · exact induction call later

end Settles

end Sink

/-! ## Interruptions -/

def WriteReply.counts : WriteReply → Bool
  | accept _ => true
  | failure cause => !cause.isInterrupted

def FlushReply.counts : FlushReply → Bool
  | done => true
  | failure cause => !cause.isInterrupted

def SinkCall.counts : SinkCall → Bool
  | wrote _ | flushed => true
  | writeFailed cause | flushFailed cause => !cause.isInterrupted

namespace Sink

def uninterrupted (sink : Sink) : Sink where
  writes := sink.writes.filter WriteReply.counts
  flushes := sink.flushes.filter FlushReply.counts
  calls := sink.calls.filter SinkCall.counts

theorem uninterrupted_record (calls : List SinkCall) (sink : Sink) :
    (sink.record calls).uninterrupted =
      sink.uninterrupted.record (calls.filter SinkCall.counts) := by
  simp [uninterrupted, record]

theorem deliver_uninterrupted (script : List WriteReply) (bytes : Bytes) :
    deliver (script.filter WriteReply.counts) bytes =
      { result := (deliver script bytes).result
        calls := (deliver script bytes).calls.filter SinkCall.counts
        remaining := (deliver script bytes).remaining.filter WriteReply.counts } := by
  fun_induction deliver script bytes with
  | case1 script =>
      rw [deliver]
      rfl
  | case2 bytes pending =>
      rw [List.filter_nil, deliver]
      · rfl
      · exact pending
  | case3 script bytes pending =>
      rw [List.filter_cons_of_pos rfl, deliver]
      · rfl
      · exact pending
  | case4 count script bytes pending positive induction =>
      rw [List.filter_cons_of_pos rfl, deliver, if_neg positive, induction]
      · rfl
      · exact pending
  | case5 cause script bytes pending interrupted induction =>
      have replyHidden : ¬WriteReply.counts (.failure cause) = true := by
        simp [WriteReply.counts, interrupted]
      have callHidden : ¬SinkCall.counts (.writeFailed cause) = true := by
        simp [SinkCall.counts, interrupted]
      rw [List.filter_cons_of_neg replyHidden, induction, Delivery.after,
        List.filter_cons_of_neg callHidden]
  | case6 cause script bytes pending lasting =>
      have replyKept : WriteReply.counts (.failure cause) = true := by
        simp [WriteReply.counts, lasting]
      have callKept : SinkCall.counts (.writeFailed cause) = true := by
        simp [SinkCall.counts, lasting]
      rw [List.filter_cons_of_pos replyKept, deliver, if_neg lasting,
        List.filter_cons_of_pos callKept]
      · rfl
      · exact pending

theorem settle_uninterrupted (script : List FlushReply) :
    settle (script.filter FlushReply.counts) =
      ((settle script).1, (settle script).2.1.filter SinkCall.counts,
        (settle script).2.2.filter FlushReply.counts) := by
  fun_induction settle script with
  | case1 => rfl
  | case2 script => rfl
  | case3 cause script interrupted result calls rest settled induction =>
      have replyHidden : ¬FlushReply.counts (.failure cause) = true := by
        simp [FlushReply.counts, interrupted]
      have callHidden : ¬SinkCall.counts (.flushFailed cause) = true := by
        simp [SinkCall.counts, interrupted]
      rw [List.filter_cons_of_neg replyHidden, induction, settled,
        List.filter_cons_of_neg callHidden]
  | case4 cause script lasting =>
      have replyKept : FlushReply.counts (.failure cause) = true := by
        simp [FlushReply.counts, lasting]
      have callKept : SinkCall.counts (.flushFailed cause) = true := by
        simp [SinkCall.counts, lasting]
      rw [List.filter_cons_of_pos replyKept, settle, if_neg lasting,
        List.filter_cons_of_pos callKept]
      rfl

theorem writeAll_uninterrupted (bytes : Bytes) (sink : Sink) :
    sink.uninterrupted.writeAll bytes =
      ((sink.writeAll bytes).1, (sink.writeAll bytes).2.uninterrupted) := by
  have delivered := deliver_uninterrupted sink.writes bytes
  simp only [writeAll, uninterrupted_record]
  rw [uninterrupted, delivered]
  rfl

theorem flushAll_uninterrupted (sink : Sink) :
    sink.uninterrupted.flushAll = (sink.flushAll.1, sink.flushAll.2.uninterrupted) := by
  have settled := settle_uninterrupted sink.flushes
  simp only [flushAll, uninterrupted_record]
  rw [uninterrupted, settled]
  rfl

end Sink

/-! ## One send -/

namespace Outlet

/-- What sending a frame comes to: the write calls made, the flush calls made behind them,
the result, and the sink in the end. -/
structure Transmission (frame : Bytes) (before : Sink) (writing flushing : List SinkCall)
    (result : Except FrameError Unit) (after : Sink) : Prop where
  /-- Each write is made with what the ones before it have left. -/
  performed : after = (before.offer writing.length frame).2.flushTimes flushing.length
  recorded : after.calls = before.calls ++ (writing ++ flushing)
  writes : ∀ call ∈ writing, call.isFlush = false
  flushes : ∀ call ∈ flushing, call.isFlush = true
  front : Sink.taken writing <+: frame
  pending : ∀ first call rest, writing = first ++ call :: rest → Sink.taken first ≠ frame
  flushes_iff : flushing ≠ [] ↔ Sink.taken writing = frame
  /-- Only the last call can succeed or fail for good, or take nothing. -/
  goesOn : ∀ call ∈ (writing ++ flushing).dropLast, call.goesOn = true
  ended : result = .ok () ∨ result = .error .closed ∨
    ∃ cause, result = .error (.transfer cause)
  ok_iff : result = .ok () ↔ Sink.taken writing = frame ∧ ∃ interrupts : List Failure,
    (∀ cause ∈ interrupts, cause.isInterrupted = true) ∧
      flushing = interrupts.map .flushFailed ++ [.flushed]
  closed_iff : result = .error .closed ↔ .wrote [] ∈ writing
  transfer_iff : ∀ cause, result = .error (.transfer cause) ↔
    Sink.firstFailure (writing ++ flushing) = some cause

theorem transmission_of_flushed {frame : Bytes} {sink written after : Sink}
    {result : Except Failure Unit} (wrote : sink.writeAll frame = (.ok (), written))
    (flushed : written.flushAll = (result, after)) :
    ∃ writing flushing,
    Transmission frame sink writing flushing (result.mapError .transfer) after := by
  rcases Sink.writeAll_delivers wrote with ⟨writing, delivers, offered, recorded⟩
  rcases Sink.flushAll_settles flushed with ⟨flushing, settles, performed, recordedFlush⟩
  have whole : Sink.taken writing = frame := delivers.ok_iff.mp rfl
  have unfailed : Sink.firstFailure writing = none := by
    apply Option.eq_none_iff_forall_ne_some.mpr
    intro cause failed
    cases (delivers.failed_iff cause).mpr failed
  have unstalled : .wrote [] ∉ writing := by
    intro member
    cases delivers.stalled_iff.mpr member
  refine ⟨writing, flushing, ?_⟩
  exact
    { performed := by rw [performed, offered]
      recorded := by rw [recordedFlush, recorded, List.append_assoc]
      writes := delivers.isFlush_eq_false
      flushes := settles.isFlush_eq_true
      front := delivers.front
      pending := delivers.not_taken_before
      flushes_iff := by simp [whole, settles.ne_nil]
      goesOn := by
        rw [List.dropLast_append_of_ne_nil settles.ne_nil]
        intro call member
        rcases List.mem_append.mp member with early | late
        · exact delivers.goesOn_of_ok rfl call early
        · exact settles.goesOn_of_mem_dropLast call late
      ended := by
        cases result with
        | ok => exact .inl rfl
        | error cause => exact .inr (.inr ⟨cause, rfl⟩)
      ok_iff := by
        rw [← settles.ok_iff]
        cases result <;> simp [Except.mapError, whole]
      closed_iff := by
        cases result <;> simp [Except.mapError, unstalled]
      transfer_iff := by
        intro cause
        rw [Sink.firstFailure_append, unfailed, Option.none_or, ← settles.error_iff]
        cases result <;> simp [Except.mapError] }

theorem transmission_of_refused {frame : Bytes} {sink after : Sink} {refusal : Refusal}
    (refused : sink.writeAll frame = (.error refusal, after)) :
    ∃ writing,
    Transmission frame sink writing [] (.error (refusalError refusal)) after := by
  rcases Sink.writeAll_delivers refused with ⟨writing, delivers, offered, recorded⟩
  have short : Sink.taken writing ≠ frame := by
    intro whole
    cases delivers.ok_iff.mpr whole
  refine ⟨writing, ?_⟩
  exact
    { performed := offered
      recorded := by rw [recorded, List.append_nil]
      writes := delivers.isFlush_eq_false
      flushes := fun _ member => nomatch member
      front := delivers.front
      pending := delivers.not_taken_before
      flushes_iff := by simp [short]
      goesOn := by
        rw [List.append_nil]
        exact delivers.goesOn_of_mem_dropLast
      ended := by
        cases refusal with
        | stalled => exact .inr (.inl rfl)
        | failed cause => exact .inr (.inr ⟨cause, rfl⟩)
      ok_iff := by simp [short]
      closed_iff := by
        rw [← delivers.stalled_iff]
        cases refusal <;> simp [refusalError]
      transfer_iff := by
        intro cause
        rw [List.append_nil, ← delivers.failed_iff]
        cases refusal <;> simp [refusalError] }

theorem sendEncoded_transmission {frame : Bytes} {outlet : Outlet}
    (fits : Frame.fits outlet.limit frame.length = true) :
    ∃ writing flushing, Transmission frame outlet.sink writing flushing
      (outlet.sendEncoded frame).1 (outlet.sendEncoded frame).2.sink := by
  rw [sendEncoded, if_pos fits]
  cases wrote : outlet.sink.writeAll frame with
  | mk result written =>
      cases result with
      | ok => exact transmission_of_flushed wrote rfl
      | error refusal =>
          rcases transmission_of_refused wrote with ⟨writing, transmission⟩
          exact ⟨writing, [], transmission⟩

theorem limit_sendEncoded (frame : Bytes) (outlet : Outlet) :
    (outlet.sendEncoded frame).2.limit = outlet.limit := by
  rw [sendEncoded]
  split
  · split <;> rfl
  · rfl

def uninterrupted (outlet : Outlet) : Outlet :=
  { outlet with sink := outlet.sink.uninterrupted }

theorem flush_uninterrupted (outlet : Outlet) :
    outlet.uninterrupted.flush = (outlet.flush.1, outlet.flush.2.uninterrupted) := by
  simp only [flush, uninterrupted, Sink.flushAll_uninterrupted]

theorem sendEncoded_uninterrupted (frame : Bytes) (outlet : Outlet) :
    outlet.uninterrupted.sendEncoded frame =
      ((outlet.sendEncoded frame).1, (outlet.sendEncoded frame).2.uninterrupted) := by
  have wrote := Sink.writeAll_uninterrupted frame outlet.sink
  have sameLimit : outlet.uninterrupted.limit = outlet.limit := rfl
  have sameSink : outlet.uninterrupted.sink = outlet.sink.uninterrupted := rfl
  rw [sendEncoded, sendEncoded, sameLimit, sameSink, wrote]
  split
  · cases outlet.sink.writeAll frame with
    | mk result written =>
        cases result with
        | ok => exact flush_uninterrupted { outlet with sink := written }
        | error refusal => rfl
  · rfl

/-- What a sender of `frame` does, whatever the sink answers. A frame over the limit is
refused without a call. Any other is transmitted, and interruptions change nothing but how
many calls are made. -/
structure SendsOnce (frame : Bytes) (sender : Outlet → Except FrameError Unit × Outlet) :
    Prop where
  refused : ∀ outlet, outlet.limit < frame.length - 2 →
    sender outlet = (.error (.oversize outlet.limit), outlet)
  transmitted : ∀ outlet, frame.length - 2 ≤ outlet.limit → ∃ writing flushing,
    Transmission frame outlet.sink writing flushing (sender outlet).1
      (sender outlet).2.sink
  uninterrupted : ∀ outlet, sender outlet.uninterrupted =
    ((sender outlet).1, (sender outlet).2.uninterrupted)

theorem sendsOnce_sendEncoded (frame : Bytes) : SendsOnce frame (sendEncoded frame) := by
  constructor
  · intro outlet beyond
    exact sendEncoded_of_not_fits (decide_eq_false (Nat.not_le_of_lt beyond))
  · intro outlet within
    exact sendEncoded_transmission (decide_eq_true within)
  · exact sendEncoded_uninterrupted frame

theorem Transmission.writing_eq_nil {before after : Sink}
    {writing flushing : List SinkCall} {result : Except FrameError Unit}
    (transmission : Transmission [] before writing flushing result after) :
    writing = [] := by
  cases writing with
  | nil => rfl
  | cons call rest => exact absurd rfl (transmission.pending [] call rest rfl)

/-- A content is sent as its frame, and encoded bytes are sent as they are. Of no bytes at
all, none are written, but the sink is flushed. -/
theorem send_once :
    (∀ content : Bytes, SendsOnce (Frame.encode content) (send content)) ∧
      (∀ frame : Bytes, SendsOnce frame (sendEncoded frame)) ∧
      ∀ outlet : Outlet, ∃ flushing, flushing ≠ [] ∧
        Transmission [] outlet.sink [] flushing (outlet.sendEncoded []).1
          (outlet.sendEncoded []).2.sink := by
  refine ⟨?_, sendsOnce_sendEncoded, ?_⟩
  · intro content
    exact sendsOnce_sendEncoded (Frame.encode content)
  · intro outlet
    rcases (sendsOnce_sendEncoded []).transmitted outlet (Nat.zero_le _) with
      ⟨writing, flushing, transmission⟩
    cases transmission.writing_eq_nil
    exact ⟨flushing, transmission.flushes_iff.mpr rfl, transmission⟩

theorem send_once_stalled :
    let sink : Sink :=
      { writes := [.accept 2, .failure (.ofKind .interrupted), .accept 0] }
    ∃ writing flushing,
      writing ++ flushing = [.wrote [0xC0, 0x40], .writeFailed (.ofKind .interrupted),
        .wrote []] ∧
        Transmission (Frame.encode [0x40]) sink writing flushing
          ((start 3 sink).send [0x40]).1
          ((start 3 sink).send [0x40]).2.sink ∧
        (start 2 sink).send [0x40] = (.error (.oversize 2), start 2 sink) := by
  intro sink
  rcases (send_once.1 [0x40]).transmitted (start 3 sink) (by decide) with
    ⟨writing, flushing, transmission⟩
  refine ⟨writing, flushing, ?_, transmission,
    (send_once.1 [0x40]).refused (start 2 sink) (by decide)⟩
  have made : ((start 3 sink).send [0x40]).2.sink.calls =
      [.wrote [0xC0, 0x40], .writeFailed (.ofKind .interrupted), .wrote []] := by
    decide +kernel
  rw [← made, transmission.recorded]
  rfl

end Outlet

end PanelLink
