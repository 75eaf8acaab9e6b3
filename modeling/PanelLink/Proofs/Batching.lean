import PanelLink.Link
import PanelLink.Proofs.Commanding
import PanelLink.Proofs.Transmitting

/-!
Commands that need several frames. The frames go out one after the other, each written and
flushed before the next begins, and the first that fails ends it. So the line has the
frames before that one and the front of it.
-/

namespace PanelLink

/-! ## What one transmission leaves -/

namespace Outlet

theorem Transmission.accepted {frame : Bytes} {before after : Sink}
    {writing flushing : List SinkCall} {result : Except FrameError Unit}
    (transmission : Transmission frame before writing flushing result after) :
    after.accepted = before.accepted ++ Sink.taken writing := by
  calc after.accepted = Sink.taken (before.calls ++ (writing ++ flushing)) := by
        rw [← transmission.recorded]
        rfl
    _ = before.accepted ++ Sink.taken writing := by
        rw [Sink.taken_append, Sink.taken_append,
          Sink.taken_of_isFlush transmission.flushes, List.append_nil]
        rfl

/-! ## Frames in a row -/

inductive Transmissions : List Bytes → Sink → Sink → Prop where
  | nil (sink : Sink) : Transmissions [] sink sink
  | cons {frame : Bytes} {frames : List Bytes} {before between after : Sink}
      {writing flushing : List SinkCall} :
      Transmission frame before writing flushing (.ok ()) between →
      Transmissions frames between after → Transmissions (frame :: frames) before after

theorem Transmissions.accepted {frames : List Bytes} {before after : Sink}
    (transmissions : Transmissions frames before after) :
    after.accepted = before.accepted ++ frames.flatten := by
  induction transmissions with
  | nil sink => exact (List.append_nil _).symm
  | cons transmission _ induction =>
      have whole := (transmission.ok_iff.mp rfl).1
      rw [induction, transmission.accepted, whole, List.flatten_cons, List.append_assoc]

/-- How sending ends at a frame, with the part of the frame that is on the line: it is
refused before any call, or its transmission fails. -/
inductive StopsAt (limit : Nat) (frame : Bytes) (before : Sink) :
    FrameError → Bytes → Sink → Prop where
  | refused (beyond : limit < frame.length - 2) :
      StopsAt limit frame before (.oversize limit) [] before
  | failed {writing flushing : List SinkCall} {error : FrameError} {after : Sink} :
      Transmission frame before writing flushing (.error error) after →
      StopsAt limit frame before error (Sink.taken writing) after

namespace StopsAt

variable {limit : Nat} {frame part : Bytes} {before after : Sink} {error : FrameError}

theorem front (stops : StopsAt limit frame before error part after) : part <+: frame := by
  cases stops with
  | refused => exact List.nil_prefix
  | failed transmission => exact transmission.front

theorem accepted (stops : StopsAt limit frame before error part after) :
    after.accepted = before.accepted ++ part := by
  cases stops with
  | refused => exact (List.append_nil _).symm
  | failed transmission => exact transmission.accepted

theorem of_oversize {bound : Nat}
    (stops : StopsAt limit frame before (.oversize bound) part after) :
    limit < frame.length - 2 ∧ part = [] ∧ after = before := by
  cases stops with
  | refused beyond => exact ⟨beyond, rfl, rfl⟩
  | failed transmission =>
      rcases transmission.ended with ended | ended | ⟨cause, ended⟩ <;> cases ended

end StopsAt

theorem sendEncoded_cases (frame : Bytes) (outlet : Outlet) :
    (∃ writing flushing later, outlet.sendEncoded frame = (.ok (), later) ∧
        Transmission frame outlet.sink writing flushing (.ok ()) later.sink ∧
        later.limit = outlet.limit) ∨
      ∃ error part later, outlet.sendEncoded frame = (.error error, later) ∧
        StopsAt outlet.limit frame outlet.sink error part later.sink := by
  rcases Nat.lt_or_ge outlet.limit (frame.length - 2) with beyond | within
  · exact .inr ⟨_, [], outlet, (sendsOnce_sendEncoded frame).refused outlet beyond,
      .refused beyond⟩
  · have sameLimit := limit_sendEncoded frame outlet
    rcases (sendsOnce_sendEncoded frame).transmitted outlet within with
      ⟨writing, flushing, transmission⟩
    cases sent : outlet.sendEncoded frame with
    | mk result later =>
        rw [sent] at transmission sameLimit
        cases result with
        | ok => exact .inl ⟨writing, flushing, later, rfl, transmission, sameLimit⟩
        | error error => exact .inr ⟨error, _, later, rfl, .failed transmission⟩

theorem sendEncoded_of_accept {frame : Bytes} {limit count : Nat}
    (script : List WriteReply) (pending : frame ≠ [])
    (fits : Frame.fits limit frame.length = true) (enough : frame.length ≤ count) :
    (start limit { writes := .accept count :: script }).sendEncoded frame =
      (.ok (), .start limit { writes := script, calls := [.wrote frame, .flushed] }) := by
  have positive : count ≠ 0 := by
    have nonempty := List.length_pos_iff.mpr pending
    omega
  have delivered :
      Sink.deliver (.accept count :: script) frame =
        ⟨.ok (), [.wrote frame], script⟩ := by
    rw [Sink.deliver, if_neg positive, List.take_of_length_le enough,
      List.drop_eq_nil_of_le enough, Sink.deliver]
    · rfl
    · exact pending
  rw [sendEncoded, start, if_pos fits, Sink.writeAll, delivered]
  rfl

end Outlet

namespace Link

open Outlet

theorem sendFrames_transmissions {frames : List Bytes} {outlet later : Outlet}
    (sent : sendFrames frames outlet = (.ok (), later)) :
    Transmissions frames outlet.sink later.sink := by
  induction frames generalizing outlet with
  | nil =>
      cases sent
      exact .nil _
  | cons frame frames induction =>
      rw [sendFrames] at sent
      rcases outlet.sendEncoded_cases frame with
        ⟨writing, flushing, next, succeeded, transmission, _⟩ |
        ⟨error, part, next, failed, _⟩
      · rw [succeeded] at sent
        exact .cons transmission (induction sent)
      · rw [failed] at sent
        cases sent

theorem sendFrames_stopsAt {frames : List Bytes} {outlet later : Outlet}
    {error : FrameError} (failed : sendFrames frames outlet = (.error error, later)) :
    ∃ done frame rest between part, frames = done ++ frame :: rest ∧
      Transmissions done outlet.sink between ∧
      StopsAt outlet.limit frame between error part later.sink := by
  induction frames generalizing outlet with
  | nil => cases failed
  | cons frame frames induction =>
      rw [sendFrames] at failed
      rcases outlet.sendEncoded_cases frame with
        ⟨writing, flushing, next, succeeded, transmission, sameLimit⟩ |
        ⟨cause, part, next, refused, stops⟩
      · rw [succeeded] at failed
        rcases induction failed with
          ⟨done, last, rest, between, part, rfl, transmissions, stops⟩
        rw [sameLimit] at stops
        exact ⟨frame :: done, last, rest, between, part, rfl,
          .cons transmission transmissions, stops⟩
      · rw [refused] at failed
        cases failed
        exact ⟨[], frame, frames, outlet.sink, part, rfl, .nil _, stops⟩

theorem transmissions_of_send {commands : List Command} {link : Link} {sent : List Bytes}
    (succeeded : (link.send commands).1 = .ok sent) :
    sent = Command.frames commands ∧
      Transmissions (Command.frames commands) link.outlet.sink
        (link.send commands).2.outlet.sink := by
  cases sending : sendFrames (Command.frames commands) link.outlet with
  | mk result outlet =>
      simp only [send, sending] at succeeded ⊢
      cases result with
      | ok =>
          cases succeeded
          exact ⟨rfl, sendFrames_transmissions sending⟩
      | error cause => cases succeeded

theorem stopsAt_of_send {commands : List Command} {link : Link} {error : LinkError}
    (failed : (link.send commands).1 = .error error) :
    ∃ done frame rest between cause part,
    Command.frames commands = done ++ frame :: rest ∧
      error = .frame cause ∧ Transmissions done link.outlet.sink between ∧
      StopsAt link.outlet.limit frame between cause part
        (link.send commands).2.outlet.sink := by
  cases sending : sendFrames (Command.frames commands) link.outlet with
  | mk result outlet =>
      simp only [send, sending] at failed ⊢
      cases result with
      | ok => cases failed
      | error cause =>
          cases failed
          rcases sendFrames_stopsAt sending with
            ⟨done, frame, rest, between, part, split, transmissions, stops⟩
          exact ⟨done, frame, rest, between, cause, part, split, rfl, transmissions,
            stops⟩

theorem length_of_mem_frames {commands : List Command} {frame : Bytes}
    (member : frame ∈ Command.frames commands) : frame.length ≤ 256 := by
  rcases List.mem_map.mp member with ⟨batch, among, rfl⟩
  exact Command.length_encode_of_mem_contents (List.mem_map_of_mem among)

/-- Commands are sent in their frames, all of them or up to a place in one: what is on the
line then is the frames before it and the front of that one. A limit of 254 is enough for
any commands. -/
theorem send_in_frames (commands : List Command) (link : Link) :
    let frames := Command.frames commands
    let before := link.outlet.sink
    let after := (link.send commands).2.outlet.sink
    (∀ sent, (link.send commands).1 = .ok sent →
      sent = frames ∧ Transmissions frames before after ∧
        after.accepted = before.accepted ++ frames.flatten) ∧
    (∀ error, (link.send commands).1 = .error error →
      ∃ done frame rest between cause part,
        frames = done ++ frame :: rest ∧ error = .frame cause ∧
        Transmissions done before between ∧
          StopsAt link.outlet.limit frame between cause part after ∧
        after.accepted = before.accepted ++ (done.flatten ++ part) ∧ part <+: frame ∧
        ∀ limit, cause = .oversize limit → part = [] ∧ after = between) ∧
    (254 ≤ link.outlet.limit → ∀ limit,
      (link.send commands).1 ≠ .error (.frame (.oversize limit))) := by
  intro frames before after
  refine ⟨?_, ?_, ?_⟩
  · intro sent succeeded
    rcases transmissions_of_send succeeded with ⟨same, transmissions⟩
    exact ⟨same, transmissions, transmissions.accepted⟩
  · intro error failed
    rcases stopsAt_of_send failed with
      ⟨done, frame, rest, between, cause, part, split, same, transmissions, stops⟩
    refine ⟨done, frame, rest, between, cause, part, split, same, transmissions, stops,
      ?_, stops.front, ?_⟩
    · rw [stops.accepted, transmissions.accepted, List.append_assoc]
    · rintro limit rfl
      exact stops.of_oversize.2
  · intro enough limit failed
    rcases stopsAt_of_send failed with
      ⟨done, frame, rest, between, cause, part, split, same, transmissions, stops⟩
    cases same
    have beyond := stops.of_oversize.1
    have member : frame ∈ Command.frames commands := by
      rw [split]
      exact List.mem_append_right done List.mem_cons_self
    have short := length_of_mem_frames member
    omega

theorem send_in_frames_cut_off :
    let sink : Sink :=
      { writes := [.accept 256, .accept 2, .failure (.ofKind .brokenPipe)] }
    ∃ link, (start 254 { script := [] } sink).send (List.replicate 126 .refresh) =
        (.error (.frame (.transfer (.ofKind .brokenPipe))), link) ∧
      link.written = Command.frame (List.replicate 125 .refresh) ++ [0xC0, 0x20] ∧
      ∃ done frame rest between part,
        Command.frames (List.replicate 126 .refresh) = done ++ frame :: rest ∧
        Transmissions done sink between ∧
        StopsAt 254 frame between (.transfer (.ofKind .brokenPipe)) part
          link.outlet.sink ∧
        link.written = done.flatten ++ part ∧ part <+: frame := by
  intro sink
  -- The first frame is any that takes the place: only its length matters, its checksum is
  -- long to compute.
  have cutOff : ∀ (commands : List Command) (first : Bytes),
      Command.frames commands = [first, Command.frame [.refresh]] →
      first ≠ [] → first.length ≤ 256 →
      (start 254 { script := [] } sink).send commands =
        (.error (.frame (.transfer (.ofKind .brokenPipe))),
          ⟨.start 254 { script := [] },
            .start 254 { calls := [.wrote first, .flushed, .wrote [0xC0, 0x20],
              .writeFailed (.ofKind .brokenPipe)] }⟩) := by
    intro commands first cut pending short
    have fits : Frame.fits 254 first.length = true := decide_eq_true (by omega)
    have sentFirst : (Outlet.start 254 sink).sendEncoded first = (.ok (), .start 254
        { writes := [.accept 2, .failure (.ofKind .brokenPipe)],
          calls := [.wrote first, .flushed] }) :=
      sendEncoded_of_accept _ pending fits short
    rw [send, start, cut, sendFrames, sentFirst]
    rfl
  have cut : Command.frames (List.replicate 126 .refresh) =
      [Command.frame (List.replicate 125 .refresh), Command.frame [.refresh]] := by
    rw [List.replicate_succ, Command.frames, Command.batches]
    simp [Command.batches, Command.batchSize]
  have short : (Command.frame (List.replicate 125 .refresh)).length ≤ 256 := by
    apply length_of_mem_frames
    rw [cut]
    exact List.mem_cons_self
  have sent := cutOff _ _ cut (List.cons_ne_nil _ _) short
  rcases (send_in_frames (List.replicate 126 .refresh)
    (start 254 { script := [] } sink)).2.1 _
      (congrArg Prod.fst sent) with
    ⟨done, frame, rest, between, cause, part, split, same, transmissions, stops, accepted,
      front, _⟩
  cases same
  rw [sent] at stops accepted
  exact ⟨_, sent, rfl, done, frame, rest, between, part, split, transmissions, stops,
    accepted, front⟩

end Link

end PanelLink
