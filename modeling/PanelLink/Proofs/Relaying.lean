import PanelLink.Proofs.Accepting
import PanelLink.Proofs.Results

/-!
Relaying is exact: a frame that was received goes out as the very bytes that it came in
with. A payload has one escaped form and a content one checksum, so the bytes between two
boundaries that were taken for a frame are those that the frame is written as, and they
are within the limit because they were when they came.
-/

namespace PanelLink

/-! ## Frames in their places -/

/-- A segment of a stream in its place: the bytes from a boundary, or from the start, to
the next boundary. -/
structure Place (stream : Bytes) where
  front : Bytes
  segment : Bytes
  behind : Bytes
  split : stream = front ++ (segment ++ [Escape.endByte]) ++ behind
  opened : front = [] ∨ ∃ before, front = before ++ [Escape.endByte]
  unbroken : Escape.endByte ∉ segment

namespace Place

structure Yields {stream : Bytes} (limit : Nat) (earlier : List (Except FrameError Frame))
    (frame : Frame) (place : Place stream) : Prop where
  before : (Receiver.start limit).frames place.front = earlier
  arrived :
    (Receiver.start limit).frames (place.front ++ (place.segment ++ [Escape.endByte])) =
      earlier ++ [.ok frame]
  decoded : Receiver.frameOf (Escape.decode place.segment) = .ok frame
  long : 3 ≤ place.segment.length
  within : place.segment.length ≤ limit

def first {segment : Bytes} (unbroken : Escape.endByte ∉ segment) (rest : Bytes) :
    Place (segment ++ [Escape.endByte] ++ rest) :=
  ⟨[], segment, rest, rfl, .inl rfl, unbroken⟩

def behindSegment {rest : Bytes} (segment : Bytes) (place : Place rest) :
    Place (segment ++ [Escape.endByte] ++ rest) where
  front := segment ++ [Escape.endByte] ++ place.front
  segment := place.segment
  behind := place.behind
  split := by
    rw [List.append_assoc (segment ++ _), List.append_assoc (segment ++ _), ← place.split]
  opened := by
    right
    rcases place.opened with none | ⟨before, ended⟩
    · exact ⟨segment, by rw [none, List.append_nil]⟩
    · exact ⟨segment ++ [Escape.endByte] ++ before,
        by rw [ended, List.append_assoc (segment ++ _)]⟩
  unbroken := place.unbroken

theorem Yields.behindSegment {rest : Bytes} {limit : Nat}
    {earlier : List (Except FrameError Frame)} {frame : Frame} {place : Place rest}
    (yields : place.Yields limit earlier frame) (segment : Bytes) :
    (place.behindSegment segment).Yields limit
      ((Receiver.start limit).frames (segment ++ [Escape.endByte]) ++ earlier) frame where
  before := by
    rw [Place.behindSegment, Receiver.frames_append_endByte_append, yields.before]
  arrived := by
    rw [Place.behindSegment, List.append_assoc (segment ++ _),
      Receiver.frames_append_endByte_append, yields.arrived, List.append_assoc]
  decoded := yields.decoded
  long := yields.long
  within := yields.within

/-- A segment comes to at most one result, so a frame among its results is the only one.
-/
theorem first_yields {limit : Nat} {segment : Bytes}
    {before after : List (Except FrameError Frame)} {frame : Frame}
    (unbroken : Escape.endByte ∉ segment)
    (read : (Receiver.start limit).frames (segment ++ [Escape.endByte]) =
      before ++ .ok frame :: after) (rest : Bytes) :
    (first unbroken rest).Yields limit before frame := by
  rcases Receiver.frames_segment_cases limit unbroken with
    ⟨_, reported⟩ | ⟨_, silent⟩ | ⟨long, within, closed⟩
  · have member : .ok frame ∈ [Except.error (FrameError.oversize limit)] := by
      rw [← reported, read]
      exact List.mem_append_right before List.mem_cons_self
    cases List.mem_singleton.mp member
  · have empty := silent.symm.trans read
    cases before <;> cases empty
  · have single := closed.symm.trans read
    cases before with
    | nil =>
        have same : Receiver.frameOf (Escape.decode segment) = .ok frame :=
          (List.cons.inj single).1
        rw [same] at closed
        exact ⟨rfl, closed, same, long, within⟩
    | cons result others =>
        have none := (List.cons.inj single).2
        cases others <;> cases none

end Place

theorem Receiver.exists_place {limit : Nat} {stream : Bytes}
    {before after : List (Except FrameError Frame)} {frame : Frame}
    (read : (start limit).frames stream = before ++ .ok frame :: after) :
    ∃ place : Place stream, place.Yields limit before frame := by
  induction stream using Escape.segment_induction generalizing before with
  | last bytes unbroken =>
      have member : .ok frame ∈ (start limit).frames bytes := by
        rw [read]
        exact List.mem_append_right before List.mem_cons_self
      rw [frames_unbroken limit unbroken] at member
      split at member
      · cases member
      · cases List.mem_singleton.mp member
  | ended segment rest unbroken induction =>
      rw [frames_append_endByte_append] at read
      rcases List.append_eq_append_iff.mp read with
        ⟨between, split, later⟩ | ⟨between, split, later⟩
      · rcases induction later with ⟨place, yields⟩
        rw [split]
        exact ⟨place.behindSegment segment, yields.behindSegment segment⟩
      · cases between with
        | nil =>
            rw [List.append_nil] at split
            have next : (start limit).frames rest = [] ++ .ok frame :: after := later.symm
            rcases induction next with ⟨place, yields⟩
            have whole := yields.behindSegment segment
            rw [split, List.append_nil] at whole
            exact ⟨place.behindSegment segment, whole⟩
        | cons result others =>
            cases (List.cons.inj later).1
            exact ⟨Place.first unbroken rest, Place.first_yields unbroken split rest⟩

namespace Place.Yields

variable {stream : Bytes} {limit : Nat} {earlier : List (Except FrameError Frame)}
  {frame : Frame} {place : Place stream}

theorem decode_eq (yields : place.Yields limit earlier frame) :
    Escape.decode place.segment = .ok (Checksum.append frame.content) ∧
      frame = Frame.ofContent frame.content := by
  have decoded := yields.decoded
  cases unescaped : Escape.decode place.segment with
  | error error =>
      rw [unescaped] at decoded
      cases decoded
  | ok payload =>
      rw [unescaped] at decoded
      rcases Frame.eq_of_ofPayload decoded with ⟨rfl, genuine⟩
      exact ⟨rfl, genuine⟩

theorem segment_eq (yields : place.Yields limit earlier frame) :
    place.segment = Escape.body (Checksum.append frame.content) :=
  Escape.eq_body_of_decode yields.decode_eq.1

theorem encode_eq (yields : place.Yields limit earlier frame) :
    Frame.encode frame.content =
      [Escape.endByte] ++ place.segment ++ [Escape.endByte] := by
  rw [yields.segment_eq]
  rfl

theorem passes (yields : place.Yields limit earlier frame) :
    Frame.Passes limit frame.content := by
  constructor
  · exact Receiver.content_ne_nil_of_segment yields.long yields.decode_eq.1
  · rw [Frame.fits_encode_iff, ← yields.segment_eq]
    exact yields.within

end Place.Yields

/-! ## Calls -/

namespace Inlet

theorem filter_isDecoded_calls_prefix (inlet : Inlet) (count : Nat) :
    (inlet.calls count).filter isDecoded <+: inlet.forecast.filter isDecoded := by
  have padding :
      (List.replicate count
        (Except.error (Source.lastError inlet.source.afterwards))).filter isDecoded =
        [] := by
    apply List.filter_replicate_of_neg
    rw [isDecoded_lastError]
    exact Bool.false_ne_true
  have whole : (inlet.forecast ++ List.replicate count
      (Except.error (Source.lastError inlet.source.afterwards))).filter isDecoded =
        inlet.forecast.filter isDecoded := by
    rw [List.filter_append, padding, List.append_nil]
  rw [calls_eq, ← whole]
  exact (List.take_prefix _ _).filter isDecoded

theorem exists_place_of_calls {limit count : Nat} {source : Source}
    {before after : List (Except FrameError Frame)} {frame : Frame}
    (called : (start limit source).calls count = before ++ .ok frame :: after) :
    ∃ place : Place (source.script.flatMap Reading.bytes),
      place.Yields limit (before.filter isDecoded) frame := by
  rcases filter_isDecoded_calls_prefix (start limit source) count with ⟨later, whole⟩
  rw [called, forecast_start, Receiver.filter_isDecoded_answers, List.filter_append,
    List.append_assoc] at whole
  exact Receiver.exists_place whole.symm

theorem passes_of_mem_calls {limit count : Nat} {source : Source} {frame : Frame}
    (member : .ok frame ∈ (start limit source).calls count) :
    Frame.Passes limit frame.content ∧ frame = Frame.ofContent frame.content := by
  rcases List.append_of_mem member with ⟨before, after, called⟩
  rcases exists_place_of_calls called with ⟨place, yields⟩
  exact ⟨yields.passes, yields.decode_eq.2⟩

end Inlet

/-! ## Relaying -/

theorem Receiver.frames_flatMap_encode_content {limit : Nat} {frames : List Frame}
    (passes : ∀ frame ∈ frames, Frame.Passes limit frame.content ∧
      frame = .ofContent frame.content) :
    (start limit).frames ((frames.map Frame.content).flatMap Frame.encode) =
      frames.map .ok := by
  rw [frames_flatMap_encode]
  · rw [List.map_map]
    apply List.map_congr_left
    intro frame member
    exact congrArg Except.ok (passes frame member).2.symm
  · intro content member
    rcases List.mem_map.mp member with ⟨frame, among, rfl⟩
    exact (passes frame among).1

namespace Outlet

def relay : List Frame → Outlet → Except FrameError Unit × Outlet
  | [], outlet => (.ok (), outlet)
  | frame :: rest, outlet =>
      match outlet.sendFrame frame with
      | (.ok (), outlet) => relay rest outlet
      | (.error error, outlet) => (.error error, outlet)

theorem relay_of_passes {frames : List Frame} (outlet : Outlet)
    (accepting : outlet.sink.Accepting)
    (passes : ∀ frame ∈ frames, Frame.Passes outlet.limit frame.content) :
    (relay frames outlet).1 = .ok () ∧
      (relay frames outlet).2.sink.accepted =
        outlet.sink.accepted ++ (frames.map Frame.content).flatMap Frame.encode := by
  induction frames generalizing outlet with
  | nil => exact ⟨rfl, (List.append_nil _).symm⟩
  | cons frame rest induction =>
      rcases sendEncoded_of_fits outlet accepting (passes frame List.mem_cons_self).2 with
        ⟨sink, sent, accepted, stillAccepting⟩
      have sentFrame : outlet.sendFrame frame = (.ok (), { outlet with sink }) := sent
      have others := induction { outlet with sink } stillAccepting fun other member =>
        passes other (List.mem_cons_of_mem frame member)
      rw [relay, sentFrame]
      refine ⟨others.1, others.2.trans ?_⟩
      rw [accepted, List.append_assoc]
      rfl

/-- A frame that was received is sent again as the bytes that it was decoded from, between
two boundaries. All frames that were received are sent again one by one, and whoever reads
what was sent receives the same frames and no error. -/
theorem relay_received (limit : Nat) (source : Source) (count : Nat) {sink : Sink}
    (accepting : sink.Accepting) :
    let results := (Inlet.start limit source).calls count
    let outlet := start limit sink
    (∀ before frame after, results = before ++ .ok frame :: after →
      ∃ place : Place (source.script.flatMap Reading.bytes),
        place.Yields limit (before.filter Inlet.isDecoded) frame ∧
        (outlet.sendFrame frame).1 = .ok () ∧
        (outlet.sendFrame frame).2.sink.accepted =
          sink.accepted ++ ([Escape.endByte] ++ place.segment ++ [Escape.endByte])) ∧
      let frames := results.filterMap Except.toOption
      ∃ bytes, (relay frames outlet).1 = .ok () ∧
        (relay frames outlet).2.sink.accepted = sink.accepted ++ bytes ∧
        ∀ again : Source, again.Brings bytes →
          (Inlet.start limit again).drain = (frames.map .ok, .error .closed) := by
  intro results outlet
  constructor
  · intro before frame after called
    rcases Inlet.exists_place_of_calls called with ⟨place, yields⟩
    rcases sendEncoded_of_fits outlet accepting yields.passes.2 with
      ⟨later, sending, accepted, _⟩
    have sent : outlet.sendFrame frame = (.ok (), { outlet with sink := later }) :=
      sending
    refine ⟨place, yields, congrArg Prod.fst sent, ?_⟩
    rw [sent, ← yields.encode_eq]
    exact accepted
  · intro frames
    have passes : ∀ frame ∈ frames,
        Frame.Passes limit frame.content ∧ frame = Frame.ofContent frame.content := by
      intro frame member
      rcases List.mem_filterMap.mp member with ⟨result, among, received⟩
      cases result with
      | error error => cases received
      | ok other =>
          cases received
          exact Inlet.passes_of_mem_calls among
    rcases relay_of_passes outlet accepting fun frame member =>
      (passes frame member).1 with
      ⟨relayed, accepted⟩
    refine ⟨(frames.map Frame.content).flatMap Frame.encode, relayed, accepted, ?_⟩
    intro again brings
    rw [Inlet.drain_of_brings brings, Receiver.frames_flatMap_encode_content passes]

theorem relay_received_behind_fault :
    let source : Source := { script := [.data [1, 2, 0xDB, 0xC0, 0x40, 0x48],
      .failure (.ofKind .timedOut),
        .data [0xC4, 0xC0, 0xDB, 0xDC, 0xD9, 0x4C, 0xC0, 0x00]] }
    let sink : Sink := { writes := [.accept 2, .failure (.ofKind .interrupted)] }
    let again : Source := { script := [.data [0xC0, 0x40, 0x48, 0xC4],
      .data [0xC0, 0xC0, 0xDB, 0xDC, 0xD9, 0x4C, 0xC0]] }
    sink.Accepting ∧
      (∃ place : Place (source.script.flatMap Reading.bytes),
        place.Yields 4 [.error .truncatedEscape, .ok (.ofContent [0x40])]
          (.ofContent [0xC0]) ∧
        ((start 4 sink).sendFrame (.ofContent [0xC0])).2.sink.accepted =
          [Escape.endByte] ++ place.segment ++ [Escape.endByte]) ∧
      (Inlet.start 4 again).drain =
        ([.ok (.ofContent [0x40]), .ok (.ofContent [0xC0])], .error .closed) := by
  intro source sink again
  have accepting : sink.Accepting := by constructor <;> decide
  have called : (Inlet.start 4 source).calls 4 = [.error .truncatedEscape,
      .error (.transfer (.ofKind .timedOut)), .ok (.ofContent [0x40]),
        .ok (.ofContent [0xC0])] := by
    rw [Inlet.calls_eq]
    decide +kernel
  have relayed :
      (relay [.ofContent [0x40], .ofContent [0xC0]] (start 4 sink)).2.sink.accepted =
        again.script.flatMap Reading.bytes := by decide +kernel
  rcases relay_received 4 source 4 accepting with ⟨each, bytes, _, accepted, reread⟩
  refine ⟨accepting, ?_, ?_⟩
  · rcases each [.error .truncatedEscape, .error (.transfer (.ofKind .timedOut)),
      .ok (.ofContent [0x40])] (.ofContent [0xC0]) [] called with ⟨place, yields, _, sent⟩
    exact ⟨place, yields, sent⟩
  · rw [called] at accepted reread
    have written : bytes = again.script.flatMap Reading.bytes :=
      accepted.symm.trans relayed
    apply reread
    rw [written]
    exact ⟨again.script.map Reading.bytes, by decide, by decide, rfl⟩

end Outlet

end PanelLink
