import PanelLink.BufferCodec
import PanelLink.Link
import PanelLink.Proofs.Sending

/-!
Sinks that take all that is written to them, be it in pieces. On these a frame is sent if
and only if it is within the limit, in whichever way it is sent, and it is within the
limit if and only if a receiver with the same limit has no complaint about its size.
-/

namespace PanelLink

/-! ## Accepting sinks -/

def WriteReply.letsThrough : WriteReply → Bool
  | accept count => 0 < count
  | failure cause => cause.isInterrupted

def FlushReply.letsThrough : FlushReply → Bool
  | done => true
  | failure cause => cause.isInterrupted

namespace Sink

/-- No call on the sink comes to a lasting failure, and no write stalls. -/
structure Accepting (sink : Sink) : Prop where
  writes : ∀ reply ∈ sink.writes, reply.letsThrough = true
  flushes : ∀ reply ∈ sink.flushes, reply.letsThrough = true

theorem deliver_of_letsThrough {script : List WriteReply} (bytes : Bytes)
    (accepting : ∀ reply ∈ script, reply.letsThrough = true) :
    (deliver script bytes).result = .ok () ∧
    (deliver script bytes).remaining <:+ script := by
  fun_induction deliver script bytes with
  | case1 script => exact ⟨rfl, List.suffix_refl script⟩
  | case2 bytes _ => exact ⟨rfl, List.suffix_refl []⟩
  | case3 script bytes _ =>
      have stalled := accepting (.accept 0) List.mem_cons_self
      cases stalled
  | case4 count script bytes _ _ induction =>
      rcases induction fun reply member =>
        accepting reply (List.mem_cons_of_mem _ member) with
        ⟨delivered, remaining⟩
      exact ⟨delivered, remaining.trans (List.suffix_cons _ script)⟩
  | case5 cause script bytes _ _ induction =>
      rcases induction fun reply member =>
        accepting reply (List.mem_cons_of_mem _ member) with
        ⟨delivered, remaining⟩
      exact ⟨delivered, remaining.trans (List.suffix_cons _ script)⟩
  | case6 cause script bytes _ lasting =>
      exact absurd (accepting (.failure cause) List.mem_cons_self) lasting

theorem settle_of_letsThrough {script : List FlushReply}
    (accepting : ∀ reply ∈ script, reply.letsThrough = true) :
    (settle script).1 = .ok () ∧ (settle script).2.2 <:+ script := by
  fun_induction settle script with
  | case1 => exact ⟨rfl, List.suffix_refl []⟩
  | case2 script => exact ⟨rfl, List.suffix_cons _ script⟩
  | case3 cause script _ result calls rest settled induction =>
      have later :=
        induction fun reply member => accepting reply (List.mem_cons_of_mem _ member)
      rw [settled] at later
      exact ⟨later.1, later.2.trans (List.suffix_cons _ script)⟩
  | case4 cause script lasting =>
      exact absurd (accepting (.failure cause) List.mem_cons_self) lasting

theorem Accepting.writeAll {sink : Sink} (accepting : sink.Accepting) (bytes : Bytes) :
    ∃ later, sink.writeAll bytes = (.ok (), later) ∧ later.Accepting := by
  rcases deliver_of_letsThrough bytes accepting.writes with ⟨delivered, remaining⟩
  refine ⟨_, Prod.ext delivered rfl, ?_, accepting.flushes⟩
  intro reply member
  exact accepting.writes reply (remaining.mem member)

theorem Accepting.flushAll {sink : Sink} (accepting : sink.Accepting) :
    ∃ later, sink.flushAll = (.ok (), later) ∧ later.Accepting := by
  rcases settle_of_letsThrough accepting.flushes with ⟨settled, remaining⟩
  refine ⟨_, Prod.ext settled rfl, accepting.writes, ?_⟩
  intro reply member
  exact accepting.flushes reply (remaining.mem member)

end Sink

namespace Outlet

theorem sendEncoded_of_fits {frame : Bytes} (outlet : Outlet)
    (accepting : outlet.sink.Accepting)
    (fits : Frame.fits outlet.limit frame.length = true) :
    ∃ sink, outlet.sendEncoded frame = (.ok (), { outlet with sink }) ∧
      sink.accepted = outlet.sink.accepted ++ frame ∧ sink.Accepting := by
  rcases accepting.writeAll frame with ⟨written, wrote, stillAccepting⟩
  rcases stillAccepting.flushAll with ⟨flushed, flushing, lastAccepting⟩
  refine ⟨flushed, ?_, ?_, lastAccepting⟩
  · rw [sendEncoded, if_pos fits, wrote]
    simp only [flush, flushing]
    rfl
  · have same := Sink.accepted_flushAll written
    rw [flushing] at same
    exact same.trans (Sink.accepted_of_writeAll_ok wrote)

theorem sendEncoded_of_not_fits {outlet : Outlet} {frame : Bytes}
    (tooLong : Frame.fits outlet.limit frame.length = false) :
    outlet.sendEncoded frame = (.error (.oversize outlet.limit), outlet) := by
  rw [sendEncoded, if_neg (Bool.eq_false_iff.mp tooLong)]

end Outlet

/-! ## Single commands -/

theorem Command.frames_singleton (command : Command) :
    frames [command] = [Frame.encode [command.toByte]] := by
  simp [frames, batches, frame]

theorem Link.send_singleton {link : Link} {command : Command}
    (accepting : link.outlet.sink.Accepting)
    (fits : Frame.fits link.outlet.limit (Frame.encode [command.toByte]).length = true) :
    ∃ sink, link.send [command] = (.ok [Frame.encode [command.toByte]],
        { link with outlet := { link.outlet with sink } }) ∧
      sink.accepted = link.written ++ Frame.encode [command.toByte] ∧ sink.Accepting := by
  rcases link.outlet.sendEncoded_of_fits accepting fits with
    ⟨sink, sent, accepted, stillAccepting⟩
  refine ⟨sink, ?_, accepted, stillAccepting⟩
  simp only [send, Command.frames_singleton, sendFrames, sent]
  rfl

/-! ## What is within the limit -/

namespace Receiver

theorem outcomes_encode (limit : Nat) (content : Bytes) :
    let body := Escape.body (Checksum.append content)
    (start limit).outcomes (Frame.encode content) =
      (if body.length ≤ limit then [] else [.error (.oversize limit)]) ++
        (verdict limit body).toList := by
  intro body
  have split : Frame.encode content = [Escape.endByte] ++ (body ++ [Escape.endByte]) :=
    rfl
  have opening : (start limit).outcomes ([] ++ [Escape.endByte]) = [] := by
    rw [outcomes_segment limit List.not_mem_nil]
    simp [verdict]
  have reopened : (start limit).run [Escape.endByte] = start limit :=
    run_start_append_endByte limit []
  rw [List.nil_append] at opening
  rw [split, outcomes_append, opening, reopened, List.nil_append,
    outcomes_segment limit (Escape.endByte_not_mem_body _)]

theorem fits_iff_not_oversize (limit : Nat) (content : Bytes) :
    Frame.fits limit (Frame.encode content).length = true ↔
      ∀ other,
        .error (.oversize other) ∉ (start limit).outcomes (Frame.encode content) := by
  rw [Frame.fits_encode_iff, outcomes_encode]
  constructor
  · intro within other member
    rw [if_pos within, List.nil_append, verdict, if_neg (Nat.not_lt_of_le within),
      Escape.decode_body] at member
    split at member <;> simp at member
  · intro silent
    apply Nat.le_of_not_lt
    intro beyond
    apply silent limit
    rw [if_neg (Nat.not_le_of_lt beyond)]
    exact List.mem_append_left _ List.mem_cons_self

end Receiver

namespace BufferCodec

theorem encode_of_fits {codec : BufferCodec} {content : Bytes}
    (fits : Frame.fits codec.receiver.limit (Frame.encode content).length = true) :
    codec.encode content =
      (.ok (), { codec with leaving := codec.leaving ++ Frame.encode content }) := by
  have within : (Frame.encode content).length - 2 ≤ codec.receiver.limit :=
    of_decide_eq_true fits
  simp [encode, Nat.not_lt_of_le within]

theorem encode_of_not_fits {codec : BufferCodec} {content : Bytes}
    (tooLong : Frame.fits codec.receiver.limit (Frame.encode content).length = false) :
    codec.encode content = (.error (.oversize codec.receiver.limit), codec) := by
  have beyond : codec.receiver.limit < (Frame.encode content).length - 2 :=
    Nat.lt_of_not_le (of_decide_eq_false tooLong)
  simp [encode, beyond]

end BufferCodec

/-! ## All senders -/

namespace Outlet

/-- The ways to send a content through an outlet. A frame may hold any checksum. -/
def senders (content : Bytes) (checksum : UInt16) :
    List (Outlet → Except FrameError Unit × Outlet) :=
  [send content, sendEncoded (Frame.encode content), sendFrame ⟨content, checksum⟩]

theorem eq_sendEncoded_of_mem_senders {content : Bytes} {checksum : UInt16}
    {sender : Outlet → Except FrameError Unit × Outlet}
    (member : sender ∈ senders content checksum) :
    sender = sendEncoded (Frame.encode content) := by
  rw [senders] at member
  rcases List.mem_cons.mp member with rfl | member
  · rfl
  · rcases List.mem_cons.mp member with rfl | member
    · rfl
    · rw [List.mem_singleton.mp member]
      rfl

structure AllSend (content : Bytes) (checksum : UInt16) (outlet : Outlet)
    (codec : BufferCodec) : Prop where
  sent : ∀ sender ∈ senders content checksum, (sender outlet).1 = .ok () ∧
    (sender outlet).2.sink.accepted = outlet.sink.accepted ++ Frame.encode content
  encoded : codec.encode content =
    (.ok (), { codec with leaving := codec.leaving ++ Frame.encode content })

structure AllRefuse (content : Bytes) (checksum : UInt16) (outlet : Outlet)
    (codec : BufferCodec) : Prop where
  refused : ∀ sender ∈ senders content checksum,
    sender outlet = (.error (.oversize outlet.limit), outlet)
  unencoded : codec.encode content = (.error (.oversize outlet.limit), codec)

theorem AllSend.not_allRefuse {content : Bytes} {checksum : UInt16} {outlet : Outlet}
    {codec : BufferCodec} (sends : AllSend content checksum outlet codec) :
    ¬AllRefuse content checksum outlet codec := by
  intro refuses
  have both := sends.encoded.symm.trans refuses.unencoded
  cases congrArg Prod.fst both

theorem allSend_of_fits {content : Bytes} {outlet : Outlet} {codec : BufferCodec}
    (checksum : UInt16) (accepting : outlet.sink.Accepting)
    (sameLimit : codec.receiver.limit = outlet.limit)
    (fits : Frame.fits outlet.limit (Frame.encode content).length = true) :
    AllSend content checksum outlet codec := by
  constructor
  · intro sender member
    rcases sendEncoded_of_fits outlet accepting fits with ⟨sink, sent, accepted, _⟩
    rw [eq_sendEncoded_of_mem_senders member, sent]
    exact ⟨rfl, accepted⟩
  · rw [← sameLimit] at fits
    exact BufferCodec.encode_of_fits fits

theorem allRefuse_of_not_fits {content : Bytes} {outlet : Outlet} {codec : BufferCodec}
    (checksum : UInt16) (sameLimit : codec.receiver.limit = outlet.limit)
    (tooLong : Frame.fits outlet.limit (Frame.encode content).length = false) :
    AllRefuse content checksum outlet codec := by
  constructor
  · intro sender member
    rw [eq_sendEncoded_of_mem_senders member]
    exact sendEncoded_of_not_fits tooLong
  · rw [← sameLimit] at tooLong ⊢
    exact BufferCodec.encode_of_not_fits tooLong

/-- The senders succeed together or refuse together, and they succeed if and only if a
receiver with their limit that is fed the frame never finds it too long. -/
theorem senders_agree (limit : Nat) (content : Bytes) (checksum : UInt16) {sink : Sink}
    {codec : BufferCodec} (accepting : sink.Accepting)
    (sameLimit : codec.receiver.limit = limit) :
    let outlet := start limit sink
    (AllSend content checksum outlet codec ∨ AllRefuse content checksum outlet codec) ∧
      (AllSend content checksum outlet codec ↔
        ∀ other, .error (.oversize other) ∉
          (Receiver.start limit).outcomes (Frame.encode content)) := by
  intro outlet
  rw [← Receiver.fits_iff_not_oversize]
  cases fitting : Frame.fits limit (Frame.encode content).length with
  | true =>
      have sends : AllSend content checksum outlet codec :=
        allSend_of_fits checksum accepting sameLimit fitting
      exact ⟨.inl sends, fun _ => rfl, fun _ => sends⟩
  | false =>
      have refuses : AllRefuse content checksum outlet codec :=
        allRefuse_of_not_fits checksum sameLimit fitting
      exact ⟨.inr refuses, fun sends => absurd refuses sends.not_allRefuse,
        fun fits => nomatch fits⟩

theorem senders_agree_at_limit :
    let sink : Sink :=
      { writes := [.accept 2, .failure (.ofKind .interrupted), .accept 1]
        flushes := [.failure (.ofKind .interrupted)]
        calls := [.wrote [0x01], .flushed] }
    let codec (limit : Nat) : BufferCodec :=
      { BufferCodec.start limit with leaving := [0x01] }
    sink.Accepting ∧ (codec 4).receiver.limit = 4 ∧ (codec 3).receiver.limit = 3 ∧
      AllSend [0xC0] 0xBEEF (start 4 sink) (codec 4) ∧
      AllRefuse [0xC0] 0xBEEF (start 3 sink) (codec 3) := by
  intro sink codec
  have accepting : sink.Accepting := by constructor <;> decide
  have reached : (Receiver.start 4).outcomes (Frame.encode [0xC0]) =
      [.ok (Checksum.append [0xC0])] := by decide +kernel
  have exceeded :
      .error (.oversize 3) ∈ (Receiver.start 3).outcomes (Frame.encode [0xC0]) := by
    decide +kernel
  have same : (codec 4).receiver.limit = 4 := rfl
  have less : (codec 3).receiver.limit = 3 := rfl
  refine ⟨accepting, same, less, ?_, ?_⟩
  · apply (senders_agree 4 [0xC0] 0xBEEF accepting same).2.mpr
    intro other member
    rw [reached] at member
    cases List.mem_singleton.mp member
  · rcases senders_agree 3 [0xC0] 0xBEEF accepting less with ⟨sends | refuses, succeeds⟩
    · exact absurd exceeded (succeeds.mp sends 3)
    · exact refuses

end Outlet

end PanelLink
