import PanelLink.Proofs.Draining
import PanelLink.Proofs.Segments

/-!
Noise on the line never costs a frame. A boundary brings a receiver back to its start
whatever was before it, and every frame begins with one.
-/

namespace PanelLink

/-- A content that gets through to a receiver with this limit. An empty one would be taken
for a gap. -/
def Frame.Passes (limit : Nat) (content : Bytes) : Prop :=
  content ≠ [] ∧ Frame.fits limit (Frame.encode content).length = true

instance (limit : Nat) (content : Bytes) : Decidable (Frame.Passes limit content) :=
  inferInstanceAs (Decidable (_ ∧ _))

namespace Receiver

/-! ## Boundaries -/

theorem run_holding_eq_holding (limit : Nat) (segment bytes : Bytes) :
    ∃ last, (holding limit segment).run bytes = holding limit last := by
  induction bytes generalizing segment with
  | nil => exact ⟨segment, rfl⟩
  | cons byte rest induction =>
      by_cases boundary : byte = Escape.endByte
      · rw [run, boundary, feed_holding_endByte, ← holding_nil]
        exact induction []
      · rw [run, feed_holding_of_ne limit segment boundary]
        exact induction (segment ++ [byte])

theorem run_start_append_endByte (limit : Nat) (bytes : Bytes) :
    (start limit).run (bytes ++ [Escape.endByte]) = start limit := by
  rcases run_holding_eq_holding limit [] bytes with ⟨last, held⟩
  rw [holding_nil] at held
  rw [run_append, held, run, run, feed_holding_endByte]

theorem frames_append_endByte_append (limit : Nat) (before behind : Bytes) :
    (start limit).frames ((before ++ [Escape.endByte]) ++ behind) =
      (start limit).frames (before ++ [Escape.endByte]) ++
        (start limit).frames behind := by
  rw [frames_append _ (before ++ [Escape.endByte]), run_start_append_endByte]

/-! ## Frames -/

theorem frames_segment {limit : Nat} {segment : Bytes}
    (unbroken : Escape.endByte ∉ segment) (within : segment.length ≤ limit) :
    (start limit).frames (segment ++ [Escape.endByte]) =
      (verdict limit segment).toList.map frameOf := by
  rw [frames, outcomes_segment limit unbroken, if_pos within, List.nil_append]

theorem frames_long_segment {limit : Nat} {segment : Bytes}
    (unbroken : Escape.endByte ∉ segment) (within : segment.length ≤ limit)
    (long : 3 ≤ segment.length) :
    (start limit).frames (segment ++ [Escape.endByte]) =
      [frameOf (Escape.decode segment)] := by
  rw [frames_segment unbroken within, verdict, if_neg (Nat.not_lt_of_le within),
    if_neg (Nat.not_lt_of_le long)]
  rfl

theorem length_body_of_fits {limit : Nat} {content : Bytes}
    (fits : Frame.fits limit (Frame.encode content).length = true) :
    (Escape.body (Checksum.append content)).length ≤ limit :=
  (Frame.fits_encode_iff limit content).mp fits

theorem three_le_length_body {content : Bytes} (nonempty : content ≠ []) :
    3 ≤ (Escape.body (Checksum.append content)).length := by
  have positive : 0 < content.length := List.length_pos_iff.mpr nonempty
  have longer := Escape.length_le_length_body (Checksum.append content)
  rw [Checksum.length_append, Checksum.width] at longer
  omega

theorem frames_body {limit : Nat} {content : Bytes}
    (passes : Frame.Passes limit content) :
    (start limit).frames (Escape.body (Checksum.append content) ++ [Escape.endByte]) =
      [.ok (Frame.ofContent content)] := by
  rcases passes with ⟨nonempty, fits⟩
  rw [frames_long_segment (Escape.endByte_not_mem_body _) (length_body_of_fits fits)
    (three_le_length_body nonempty), Escape.decode_body]
  simp [frameOf, Except.bind, Frame.ofPayload_append]

/-- Whatever is in front of a frame, the frame comes through, and what is behind it starts
afresh. The noise itself leads to what it would lead to if it ended there with a boundary.
-/
theorem frames_noise {limit : Nat} {content : Bytes} (noise rest : Bytes)
    (passes : Frame.Passes limit content) :
    (start limit).frames (noise ++ (Frame.encode content ++ rest)) =
      (start limit).frames (noise ++ [Escape.endByte]) ++
        (.ok (Frame.ofContent content) :: (start limit).frames rest) := by
  have regrouped : noise ++ (Frame.encode content ++ rest) =
      (noise ++ [Escape.endByte]) ++
        ((Escape.body (Checksum.append content) ++ [Escape.endByte]) ++ rest) := by
    simp [Frame.encode, Escape.encode]
  rw [regrouped, frames_append_endByte_append, frames_append_endByte_append,
    frames_body passes]
  rfl

theorem frames_encode_append {limit : Nat} {content : Bytes} (rest : Bytes)
    (passes : Frame.Passes limit content) :
    (start limit).frames (Frame.encode content ++ rest) =
      .ok (Frame.ofContent content) :: (start limit).frames rest :=
  frames_noise [] rest passes

theorem frames_flatMap_encode {limit : Nat} {contents : List Bytes}
    (passes : ∀ content ∈ contents, Frame.Passes limit content) :
    (start limit).frames (contents.flatMap Frame.encode) =
      contents.map fun content => .ok (Frame.ofContent content) := by
  induction contents with
  | nil => rfl
  | cons content rest induction =>
      have passesRest : ∀ other ∈ rest, Frame.Passes limit other := by
        intro other member
        exact passes other (List.mem_cons_of_mem content member)
      rw [List.flatMap_cons, frames_encode_append _ (passes content List.mem_cons_self),
        induction passesRest, List.map_cons]

end Receiver

/-! ## Lines with noise -/

structure NoisyFrame where
  noise : Bytes
  content : Bytes
deriving DecidableEq, Repr

def NoisyFrame.bytes (noisy : NoisyFrame) : Bytes :=
  noisy.noise ++ Frame.encode noisy.content

theorem Receiver.frames_noisy {limit : Nat} {noisy : List NoisyFrame} (last : Bytes)
    (passes : ∀ item ∈ noisy, Frame.Passes limit item.content) :
    (start limit).frames (noisy.flatMap NoisyFrame.bytes ++ last) =
      noisy.flatMap (fun item => (start limit).frames (item.noise ++ [Escape.endByte]) ++
        [.ok (Frame.ofContent item.content)]) ++ (start limit).frames last := by
  induction noisy with
  | nil => rfl
  | cons item rest induction =>
      have passesRest : ∀ other ∈ rest, Frame.Passes limit other.content :=
        fun other member =>
        passes other (List.mem_cons_of_mem item member)
      have first := passes item List.mem_cons_self
      rw [List.flatMap_cons, List.append_assoc, NoisyFrame.bytes, List.append_assoc,
        frames_noise _ _ first, induction passesRest]
      simp

namespace Inlet

/-- On a line with frames in any noise, every frame is received, in order and once.
Between two of them comes just what the noise there would lead to alone, up to the
boundary of the next frame. -/
theorem drain_noisy {limit : Nat} {noisy : List NoisyFrame} {last : Bytes}
    {source : Source} (passes : ∀ item ∈ noisy, Frame.Passes limit item.content)
    (brings : source.Brings (noisy.flatMap NoisyFrame.bytes ++ last)) :
    (start limit source).drain =
      (noisy.flatMap (fun item =>
          (start limit (.ofBytes (item.noise ++ [Escape.endByte]))).drain.1 ++
            [.ok (Frame.ofContent item.content)]) ++
        (start limit (.ofBytes last)).drain.1, .error .closed) := by
  rw [drain_of_brings brings, Receiver.frames_noisy last passes]
  simp only [drain_ofBytes]

theorem drain_noisy_among_faults :
    let noisy : List NoisyFrame :=
      [⟨[1, 2, 0xDB], [0x40]⟩, ⟨[1, 2, 3, 4, 5, 6, 7, 8], [0xC0]⟩]
    let last : Bytes := [0xDB, 1, 2, 0xC0]
    let source : Source := { script := [.data [1, 2, 0xDB, 0xC0, 0x40], .data [0x48],
      .data [0xC4, 0xC0, 1, 2, 3, 4, 5, 6, 7, 8, 0xC0, 0xDB],
      .data [0xDC, 0xD9, 0x4C, 0xC0, 0xDB],
      .data [1, 2, 0xC0]] }
    (∀ item ∈ noisy, Frame.Passes 6 item.content) ∧
      source.Brings (noisy.flatMap NoisyFrame.bytes ++ last) ∧
      (start 6 source).drain =
        ([.error .truncatedEscape, .ok (.ofContent [0x40]), .error (.oversize 6),
          .ok (.ofContent [0xC0]), .error (.invalidEscape 1)], .error .closed) := by
  intro noisy last source
  have passes : ∀ item ∈ noisy, Frame.Passes 6 item.content := by decide
  have brings : source.Brings (noisy.flatMap NoisyFrame.bytes ++ last) := by
    refine ⟨source.script.map Reading.bytes, ?_, ?_, rfl⟩ <;> decide
  refine ⟨passes, brings, ?_⟩
  rw [drain_noisy passes brings]
  simp only [drain_ofBytes]
  rfl

end Inlet

end PanelLink
