import Mathlib.Data.List.TakeWhile
import PanelLink.Proofs.Reading

/-!
Reading a line to its end: the results up to the first failure of the line, and that
failure. Of a line that brings its bytes undisturbed these are the frames of the bytes, in
whatever pieces they come.
-/

namespace PanelLink

namespace Inlet

/-! ## Progress -/

theorem weight_receive_lt (inlet : Inlet) (coming : inlet.forecast ≠ []) :
    inlet.receive.2.weight < inlet.weight := by
  fun_induction receive inlet with
  | case1 inlet result later ended =>
      have lighter := weight_turn_lt fun empty exhausted =>
        coming (forecast_of_exhausted empty exhausted)
      rwa [ended] at lighter
  | case2 inlet next went induction =>
      rw [forecast_turn (remaining_of_turn went), went] at coming
      exact Nat.lt_trans (induction coming) (weight_lt_of_turn went)

theorem isDecoded_lastError (afterwards : Afterwards) :
    isDecoded (.error (Source.lastError afterwards)) = false := by
  cases afterwards <;> rfl

theorem forecast_ne_nil_of_isDecoded {inlet : Inlet}
    (decoded : isDecoded inlet.receive.1 = true) : inlet.forecast ≠ [] := by
  intro nothing
  rw [inlet.receive_forecast.1, nothing, List.headD_nil, isDecoded_lastError] at decoded
  cases decoded

/-! ## To the end -/

/-- The results up to the first that is not of the bytes, and that one. -/
def drain (inlet : Inlet) : List (Except FrameError Frame) × Except FrameError Frame :=
  if isDecoded inlet.receive.1 then
    let (results, ending) := drain inlet.receive.2
    (inlet.receive.1 :: results, ending)
  else ([], inlet.receive.1)
termination_by inlet.weight
decreasing_by exact weight_receive_lt inlet (forecast_ne_nil_of_isDecoded ‹_›)

theorem drain_eq (inlet : Inlet) :
    inlet.drain = (inlet.forecast.takeWhile isDecoded,
      (inlet.forecast.dropWhile isDecoded).headD
        (.error (Source.lastError inlet.source.afterwards))) := by
  fun_induction drain inlet with
  | case1 inlet decoded results ending draining induction =>
      rcases inlet.receive_forecast with ⟨head, tail, same⟩
      have coming := forecast_ne_nil_of_isDecoded decoded
      rw [draining, tail, same] at induction
      cases induction
      cases remaining : inlet.forecast with
      | nil => exact absurd remaining coming
      | cons result rest =>
          rw [remaining, List.headD_cons] at head
          rw [head] at decoded ⊢
          simp [decoded]
  | case2 inlet failed =>
      rcases inlet.receive_forecast with ⟨head, _, _⟩
      rw [head] at failed ⊢
      cases remaining : inlet.forecast with
      | nil => rfl
      | cons result rest =>
          rw [remaining, List.headD_cons] at failed
          simp [failed]

end Inlet

/-! ## Undisturbed lines -/

namespace Source

/-- The line brings just `bytes`, in pieces of any size, and is then closed. -/
def Brings (source : Source) (bytes : Bytes) : Prop :=
  ∃ chunks : List Bytes, (∀ chunk ∈ chunks, chunk ≠ []) ∧ chunks.flatten = bytes ∧
    source = { script := chunks.map .data }

end Source

theorem Receiver.answers_map_data (receiver : Receiver) {chunks : List Bytes}
    (nonempty : ∀ chunk ∈ chunks, chunk ≠ []) :
    receiver.answers (chunks.map .data) = receiver.frames chunks.flatten := by
  induction chunks generalizing receiver with
  | nil => rfl
  | cons chunk rest induction =>
      have nonemptyRest : ∀ other ∈ rest, other ≠ [] := fun other member =>
        nonempty other (List.mem_cons_of_mem chunk member)
      rw [List.map_cons, answers,
        answer_data receiver (nonempty chunk List.mem_cons_self), Reading.bytes,
        induction _ nonemptyRest, List.flatten_cons, frames_append]

namespace Inlet

theorem drain_of_brings {limit : Nat} {source : Source} {bytes : Bytes}
    (brings : source.Brings bytes) :
    (start limit source).drain =
      ((Receiver.start limit).frames bytes, .error .closed) := by
  rcases brings with ⟨chunks, nonempty, rfl, rfl⟩
  have allDecoded : ∀ result ∈ (Receiver.start limit).frames chunks.flatten,
      isDecoded result = true := fun _ member => Receiver.isDecoded_of_mem_frames member
  rw [drain_eq, forecast_start, Receiver.answers_map_data _ nonempty]
  rw [List.takeWhile_eq_self_iff.mpr allDecoded, List.dropWhile_eq_nil_iff.mpr allDecoded]
  rfl

end Inlet

theorem Source.brings_ofBytes {bytes : Bytes} (nonempty : bytes ≠ []) :
    (ofBytes bytes).Brings bytes :=
  ⟨[bytes], by simpa using nonempty, by simp, rfl⟩

namespace Inlet

theorem drain_ofBytes (limit : Nat) (bytes : Bytes) :
    (start limit (.ofBytes bytes)).drain =
      ((Receiver.start limit).frames bytes, .error .closed) := by
  by_cases empty : bytes = []
  · subst empty
    rw [drain_eq]
    rfl
  · exact drain_of_brings (Source.brings_ofBytes empty)

end Inlet

end PanelLink
