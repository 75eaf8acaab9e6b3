import Mathlib.Algebra.Order.Floor.Div
import Mathlib.GroupTheory.GroupAction.Ring
import PanelLink.Command
import PanelLink.Proofs.Noise

/-!
Commands arrive as they were given. A command is read back from its byte, with its button
cut down to the five bits there is room for, and the batches that commands travel in are
joined again to the commands.
-/

namespace PanelLink

/-! ## Bytes of commands -/

theorem Button.ofByte_eq_mod (button : UInt8) : ofByte button = button % 32 := by
  apply UInt8.toNat_inj.mp
  rw [ofByte, UInt8.toNat_and, UInt8.toNat_mod]
  exact Nat.and_two_pow_sub_one_eq_mod button.toNat 5

theorem Button.or_ofByte_and (bits button mask : UInt8) :
    (bits ||| ofByte button) &&& mask =
      (bits &&& mask) ||| (button &&& (0x1F &&& mask)) := by
  apply UInt8.toBitVec_inj.mp
  simp [ofByte, BitVec.and_or_distrib_right, BitVec.and_assoc]

theorem Button.ofByte_or_ofByte {bits : UInt8} (clear : bits &&& 0x1F = 0)
    (button : UInt8) : ofByte (bits ||| ofByte button) = button % 32 := by
  rw [ofByte, or_ofByte_and, clear, UInt8.zero_or, UInt8.and_self]
  exact ofByte_eq_mod button

namespace Command

def reduced : Command → Command
  | act action button => act action (button % 32)
  | command => command

theorem kind_toByte_act (action : Action) (button : UInt8) :
    (act action button).toByte &&& 0xE0 = action.bits := by
  have disjoint : (0x1F : UInt8) &&& 0xE0 = 0 := by decide
  rw [toByte, Button.or_ofByte_and, disjoint, UInt8.and_zero, UInt8.or_zero]
  cases action <;> decide

theorem button_toByte_act (action : Action) (button : UInt8) :
    Button.ofByte (act action button).toByte = button % 32 := by
  have clear : action.bits &&& 0x1F = 0 := by cases action <;> decide
  exact Button.ofByte_or_ofByte clear button

theorem ofByte_toByte (command : Command) :
    ofByte command.toByte = .ok command.reduced := by
  cases command with
  | idle => rfl
  | refresh => rfl
  | act action button =>
      simp only [ofByte, kind_toByte_act, button_toByte_act]
      cases action <;> rfl

example : ofByte 0x47 = .ok (act .toggle 7) := rfl

theorem reduced_eq_self {command : Command}
    (inRange : ∀ button ∈ command.button?, button ≤ 31) : command.reduced = command := by
  cases command with
  | idle => rfl
  | refresh => rfl
  | act action button =>
      have small : button.toNat ≤ 31 := UInt8.le_iff_toNat_le.mp (inRange button rfl)
      have same : button % 32 = button := by
        apply UInt8.toNat_inj.mp
        rw [UInt8.toNat_mod]
        exact Nat.mod_eq_of_lt (Nat.lt_succ_of_le small)
      rw [reduced, same]

/-! ## Batches -/

theorem flatten_batches (commands : List Command) :
    (batches commands).flatten = commands := by
  induction commands using batches.induct with
  | case1 => simp [batches]
  | case2 first rest induction => simp [batches, induction]

theorem length_batches (commands : List Command) :
    (batches commands).length = commands.length ⌈/⌉ batchSize := by
  rw [Nat.ceilDiv_eq_add_pred_div]
  induction commands using batches.induct with
  | case1 => simp [batches, batchSize]
  | case2 first rest induction =>
      rw [batches, List.length_cons, induction, List.length_drop, List.length_cons,
        batchSize]
      omega

theorem length_of_mem_batches {commands batch : List Command}
    (member : batch ∈ batches commands) :
    1 ≤ batch.length ∧ batch.length ≤ batchSize := by
  induction commands using batches.induct with
  | case1 => simp [batches] at member
  | case2 first rest induction =>
      rw [batches] at member
      rcases List.mem_cons.mp member with here | later
      · subst here
        simp [batchSize]
      · exact induction later

theorem length_of_mem_dropLast_batches {commands batch : List Command}
    (member : batch ∈ (batches commands).dropLast) : batch.length = batchSize := by
  induction commands using batches.induct with
  | case1 => simp [batches] at member
  | case2 first rest induction =>
      rw [batches] at member
      cases others : batches (rest.drop (batchSize - 1)) with
      | nil => simp [others] at member
      | cons next behind =>
          have remaining : rest.drop (batchSize - 1) ≠ [] := by
            intro empty
            rw [empty, batches] at others
            cases others
          have enough : batchSize - 1 < rest.length := by
            simpa using remaining
          rw [others, List.dropLast_cons_cons] at member
          rcases List.mem_cons.mp member with here | later
          · subst here
            rw [List.length_cons, List.length_take, Nat.min_eq_left (Nat.le_of_lt enough)]
            rfl
          · rw [others] at induction
            exact induction later

/-! ## Frames of commands -/

def contents (commands : List Command) : List Bytes :=
  (batches commands).map fun batch => batch.map toByte

theorem flatten_frames (commands : List Command) :
    (frames commands).flatten = (contents commands).flatMap Frame.encode := by
  rw [frames, contents, List.flatMap_map]
  rfl

theorem flatten_contents (commands : List Command) :
    (contents commands).flatten = commands.map toByte := by
  rw [contents, ← List.map_flatten, flatten_batches]

theorem length_of_mem_contents {commands : List Command} {content : Bytes}
    (member : content ∈ contents commands) :
    1 ≤ content.length ∧ content.length ≤ batchSize := by
  rcases List.mem_map.mp member with ⟨batch, among, rfl⟩
  rw [List.length_map]
  exact length_of_mem_batches among

/-- At worst, every byte of a full batch and of its checksum is escaped. -/
theorem length_encode_of_mem_contents {commands : List Command} {content : Bytes}
    (member : content ∈ contents commands) : (Frame.encode content).length ≤ 256 := by
  have within := (length_of_mem_contents member).2
  have doubled := Escape.length_body_le (Checksum.append content)
  rw [Checksum.length_append, Checksum.width] at doubled
  rw [batchSize] at within
  rw [Frame.encode, Escape.length_encode]
  omega

theorem passes_of_mem_contents {commands : List Command} {content : Bytes}
    (member : content ∈ contents commands) : Frame.Passes Frame.defaultLimit content := by
  have short := length_encode_of_mem_contents member
  constructor
  · exact List.length_pos_iff.mp (length_of_mem_contents member).1
  · apply decide_eq_true
    rw [Frame.defaultLimit]
    omega

/-- The frames of any commands are received one by one and without an error. All are full
but the last, and their bytes stand for the commands, in order, with each button cut down
to what its byte has room for. -/
theorem drain_frames {commands : List Command} {source : Source}
    (brings : source.Brings (frames commands).flatten) :
    ∃ contents : List Bytes,
      (Inlet.start Frame.defaultLimit source).drain =
        (contents.map fun content => .ok (Frame.ofContent content), .error .closed) ∧
      contents.length = commands.length ⌈/⌉ 125 ∧
      (∀ content ∈ contents.dropLast, content.length = 125) ∧
      (∀ content ∈ contents.getLast?, 1 ≤ content.length ∧ content.length ≤ 125) ∧
      contents.flatten.map ofByte = commands.map (fun command => .ok command.reduced) ∧
      ∀ command ∈ commands, (∀ button ∈ command.button?, button ≤ 31) →
        command.reduced = command := by
  refine ⟨contents commands, ?_, ?_, ?_, ?_, ?_, ?_⟩
  · rw [Inlet.drain_of_brings brings, flatten_frames]
    rw [Receiver.frames_flatMap_encode fun content member =>
      passes_of_mem_contents member]
  · rw [contents, List.length_map]
    exact length_batches commands
  · intro content member
    rw [contents, ← List.map_dropLast] at member
    rcases List.mem_map.mp member with ⟨batch, among, rfl⟩
    rw [List.length_map]
    exact length_of_mem_dropLast_batches among
  · intro content member
    exact length_of_mem_contents (List.mem_of_getLast? member)
  · rw [flatten_contents, List.map_map]
    apply List.map_congr_left
    intro command _
    exact ofByte_toByte command
  · intro command _ inRange
    exact reduced_eq_self inRange

theorem drain_frames_escaped :
    let commands : List Command := [act .on 0, act .on 27, act .off 200, idle]
    let source : Source :=
      { script := [.data [0xC0, 0xDB], .data [0xDC, 0xDB, 0xDD, 0x88, 0x00],
          .data [0xB4, 0xF0, 0xC0]] }
    source.Brings (frames commands).flatten ∧
      ∃ content,
        (Inlet.start Frame.defaultLimit source).drain =
          ([.ok (Frame.ofContent content)], .error .closed) ∧
        content.map ofByte =
          [.ok (act .on 0), .ok (act .on 27), .ok (act .off 8), .ok idle] := by
  intro commands source
  have brings : source.Brings (frames commands).flatten := by
    have single : frames commands = [frame commands] := by
      simp [commands, frames, batches, batchSize]
    rw [single]
    refine ⟨source.script.map Reading.bytes, ?_, ?_, rfl⟩ <;> decide +kernel
  refine ⟨brings, ?_⟩
  rcases drain_frames brings with ⟨contents, drained, count, _, _, read, _⟩
  have single : contents.length = 1 := by
    simpa [commands, Nat.ceilDiv_eq_add_pred_div] using count
  rcases List.length_eq_one_iff.mp single with ⟨content, rfl⟩
  refine ⟨content, drained, ?_⟩
  rw [List.flatten_singleton] at read
  exact read

end Command

end PanelLink
