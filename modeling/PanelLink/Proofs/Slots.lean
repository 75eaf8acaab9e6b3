import Mathlib.Data.Nat.Bitwise
import Mathlib.Logic.Function.Iterate
import PanelLink.Proofs.Commanding
import PanelLink.Proofs.Outputs
import PanelLink.Telemetry

/-!
Three views of telemetry agree: the record, its bytes, and the events that a walk through
its slots finds. A record is read back from its bytes, any content that is long enough is
the bytes of a record with something behind them, and a walk finds the events of the slots
that are not padding, in order, and no more.
-/

namespace PanelLink

/-! ## Slots -/

namespace ButtonEvent

def reduced (event : ButtonEvent) : ButtonEvent :=
  { event with button := event.button % 32 }

def occupies (slot : UInt8) : Bool := slot.toNat.testBit 6

/-- The event in a slot that is not padding: bit seven is set for a release, and the low
five bits are the button. -/
def inSlot (slot : UInt8) : ButtonEvent :=
  ⟨if slot.toNat.testBit 7 then .release else .press, slot % 32⟩

theorem and_eq_zero_iff {mask : UInt8} {index : Nat} (single : mask.toNat = 2 ^ index)
    (slot : UInt8) : slot &&& mask = 0 ↔ slot.toNat.testBit index = false := by
  rw [← UInt8.toNat_inj, UInt8.toNat_and, single, UInt8.toNat_zero]
  exact and_two_pow_eq_zero_iff slot.toNat index

theorem ofByte?_eq (slot : UInt8) :
    ofByte? slot = if occupies slot then some (inSlot slot) else none := by
  have unset : slot &&& 0x40 = 0 ↔ occupies slot = false :=
    and_eq_zero_iff (by decide) slot
  have pressed : slot &&& 0x80 = 0 ↔ slot.toNat.testBit 7 = false :=
    and_eq_zero_iff (by decide) slot
  cases occupied : occupies slot with
  | false => simp [ofByte?, unset, occupied]
  | true =>
      cases kind : slot.toNat.testBit 7 <;>
        simp [ofByte?, masked, inSlot, Button.ofByte_eq_mod, unset, pressed, occupied,
          kind]

theorem filterMap_ofByte? (slots : Bytes) :
    slots.filterMap ofByte? = (slots.filter occupies).map inSlot := by
  induction slots with
  | nil => rfl
  | cons slot slots induction =>
      rw [List.filterMap_cons, ofByte?_eq, List.filter_cons]
      cases occupies slot with
      | false => exact induction
      | true => exact congrArg (inSlot slot :: ·) induction

theorem ofByte?_toByte (event : ButtonEvent) :
    ofByte? event.toByte = some event.reduced := by
  have high :
      ∀ mask, 0x1F &&& mask = 0 → event.toByte &&& mask = event.kind.bits &&& mask := by
    intro mask disjoint
    rw [toByte, Button.or_ofByte_and, disjoint, UInt8.and_zero, UInt8.or_zero]
  have clear : event.kind.bits &&& 0x1F = 0 := by cases event.kind <;> decide
  rw [ofByte?, high 0x40 (by decide), high 0x80 (by decide), masked, toByte,
    Button.ofByte_or_ofByte clear, reduced]
  cases event.kind <;> rfl

end ButtonEvent

/-! ## Bytes of records -/

namespace OutputState

theorem ofBytes?_cases (bytes : Bytes) :
    (bytes.length < 4 ∧ ofBytes? bytes = none) ∨
      (4 ≤ bytes.length ∧ ∃ state, ofBytes? bytes = some state ∧
        state.toBytes = bytes.take 4) := by
  match bytes with
  | [] | [_] | [_, _] | [_, _, _] => exact .inl ⟨by simp, rfl⟩
  | first :: second :: third :: fourth :: rest =>
      exact .inr ⟨by simp, ⟨first, second, third, fourth⟩, rfl, rfl⟩

end OutputState

namespace Telemetry

theorem ofContent_append {slots : Bytes} (slots_length : slots.length = slotCount)
    (rest : Bytes) :
    ofContent (slots ++ rest) = .ok ⟨slots, OutputState.ofBytes? rest, slots_length⟩ := by
  have enough : slotCount ≤ (slots ++ rest).length := by
    rw [List.length_append, slots_length]
    exact Nat.le_add_right _ _
  rw [ofContent, dif_pos enough]
  congr
  · exact List.take_left' slots_length
  · exact List.drop_left' slots_length

theorem ofContent_toBytes (record : Telemetry) :
    ofContent record.toBytes = .ok record := by
  rcases record with ⟨slots, state, slots_length⟩
  rw [toBytes, ofContent_append slots_length]
  cases state <;> rfl

theorem ofContent_of_short {content : Bytes} (short : content.length < 32) :
    ofContent content = .error (.shortTelemetry content.length 32) := by
  have lacking : ¬slotCount ≤ content.length := Nat.not_le_of_lt short
  rw [ofContent, dif_neg lacking, slotCount]

theorem ofContent_of_long {content : Bytes} (long : 32 ≤ content.length) :
    ∃ record, ofContent content = .ok record ∧
      record.toBytes = content.take (if 36 ≤ content.length then 36 else 32) ∧
      (record.state.isSome ↔ 36 ≤ content.length) := by
  have slots_length : (content.take 32).length = slotCount := by
    rw [List.length_take]
    exact Nat.min_eq_left long
  have decoded := ofContent_append slots_length (content.drop 32)
  rw [List.take_append_drop] at decoded
  refine ⟨_, decoded, ?_⟩
  have behind : (content.drop 32).length = content.length - 32 := List.length_drop
  rcases OutputState.ofBytes?_cases (content.drop 32) with
    ⟨few, absent⟩ | ⟨enough, state, present, bytes⟩
  · have less : ¬36 ≤ content.length := by omega
    simp [toBytes, absent, less]
  · have more : 36 ≤ content.length := by omega
    have joined : content.take 32 ++ (content.drop 32).take 4 = content.take 36 :=
      List.take_add.symm
    simp [toBytes, present, more, bytes, joined]

theorem filterMap_slots_ofEvents (events : List ButtonEvent)
    (state : Option OutputState) :
    (ofEvents events state).slots.filterMap ButtonEvent.ofByte? =
      (events.take 32).map ButtonEvent.reduced := by
  have padding : ButtonEvent.ofByte? 0 = none := rfl
  have read : ButtonEvent.ofByte? ∘ ButtonEvent.toByte = some ∘ ButtonEvent.reduced := by
    funext event
    exact event.ofByte?_toByte
  simp only [ofEvents, List.filterMap_append, List.filterMap_map, read,
    List.filterMap_eq_map, List.filterMap_replicate_of_none padding, List.append_nil,
    slotCount]

end Telemetry

/-! ## Walks -/

namespace EventCursor

def advance (calls : Nat) (cursor : EventCursor) : EventCursor :=
  (fun cursor => cursor.next.2)^[calls] cursor

theorem advance_succ (calls : Nat) (cursor : EventCursor) :
    cursor.advance (calls + 1) = (cursor.advance calls).next.2 :=
  Function.iterate_succ_apply' _ calls cursor

theorem firstEvent_fst (slots : Bytes) :
    (firstEvent slots).1 = (slots.filterMap ButtonEvent.ofByte?).head? := by
  fun_induction firstEvent slots with
  | case1 => rfl
  | case2 slot rest event found => rw [List.filterMap_cons_some found, List.head?_cons]
  | case3 slot rest padding induction => rw [List.filterMap_cons_none padding, induction]

theorem filterMap_firstEvent_snd (slots : Bytes) :
    (firstEvent slots).2.filterMap ButtonEvent.ofByte? =
      (slots.filterMap ButtonEvent.ofByte?).tail := by
  fun_induction firstEvent slots with
  | case1 => rfl
  | case2 slot rest event found => rw [List.filterMap_cons_some found, List.tail_cons]
  | case3 slot rest padding induction => rw [List.filterMap_cons_none padding, induction]

theorem length_firstEvent_lt {slots : Bytes} (found : (firstEvent slots).1 ≠ none) :
    (firstEvent slots).2.length < slots.length := by
  fun_induction firstEvent slots with
  | case1 => exact absurd rfl found
  | case2 slot rest event _ => exact Nat.lt_succ_self _
  | case3 slot rest _ induction => exact Nat.lt_succ_of_lt (induction found)

theorem next_fst (cursor : EventCursor) : cursor.next.1 = cursor.rest.head? :=
  firstEvent_fst cursor.remaining

theorem rest_next (cursor : EventCursor) : cursor.next.2.rest = cursor.rest.tail :=
  filterMap_firstEvent_snd cursor.remaining

def walk (cursor : EventCursor) : List ButtonEvent :=
  match _ : cursor.next with
  | (none, _) => []
  | (some event, later) => event :: walk later
termination_by cursor.remaining.length
decreasing_by
  rename_i taken
  have found : cursor.next.1 ≠ none := by simp [taken]
  cases congrArg Prod.snd taken
  exact length_firstEvent_lt found

theorem walk_eq_rest (cursor : EventCursor) : cursor.walk = cursor.rest := by
  fun_induction walk cursor with
  | case1 cursor later ended =>
      have empty : cursor.rest.head? = none := by rw [← next_fst, ended]
      exact (List.head?_eq_none_iff.mp empty).symm
  | case2 cursor event later taken induction =>
      have first : cursor.rest.head? = some event := by rw [← next_fst, taken]
      have others : later.rest = cursor.rest.tail := by rw [← rest_next, taken]
      rw [induction, others]
      exact List.cons_head?_tail first

theorem rest_advance (calls : Nat) (cursor : EventCursor) :
    (cursor.advance calls).rest = cursor.rest.drop calls := by
  induction calls with
  | zero => rfl
  | succ calls induction => rw [advance_succ, rest_next, induction, List.tail_drop]

theorem next_advance (calls : Nat) (cursor : EventCursor) :
    (cursor.advance calls).next.1 = cursor.rest[calls]? := by
  rw [next_fst, rest_advance, List.head?_drop]

/-- Calls on the cursor return these events, in order, and then none for ever. At each
point the number of those still to come is within the hint. -/
structure Finds (cursor : EventCursor) (events : List ButtonEvent) : Prop where
  walked : cursor.walk = events
  called : ∀ calls, (cursor.advance calls).next.1 = events[calls]?
  hinted : ∀ calls,
    let later := cursor.advance calls
    later.sizeHint.1 ≤ later.walk.length ∧ later.walk.length ≤ later.sizeHint.2
  ended : ∀ calls, (cursor.advance calls).next.1 = none →
    ∀ more, (cursor.advance (calls + more)).next.1 = none

theorem finds_rest (cursor : EventCursor) : cursor.Finds cursor.rest where
  walked := cursor.walk_eq_rest
  called := fun calls => cursor.next_advance calls
  hinted := by
    intro calls later
    rw [walk_eq_rest]
    exact ⟨Nat.zero_le _, List.length_filterMap_le _ _⟩
  ended := by
    intro calls none more
    rw [next_advance, List.getElem?_eq_none_iff] at none ⊢
    exact Nat.le_add_right_of_le none

end EventCursor

namespace Telemetry

/-- A record is what its bytes decode to. A content decodes if there are thirty-two bytes
for the slots, to a record of these and of the four bytes behind them if there are four.
From events, the record holds the first thirty-two. A walk through any record finds the
events of the slots that are not padding. -/
theorem views_agree (record : Telemetry) (content : Bytes) (events : List ButtonEvent)
    (state : Option OutputState) :
    ofContent record.toBytes = .ok record ∧
    (content.length < 32 →
      ofContent content = .error (.shortTelemetry content.length 32)) ∧
    (32 ≤ content.length → ∃ decoded, ofContent content = .ok decoded ∧
      decoded.toBytes = content.take (if 36 ≤ content.length then 36 else 32) ∧
      (decoded.state.isSome ↔ 36 ≤ content.length)) ∧
    (∃ decoded, ofContent (ofEvents events state).toBytes = .ok decoded ∧
      decoded.state = state ∧
      (EventCursor.start decoded).Finds ((events.take 32).map ButtonEvent.reduced)) ∧
    record.events = (record.slots.filter ButtonEvent.occupies).map ButtonEvent.inSlot ∧
    (EventCursor.start record).Finds record.events := by
  refine ⟨record.ofContent_toBytes, ofContent_of_short, ofContent_of_long, ?_,
    ButtonEvent.filterMap_ofByte? record.slots, EventCursor.finds_rest _⟩
  refine ⟨ofEvents events state, ofContent_toBytes _, rfl, ?_⟩
  rw [← filterMap_slots_ofEvents events state]
  exact EventCursor.finds_rest _

theorem views_agree_partial :
    let content : Bytes := 0x9F :: 0xC5 :: List.replicate 33 0x00
    (content.length = 35 ∧ ∃ decoded, ofContent content = .ok decoded ∧
      decoded.toBytes = content.take 32 ∧ decoded.state = none ∧
        decoded.events = [⟨.release, 5⟩] ∧
      (EventCursor.start decoded).Finds [⟨.release, 5⟩]) ∧
    (content.take 31).length = 31 ∧
      ofContent (content.take 31) = .error (.shortTelemetry 31 32) := by
  intro content
  rcases (views_agree (ofEvents [] none) content [] none).2.2.1 (by decide) with
    ⟨decoded, decoding, bytes, present⟩
  have absent : decoded.state = none := by
    rw [← Option.not_isSome_iff_eq_none, present]
    decide
  have slots : decoded.slots = content.take 32 := by
    rw [toBytes, absent] at bytes
    exact (List.append_nil _).symm.trans bytes
  rcases (views_agree decoded content [] none).2.2.2.2 with ⟨listed, found⟩
  have single : decoded.events = [⟨.release, 5⟩] := by
    rw [listed, slots]
    decide
  rw [single] at found
  exact ⟨⟨rfl, decoded, decoding, bytes, absent, single, found⟩, rfl,
    (views_agree decoded (content.take 31) [] none).2.1 (by decide)⟩

end Telemetry

end PanelLink
