import PanelLink.Receiver

/-!
The boundaries and the resets cut the bytes fed to a receiver into segments, and the
segments alone decide what it answers. A segment within the limit is judged at its
boundary, a longer one is reported where it outgrows the limit, and no segment has an
influence on another.
-/

namespace PanelLink

namespace Receiver

/-! ## The unfinished segment -/

/-- A receiver that has been fed `segment` since the last cut. -/
def holding (limit : Nat) (segment : Bytes) : Receiver :=
  if segment.length ≤ limit then ⟨limit, segment, .accumulating⟩
  else ⟨limit, [], .discarding⟩

@[simp] theorem holding_nil (limit : Nat) : holding limit [] = start limit := by
  simp [holding, start]

/-- What byte number `index` of a segment, counted from zero, brings about. -/
def report (limit index : Nat) : Option Outcome :=
  if index = limit then some (.error (.oversize limit)) else none

def verdict (limit : Nat) (segment : Bytes) : Option Outcome :=
  if limit < segment.length then none
  else if segment.length < 3 then none
  else some (Escape.decode segment)

theorem holding_of_le {limit : Nat} {segment : Bytes} (within : segment.length ≤ limit) :
    holding limit segment = ⟨limit, segment, .accumulating⟩ := by
  rw [holding, if_pos within]

theorem holding_of_lt {limit : Nat} {segment : Bytes} (beyond : limit < segment.length) :
    holding limit segment = ⟨limit, [], .discarding⟩ := by
  rw [holding, if_neg (Nat.not_le_of_lt beyond)]

theorem feed_holding_endByte (limit : Nat) (segment : Bytes) :
    (holding limit segment).feed Escape.endByte =
      (verdict limit segment, start limit) := by
  rcases Nat.lt_or_ge limit segment.length with beyond | within
  · rw [holding_of_lt beyond, verdict, if_pos beyond]
    rfl
  · rw [holding_of_le within, verdict, if_neg (Nat.not_lt_of_le within)]
    rfl

theorem reset_holding (limit : Nat) (segment : Bytes) :
    (holding limit segment).reset = start limit := by
  rw [holding]
  split <;> rfl

theorem feed_holding_of_ne (limit : Nat) (segment : Bytes) {byte : UInt8}
    (different : byte ≠ Escape.endByte) :
    (holding limit segment).feed byte =
      (report limit segment.length, holding limit (segment ++ [byte])) := by
  -- Below the limit the byte is kept, at the limit it is one too many, beyond it nothing
  -- is kept.
  have longer : (segment ++ [byte]).length = segment.length + 1 := List.length_append
  rcases Nat.lt_trichotomy segment.length limit with below | reached | beyond
  · have within : segment.length ≤ limit := Nat.le_of_lt below
    have longerWithin : (segment ++ [byte]).length ≤ limit := by omega
    rw [holding_of_le within, holding_of_le longerWithin, report,
      if_neg (Nat.ne_of_lt below)]
    simp [feed, different, below]
  · have within : segment.length ≤ limit := Nat.le_of_eq reached
    have longerBeyond : limit < (segment ++ [byte]).length := by omega
    rw [holding_of_le within, holding_of_lt longerBeyond, report, if_pos reached]
    simp [feed, different, reached]
  · have longerBeyond : limit < (segment ++ [byte]).length := by omega
    rw [holding_of_lt beyond, holding_of_lt longerBeyond, report,
      if_neg (Nat.ne_of_gt beyond)]
    simp [feed, different]

theorem run_holding (limit : Nat) (segment : Bytes) {bytes : Bytes}
    (unbroken : Escape.endByte ∉ bytes) :
    (holding limit segment).run bytes = holding limit (segment ++ bytes) := by
  induction bytes generalizing segment with
  | nil => simp [run]
  | cons byte rest induction =>
      have different : byte ≠ Escape.endByte := (List.ne_of_not_mem_cons unbroken).symm
      have unbrokenRest := List.not_mem_of_not_mem_cons unbroken
      rw [run, feed_holding_of_ne limit segment different, induction _ unbrokenRest]
      simp

theorem outcomes_holding (limit : Nat) (segment : Bytes) {bytes : Bytes}
    (unbroken : Escape.endByte ∉ bytes) :
    (holding limit segment).outcomes bytes =
      if segment.length ≤ limit ∧ limit < segment.length + bytes.length then
        [.error (.oversize limit)]
      else [] := by
  induction bytes generalizing segment with
  | nil =>
      rw [List.length_nil, if_neg (by omega)]
      rfl
  | cons byte rest induction =>
      have different : byte ≠ Escape.endByte := (List.ne_of_not_mem_cons unbroken).symm
      have later := induction (segment ++ [byte]) (List.not_mem_of_not_mem_cons unbroken)
      have step : (holding limit segment).outcomes (byte :: rest) =
          (report limit segment.length).toList ++
            (holding limit (segment ++ [byte])).outcomes rest := by
        rw [outcomes, trace, feed_holding_of_ne limit segment different]
        cases report limit segment.length <;> rfl
      rw [step, later, report, List.length_append, List.length_singleton,
        List.length_cons]
      rcases Nat.lt_trichotomy segment.length limit with below | reached | beyond
      · have sameCondition :
            (segment.length + 1 ≤ limit ∧ limit < segment.length + 1 + rest.length) ↔
            (segment.length ≤ limit ∧ limit < segment.length + (rest.length + 1)) := by
          omega
        rw [if_neg (Nat.ne_of_lt below)]
        simp only [sameCondition]
        rfl
      · rw [if_pos reached, if_neg (by omega), if_pos (by omega)]
        rfl
      · rw [if_neg (Nat.ne_of_gt beyond), if_neg (by omega), if_neg (by omega)]
        rfl

theorem outcomes_start (limit : Nat) {bytes : Bytes} (unbroken : Escape.endByte ∉ bytes) :
    (start limit).outcomes bytes =
      if bytes.length ≤ limit then [] else [.error (.oversize limit)] := by
  rw [← holding_nil, outcomes_holding limit [] unbroken]
  by_cases within : bytes.length ≤ limit
  · rw [if_pos within, if_neg (by simpa using within)]
  · rw [if_neg within, if_pos (by simpa using within)]

theorem run_start (limit : Nat) {bytes : Bytes} (unbroken : Escape.endByte ∉ bytes) :
    (start limit).run bytes = holding limit bytes := by
  rw [← holding_nil]
  exact run_holding limit [] unbroken

theorem outcomes_segment (limit : Nat) {segment : Bytes}
    (unbroken : Escape.endByte ∉ segment) :
    (start limit).outcomes (segment ++ [Escape.endByte]) =
      (if segment.length ≤ limit then [] else [.error (.oversize limit)]) ++
        (verdict limit segment).toList := by
  have closing : (holding limit segment).outcomes [Escape.endByte] =
      (verdict limit segment).toList := by
    rw [outcomes, trace, feed_holding_endByte]
    cases verdict limit segment <;> rfl
  rw [outcomes_append, outcomes_start limit unbroken, run_start limit unbroken, closing]

/-! ## Operations -/

inductive Operation where
  | feed (byte : UInt8)
  | reset
deriving DecidableEq, Repr

def perform (receiver : Receiver) : Operation → Option Outcome × Receiver
  | .feed byte => receiver.feed byte
  | .reset => (none, receiver.reset)

def performAll (receiver : Receiver) : List Operation → Receiver
  | [] => receiver
  | operation :: rest => (receiver.perform operation).2.performAll rest

def operationTrace (receiver : Receiver) : List Operation → List (Option Outcome)
  | [] => []
  | operation :: rest =>
      (receiver.perform operation).1 :: (receiver.perform operation).2.operationTrace rest

end Receiver

/-! ## Cutting operations into segments -/

inductive SegmentEnd where
  | boundary
  | reset
deriving DecidableEq, Repr

structure Segment where
  bytes : Bytes
  ending : SegmentEnd
  unbroken : Escape.endByte ∉ bytes

/-- The segments that have ended, and the bytes fed since. -/
@[ext]
structure Cut where
  segments : List Segment
  tail : Bytes
  unbroken : Escape.endByte ∉ tail

def SegmentEnd.operation : SegmentEnd → Receiver.Operation
  | boundary => .feed Escape.endByte
  | reset => .reset

namespace Segment

def operations (segment : Segment) : List Receiver.Operation :=
  segment.bytes.map .feed ++ [segment.ending.operation]

def reports (limit : Nat) (bytes : Bytes) : List (Option Receiver.Outcome) :=
  (List.range bytes.length).map (Receiver.report limit)

def conclusion (limit : Nat) (segment : Segment) : Option Receiver.Outcome :=
  match segment.ending with
  | .boundary => Receiver.verdict limit segment.bytes
  | .reset => none

def trace (limit : Nat) (segment : Segment) : List (Option Receiver.Outcome) :=
  reports limit segment.bytes ++ [segment.conclusion limit]

theorem reports_append_singleton (limit : Nat) (bytes : Bytes) (byte : UInt8) :
    reports limit (bytes ++ [byte]) =
      reports limit bytes ++ [Receiver.report limit bytes.length] := by
  simp [reports, List.range_succ]

end Segment

namespace Cut

def operations (cut : Cut) : List Receiver.Operation :=
  cut.segments.flatMap Segment.operations ++ cut.tail.map .feed

def trace (limit : Nat) (cut : Cut) : List (Option Receiver.Outcome) :=
  cut.segments.flatMap (Segment.trace limit) ++ Segment.reports limit cut.tail

def empty : Cut := ⟨[], [], List.not_mem_nil⟩

def finish (ending : SegmentEnd) (cut : Cut) : Cut :=
  ⟨cut.segments ++ [⟨cut.tail, ending, cut.unbroken⟩], [], List.not_mem_nil⟩

def push (cut : Cut) (bytes : Bytes) (unbroken : Escape.endByte ∉ bytes) : Cut :=
  ⟨cut.segments, cut.tail ++ bytes, by simp [cut.unbroken, unbroken]⟩

def extend (cut : Cut) : Receiver.Operation → Cut
  | .reset => cut.finish .reset
  | .feed byte =>
      if same : byte = Escape.endByte then cut.finish .boundary
      else cut.push [byte] (by simpa using Ne.symm same)

def ofOperations (operations : List Receiver.Operation) : Cut :=
  operations.foldl extend empty

/-! ### One operation -/

theorem operations_finish (ending : SegmentEnd) (cut : Cut) :
    (cut.finish ending).operations = cut.operations ++ [ending.operation] := by
  simp [operations, finish, Segment.operations]

theorem trace_finish (limit : Nat) (ending : SegmentEnd) (cut : Cut) :
    (cut.finish ending).trace limit =
      cut.trace limit ++ [Segment.conclusion limit ⟨cut.tail, ending, cut.unbroken⟩] := by
  simp [trace, finish, Segment.trace, Segment.reports]

theorem extend_feed_endByte (cut : Cut) :
    cut.extend (.feed Escape.endByte) = cut.finish .boundary := by
  simp [extend]

theorem extend_operation (cut : Cut) (ending : SegmentEnd) :
    cut.extend ending.operation = cut.finish ending := by
  cases ending with
  | boundary => exact extend_feed_endByte cut
  | reset => rfl

theorem extend_feed (cut : Cut) {byte : UInt8} (different : byte ≠ Escape.endByte) :
    cut.extend (.feed byte) = cut.push [byte] (by simpa using different.symm) :=
  dif_neg different

theorem operations_extend (cut : Cut) (operation : Receiver.Operation) :
    (cut.extend operation).operations = cut.operations ++ [operation] := by
  cases operation with
  | reset => exact operations_finish .reset cut
  | feed byte =>
      by_cases same : byte = Escape.endByte
      · rw [same, extend_feed_endByte]
        exact operations_finish .boundary cut
      · rw [extend_feed cut same]
        simp [operations, push]

theorem trace_extend (limit : Nat) (cut : Cut) (operation : Receiver.Operation) :
    (cut.extend operation).trace limit =
      cut.trace limit ++ [((Receiver.holding limit cut.tail).perform operation).1] := by
  cases operation with
  | reset => exact trace_finish limit .reset cut
  | feed byte =>
      by_cases same : byte = Escape.endByte
      · rw [same, extend_feed_endByte, Receiver.perform, Receiver.feed_holding_endByte]
        exact trace_finish limit .boundary cut
      · rw [extend_feed cut same, Receiver.perform,
          Receiver.feed_holding_of_ne limit cut.tail same]
        simp [trace, push, Segment.reports_append_singleton]

theorem perform_holding (limit : Nat) (cut : Cut) (operation : Receiver.Operation) :
    ((Receiver.holding limit cut.tail).perform operation).2 =
      Receiver.holding limit (cut.extend operation).tail := by
  cases operation with
  | reset =>
    exact (Receiver.reset_holding limit cut.tail).trans (Receiver.holding_nil limit).symm
  | feed byte =>
      by_cases same : byte = Escape.endByte
      · rw [same, extend_feed_endByte, Receiver.perform, Receiver.feed_holding_endByte]
        exact (Receiver.holding_nil limit).symm
      · rw [extend_feed cut same, Receiver.perform,
          Receiver.feed_holding_of_ne limit cut.tail same]
        rfl

/-! ### All operations -/

theorem operations_foldl_extend (cut : Cut) (operations : List Receiver.Operation) :
    (operations.foldl extend cut).operations = cut.operations ++ operations := by
  induction operations generalizing cut with
  | nil => simp
  | cons operation rest induction =>
      rw [List.foldl_cons, induction, operations_extend]
      simp

theorem trace_foldl_extend (limit : Nat) (cut : Cut)
    (operations : List Receiver.Operation) :
    (operations.foldl extend cut).trace limit =
      cut.trace limit ++ (Receiver.holding limit cut.tail).operationTrace operations := by
  induction operations generalizing cut with
  | nil => simp [Receiver.operationTrace]
  | cons operation rest induction =>
      rw [List.foldl_cons, induction, trace_extend, Receiver.operationTrace,
        perform_holding]
      simp

theorem performAll_holding (limit : Nat) (cut : Cut)
    (operations : List Receiver.Operation) :
    (Receiver.holding limit cut.tail).performAll operations =
      Receiver.holding limit (operations.foldl extend cut).tail := by
  induction operations generalizing cut with
  | nil => rfl
  | cons operation rest induction =>
      rw [Receiver.performAll, perform_holding, induction, List.foldl_cons]

/-! ### There is only one cut -/

theorem foldl_extend_feed (cut : Cut) {bytes : Bytes}
    (unbroken : Escape.endByte ∉ bytes) :
    (bytes.map .feed).foldl extend cut = cut.push bytes unbroken := by
  induction bytes generalizing cut with
  | nil =>
      apply Cut.ext
      · rfl
      · exact (List.append_nil cut.tail).symm
  | cons byte rest induction =>
      have different : byte ≠ Escape.endByte := (List.ne_of_not_mem_cons unbroken).symm
      have unbrokenRest := List.not_mem_of_not_mem_cons unbroken
      rw [List.map_cons, List.foldl_cons, extend_feed cut different,
        induction _ unbrokenRest]
      simp [push]

theorem foldl_extend_segment (done : List Segment) (segment : Segment) :
    segment.operations.foldl extend ⟨done, [], List.not_mem_nil⟩ =
      ⟨done ++ [segment], [], List.not_mem_nil⟩ := by
  rw [Segment.operations, List.foldl_append, foldl_extend_feed _ segment.unbroken,
    List.foldl_cons, List.foldl_nil, extend_operation]
  rfl

theorem foldl_extend_segments (done segments : List Segment) :
    (segments.flatMap Segment.operations).foldl extend ⟨done, [], List.not_mem_nil⟩ =
      ⟨done ++ segments, [], List.not_mem_nil⟩ := by
  induction segments generalizing done with
  | nil => simp
  | cons segment rest induction =>
      rw [List.flatMap_cons, List.foldl_append, foldl_extend_segment, induction]
      simp

theorem ofOperations_operations (cut : Cut) : ofOperations cut.operations = cut := by
  rw [ofOperations, empty, operations, List.foldl_append, foldl_extend_segments,
    foldl_extend_feed _ cut.unbroken]
  rfl

theorem operations_ofOperations (operations : List Receiver.Operation) :
    (ofOperations operations).operations = operations :=
  operations_foldl_extend empty operations

theorem operations_eq_iff (cut : Cut) (operations : List Receiver.Operation) :
    cut.operations = operations ↔ cut = ofOperations operations := by
  constructor
  · intro equal
    rw [← equal, ofOperations_operations]
  · intro equal
    rw [equal, operations_ofOperations]

end Cut

/-! ## The receiver answers segment by segment -/

namespace Receiver

theorem buffered_holding (limit : Nat) (segment : Bytes) :
    (holding limit segment).buffered =
      if segment.length ≤ limit then segment.length else 0 := by
  rcases Nat.lt_or_ge limit segment.length with beyond | within
  · rw [holding_of_lt beyond, if_neg (Nat.not_le_of_lt beyond)]
    rfl
  · rw [holding_of_le within, if_pos within]
    rfl

theorem isDiscarding_holding (limit : Nat) (segment : Bytes) :
    (holding limit segment).isDiscarding = decide (limit < segment.length) := by
  rcases Nat.lt_or_ge limit segment.length with beyond | within
  · simp [holding_of_lt beyond, isDiscarding, beyond]
  · simp [holding_of_le within, isDiscarding, within]

/-- However bytes and resets are mixed, they are cut into segments in one way. Every
answer is that of its segment: one report where a segment outgrows the limit and nothing
more of it, and at a boundary the unescaped segment if it is long enough. In between the
receiver holds the segment at hand. -/
theorem operationTrace_start_eq (limit : Nat) (operations : List Operation) :
    let cut := Cut.ofOperations operations
    let receiver := (start limit).performAll operations
    (∀ other : Cut, other.operations = operations ↔ other = cut) ∧
      (start limit).operationTrace operations = cut.trace limit ∧
      if cut.tail.length ≤ limit then
        receiver.buffered = cut.tail.length ∧ receiver.isDiscarding = false
      else receiver.buffered = 0 ∧ receiver.isDiscarding = true := by
  intro cut receiver
  have traced := Cut.trace_foldl_extend limit Cut.empty operations
  have held : receiver = holding limit cut.tail := by
    have performed := Cut.performAll_holding limit Cut.empty operations
    rwa [Cut.empty, holding_nil] at performed
  refine ⟨fun other => Cut.operations_eq_iff other operations, ?_, ?_⟩
  · rw [Cut.empty, holding_nil] at traced
    exact traced.symm
  · rw [held, buffered_holding, isDiscarding_holding]
    split
    · rename_i within
      exact ⟨rfl, decide_eq_false (Nat.not_lt_of_le within)⟩
    · rename_i notWithin
      exact ⟨rfl, decide_eq_true (Nat.lt_of_not_le notWithin)⟩

example :
    (start 3).operationTrace ([.feed 1, .feed 2, .feed 3, .feed 4, .reset] ++
      [0x40, 0x48, 0xC4, Escape.endByte].map .feed) =
      [none, none, none, some (.error (.oversize 3)), none, none, none, none,
        some (.ok [0x40, 0x48, 0xC4])] := rfl

end Receiver

end PanelLink
