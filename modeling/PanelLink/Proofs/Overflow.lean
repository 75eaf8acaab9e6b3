import Mathlib.Algebra.Group.Int.Defs
import Mathlib.Algebra.Group.Nat.Defs
import PanelLink.Program
import PanelLink.Proofs.Scheduling

/-!
Refresh intervals that the clock has no room for. An interval may be any number of seconds
in sixty-four bits, while the clock counts seconds in sixty-four bits with a sign, and
nothing compares the two before the time of the next refresh is computed. A monitor ends
there if and only if it comes to a refresh that is due with no room behind it.
-/

namespace PanelLink

/-! ## Room on the clock -/

namespace Instant

def HasRoom (now : Instant) (value : Nat) : TimeUnit → Prop
  | .milliseconds => now.nanos + 1000000 * value < 1000000000 * 2 ^ 63
  | .seconds => now.seconds + value < 2 ^ 63

theorem inRange_iff {instant : Instant} :
    instant.inRange = true ↔
      -(1000000000 * 2 ^ 63) ≤ instant.nanos ∧ instant.nanos < 1000000000 * 2 ^ 63 := by
  have lowest : Int64.minValue.toInt = -2 ^ 63 := by decide
  have highest : Int64.maxValue.toInt = 2 ^ 63 - 1 := by decide
  rw [inRange, seconds, lowest, highest, Int.fdiv_eq_ediv_of_nonneg _ (by decide)]
  simp only [Bool.and_eq_true, decide_eq_true_eq]
  omega

theorem after?_eq_none_iff {now : Instant} (shown : now.inRange = true)
    {duration : Duration} :
    now.after? duration = none ↔ 1000000000 * 2 ^ 63 ≤ now.nanos + duration.nanos := by
  rw [inRange_iff] at shown
  simp only [after?, ite_eq_right_iff, reduceCtorEq, imp_false, inRange_iff]
  omega

theorem hasRoom_iff {now : Instant} {value : Nat} {unit : TimeUnit} :
    now.HasRoom value unit ↔
      now.nanos + (Duration.ofUnit value unit).nanos < 1000000000 * 2 ^ 63 := by
  cases unit with
  | milliseconds =>
      simp only [HasRoom, Duration.ofUnit, Duration.ofMillis]
      omega
  | seconds =>
      have positive : (0 : Int) ≤ 1000000000 := by decide
      simp only [HasRoom, seconds, Int.fdiv_eq_ediv_of_nonneg _ positive, Duration.ofUnit,
        Duration.ofSeconds]
      omega

end Instant

theorem RefreshSchedule.check_eq_none_iff_hasRoom {now : Instant}
    (shown : now.inRange = true) {schedule : RefreshSchedule} {value : Nat}
    {unit : TimeUnit} (repeated : schedule.interval = some (.ofUnit value unit)) :
    schedule.check now = none ↔
    (∃ moment ∈ schedule.next, moment ≤ now) ∧ ¬now.HasRoom value unit := by
  rw [check_eq_none_iff, Instant.hasRoom_iff, Int.not_lt,
    ← Instant.after?_eq_none_iff shown, repeated]
  constructor
  · rintro ⟨moment, _, planned, reached, same, beyond⟩
    cases same
    exact ⟨⟨moment, planned, reached⟩, beyond⟩
  · rintro ⟨⟨moment, planned, reached⟩, beyond⟩
    exact ⟨moment, _, planned, reached, rfl, beyond⟩

theorem Duration.exists_unit_of_ofWord {word : String} {interval : Duration}
    (accepted : ofWord word = .ok interval) :
    ∃ value unit, 0 < value ∧ value < 2 ^ 64 ∧ interval = ofUnit value unit := by
  rw [ofWord] at accepted
  split at accepted
  · cases accepted
  · simp only at accepted
    split at accepted
    · cases accepted
    · rename_i value read
      split at accepted
      · cases accepted
      · rename_i positive
        cases accepted
        exact ⟨value, _, Nat.pos_of_ne_zero positive, Text.lt_of_unsigned? read, rfl⟩

namespace Monitor

/-! ## Turns -/

variable {settings : MonitorSettings}

theorem schedule_listen (monitor : Monitor) :
    (monitor.listen settings).2.schedule = monitor.schedule := by
  simp only [listen]
  cases judge settings.strict monitor.link.receive.1 <;> rfl

theorem listen_ne_overflow (monitor : Monitor) :
    (monitor.listen settings).1 ≠ some .clockOverflow := by
  simp only [listen]
  cases judge settings.strict monitor.link.receive.1 <;> exact nofun

/-- The turn at `now` is stopped by a refresh whose next time the clock cannot show. -/
def Overflows (settings : MonitorSettings) (now : Instant) (monitor : Monitor) : Prop :=
  monitor.isDone settings = false ∧ monitor.schedule.check now = none

theorem turn_of_overflows {now : Instant} {monitor : Monitor}
    (overflows : monitor.Overflows settings now) :
    monitor.turn settings now = (some .clockOverflow, monitor) := by
  rw [turn, overflows.1, overflows.2]
  rfl

theorem turn_of_not_overflows {now : Instant} {monitor : Monitor}
    (answered : ¬monitor.Overflows settings now) :
    (monitor.turn settings now).1 ≠ some .clockOverflow ∧
      (monitor.turn settings now).2.schedule.interval = monitor.schedule.interval := by
  rw [turn]
  split
  · exact ⟨nofun, rfl⟩
  · rename_i undone
    split
    · rename_i unanswered
      exact absurd ⟨Bool.eq_false_iff.mpr undone, unanswered⟩ answered
    · rename_i schedule checked
      refine ⟨listen_ne_overflow _, ?_⟩
      rw [schedule_listen]
      exact (RefreshSchedule.check_cases checked).1
    · rename_i schedule checked
      have sameInterval := (RefreshSchedule.check_cases checked).1
      split
      · refine ⟨listen_ne_overflow _, ?_⟩
        rw [schedule_listen]
        exact sameInterval
      · exact ⟨nofun, sameInterval⟩

/-! ## Runs -/

variable {clock : Nat → Instant}

inductive Passes (settings : MonitorSettings) (clock : Nat → Instant) :
    (index count : Nat) → Monitor → Monitor → Prop where
  | zero (index : Nat) (monitor : Monitor) : Passes settings clock index 0 monitor monitor
  | succ {index count : Nat} {monitor next later : Monitor}
      (turned : monitor.turn settings (clock index) = (none, next)) :
      Passes settings clock (index + 1) count next later →
      Passes settings clock index (count + 1) monitor later

theorem Passes.interval_eq {index count : Nat} {monitor later : Monitor}
    (passes : Passes settings clock index count monitor later) :
    later.schedule.interval = monitor.schedule.interval := by
  induction passes with
  | zero index monitor => rfl
  | @succ index count monitor next later turned rest induction =>
      have answered : ¬monitor.Overflows settings (clock index) := by
        intro overflows
        cases turned.symm.trans (turn_of_overflows overflows)
      have same := (turn_of_not_overflows answered).2
      rw [turned] at same
      exact induction.trans same

theorem turns_eq_overflow_iff {fuel index : Nat} {monitor reached : Monitor} :
    turns settings clock fuel index monitor = (.clockOverflow, reached) ↔
      ∃ count < fuel, Passes settings clock index count monitor reached ∧
        reached.Overflows settings (clock (index + count)) := by
  -- A turn that overflows is the last one and leaves the monitor as it is; behind any
  -- other turn that is not the last, what remains is a run with one turn less.
  induction fuel generalizing index monitor with
  | zero => simp [turns]
  | succ fuel induction =>
      rw [turns]
      cases turned : monitor.turn settings (clock index) with
      | mk ending next =>
          cases ending with
          | some ending =>
              constructor
              · intro ended
                cases ended
                by_cases overflows : monitor.Overflows settings (clock index)
                · cases turned.symm.trans (turn_of_overflows overflows)
                  exact ⟨0, Nat.succ_pos fuel, .zero _ _, overflows⟩
                · exact absurd (congrArg Prod.fst turned)
                    (turn_of_not_overflows overflows).1
              · rintro ⟨count, _, passes, overflows⟩
                cases passes with
                | zero =>
                    cases turned.symm.trans (turn_of_overflows overflows)
                    rfl
                | succ turned' => cases turned.symm.trans turned'
          | none =>
              simp only [induction]
              constructor
              · rintro ⟨count, less, passes, overflows⟩
                rw [Nat.succ_add_eq_add_succ] at overflows
                exact ⟨count + 1, Nat.succ_lt_succ less, .succ turned passes, overflows⟩
              · rintro ⟨count, less, passes, overflows⟩
                cases passes with
                | zero => cases turned.symm.trans (turn_of_overflows overflows)
                | @succ _ count _ _ _ turned' rest =>
                    cases turned.symm.trans turned'
                    rw [← Nat.succ_add_eq_add_succ] at overflows
                    exact ⟨count, Nat.lt_of_succ_lt_succ less, rest, overflows⟩

theorem run_eq_overflow_iff (shown : ∀ turn, (clock turn).inRange = true)
    {monitor reached : Monitor} {value : Nat} {unit : TimeUnit}
    (repeated : monitor.schedule.interval = some (.ofUnit value unit)) :
    monitor.run settings clock = (.clockOverflow, reached) ↔
      ∃ count ≤ monitor.weight, Passes settings clock 0 count monitor reached ∧
        reached.isDone settings = false ∧
        (∃ moment ∈ reached.schedule.next, moment ≤ clock count) ∧
        ¬(clock count).HasRoom value unit := by
  rw [run, turns_eq_overflow_iff]
  apply exists_congr
  intro count
  rw [Nat.lt_succ_iff, Nat.zero_add]
  apply and_congr_right
  intro _
  apply and_congr_right
  intro passes
  rw [Overflows,
    RefreshSchedule.check_eq_none_iff_hasRoom (shown count)
      (passes.interval_eq.trans repeated)]

/-- An accepted interval is a number of milliseconds or seconds below `2 ^ 64`. A refresh
that is due has no answer if and only if there is no room for the interval, and a monitor
fails if and only if it comes to such a refresh: never if there is always room, and at
once if there is none at first. -/
theorem overflow_without_room {word : String} {interval : Duration}
    (accepted : Duration.ofWord word = .ok interval) :
    ∃ value unit, 0 < value ∧ value < 2 ^ 64 ∧ interval = .ofUnit value unit ∧
      (∀ now moment, now.inRange = true → moment ≤ now →
        (RefreshSchedule.check now ⟨some interval, some moment⟩ = none ↔
          ¬now.HasRoom value unit)) ∧
      ∀ (link : Link) (settings : MonitorSettings) (initial : Bool) (origin : Instant)
        (clock : Nat → Instant), (∀ turn, (clock turn).inRange = true) →
        let monitor := start link (.start initial (some interval) origin)
        (∀ reached, monitor.run settings clock = (.clockOverflow, reached) ↔
          ∃ count ≤ monitor.weight, Passes settings clock 0 count monitor reached ∧
            reached.isDone settings = false ∧
              (∃ moment ∈ reached.schedule.next, moment ≤ clock count) ∧
            ¬(clock count).HasRoom value unit) ∧
        ((∀ turn, (clock turn).HasRoom value unit) →
          (monitor.run settings clock).1 ≠ .clockOverflow) ∧
        (origin ≤ clock 0 → monitor.isDone settings = false →
          ¬(clock 0).HasRoom value unit →
          monitor.run settings clock = (.clockOverflow, monitor)) := by
  rcases Duration.exists_unit_of_ofWord accepted with ⟨value, unit, positive, small, rfl⟩
  refine ⟨value, unit, positive, small, rfl, ?_, ?_⟩
  · intro now moment shown reached
    rw [RefreshSchedule.check_eq_none_iff_hasRoom shown rfl]
    exact and_iff_right ⟨moment, rfl, reached⟩
  · intro link settings initial origin clock shown monitor
    refine ⟨fun reached => run_eq_overflow_iff shown rfl, ?_, ?_⟩
    · intro roomy overflown
      rcases (run_eq_overflow_iff shown rfl).mp (Prod.ext overflown rfl) with
        ⟨count, _, _, _, _, roomless⟩
      exact roomless (roomy count)
    · intro since undone roomless
      have planned : ∃ moment ∈ monitor.schedule.next, moment ≤ clock 0 := by
        refine ⟨origin, ?_, since⟩
        simp [monitor, start, RefreshSchedule.start]
      exact (run_eq_overflow_iff shown rfl).mpr
        ⟨0, Nat.zero_le _, .zero _ _, undone, planned, roomless⟩

theorem overflow_without_room_second_later :
    let interval : Duration := .ofSeconds (2 ^ 63 - 1)
    let monitor :=
      start (.start 512 { script := [] } {}) (.start false (some interval) ⟨0⟩)
    Duration.ofWord "9223372036854775807s" = .ok interval ∧
      RefreshSchedule.check ⟨0⟩ ⟨some interval, some ⟨0⟩⟩ ≠ none ∧
      RefreshSchedule.check ⟨1000000000⟩ ⟨some interval, some ⟨0⟩⟩ = none ∧
      (monitor.run {} fun _ => ⟨0⟩).1 ≠ .clockOverflow ∧
      (monitor.run {} fun _ => ⟨1000000000⟩) = (.clockOverflow, monitor) := by
  intro interval monitor
  have accepted : Duration.ofWord "9223372036854775807s" = .ok interval := rfl
  rcases overflow_without_room accepted with ⟨value, unit, _, _, same, checked, ran⟩
  have roomy : (⟨0⟩ : Instant).HasRoom value unit := by
    rw [Instant.hasRoom_iff, ← same]
    decide
  have roomless : ¬(⟨1000000000⟩ : Instant).HasRoom value unit := by
    rw [Instant.hasRoom_iff, ← same]
    decide
  refine ⟨accepted, ?_, (checked ⟨1000000000⟩ ⟨0⟩ (by decide) (by decide)).mpr roomless,
    ?_, ?_⟩
  · exact fun unanswered => (checked ⟨0⟩ ⟨0⟩ (by decide) (by decide)).mp unanswered roomy
  · exact (ran _ {} false ⟨0⟩ (fun _ => ⟨0⟩) fun _ => by decide).2.1 fun _ => roomy
  · exact (ran _ {} false ⟨0⟩ (fun _ => ⟨1000000000⟩) fun _ => by decide).2.2 (by decide)
      rfl roomless

end Monitor

/-- The longest interval there is a word for crashes the program on a device that has a
record ready, where half of it does no harm. -/
theorem Program.crash_of_longest_interval :
    let ready : Source := { script := [.data (Frame.encode (List.replicate 32 0))] }
    let host : Host := { attachment := fun _ => .present {} ready }
    let exitCode (interval : String) :=
      (execute {} ["monitor", "--count", "1", "--refresh-interval", interval]
        host).exitCode
    Duration.ofWord "18446744073709551615" = .ok (.ofSeconds (2 ^ 64 - 1)) ∧
      (host.clock 1).inRange = true ∧
      RefreshSchedule.check (host.clock 1)
        (.start false (some (.ofSeconds (2 ^ 64 - 1))) (host.clock 0)) = none ∧
      exitCode "18446744073709551615" = some 101 ∧
        exitCode "9223372036854775807" = some 0 := by
  intro ready host exitCode
  refine ⟨rfl, by decide, rfl, ?_, ?_⟩ <;> decide +kernel

end PanelLink
