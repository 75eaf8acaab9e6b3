import Mathlib.Data.List.Chain
import PanelLink.Schedule

/-!
When a refresh is due. The schedule remembers no more than the moment from which the next
refresh is due, yet each answer is what the whole history of checks makes it: it depends
on the latest check at which a refresh was due, and on that one only.
-/

namespace PanelLink

def Instant.Apart (duration : Duration) (earlier later : Instant) : Prop :=
  earlier.nanos + duration.nanos ≤ later.nanos

theorem Instant.eq_of_after? {now later : Instant} {duration : Duration}
    (shown : now.after? duration = some later) :
    later = ⟨now.nanos + duration.nanos⟩ := by
  rw [after?] at shown
  split at shown
  · exact (Option.some.inj shown).symm
  · cases shown

namespace RefreshSchedule

/-! ## Single checks -/

theorem check_eq_none_iff {now : Instant} {schedule : RefreshSchedule} :
    schedule.check now = none ↔
      ∃ moment interval, schedule.next = some moment ∧ moment ≤ now ∧
        schedule.interval = some interval ∧ now.after? interval = none := by
  rcases schedule with ⟨interval, next⟩
  cases next with
  | none => simp [check]
  | some moment =>
      by_cases reached : moment ≤ now
      · cases interval <;> simp [check, reached]
      · simp [check, reached]

theorem check_cases {now : Instant} {schedule later : RefreshSchedule} {due : Bool}
    (checked : schedule.check now = some (due, later)) :
    later.interval = schedule.interval ∧
      ((due = false ∧ later.next = schedule.next ∧
        ∀ moment ∈ schedule.next, ¬moment ≤ now) ∨
        (due = true ∧ (∃ moment ∈ schedule.next, moment ≤ now) ∧
          later.next =
            schedule.interval.map fun interval => ⟨now.nanos + interval.nanos⟩)) := by
  rcases schedule with ⟨interval, next⟩
  cases next with
  | none =>
      cases checked
      simp
  | some moment =>
      by_cases reached : moment ≤ now
      · cases interval with
        | none =>
            have same : true = due ∧ ⟨none, none⟩ = later := by
              simpa [check, reached] using checked
            rcases same with ⟨rfl, rfl⟩
            simp [reached]
        | some interval =>
            have mapped : ∃ next, now.after? interval = some next ∧ true = due ∧
                ⟨some interval, some next⟩ = later := by
              simpa [check, reached] using checked
            rcases mapped with ⟨next, shown, rfl, rfl⟩
            simp [reached, Instant.eq_of_after? shown]
      · have same : false = due ∧ ⟨interval, some moment⟩ = later := by
          simpa [check, reached] using checked
        rcases same with ⟨rfl, rfl⟩
        simp [reached]

/-! ## Rows of checks -/

theorem checks_cons_eq_some {now : Instant} {later : List Instant}
    {schedule : RefreshSchedule} {dues : List Bool}
    (checked : schedule.checks (now :: later) = some dues) :
    ∃ due next rest, schedule.check now = some (due, next) ∧
    next.checks later = some rest ∧
      dues = due :: rest := by
  rw [checks] at checked
  cases first : schedule.check now with
  | none => simp [first] at checked
  | some answer =>
      rcases answer with ⟨due, next⟩
      cases others : next.checks later with
      | none => simp [first, others] at checked
      | some rest =>
          have listed : due :: rest = dues := by simpa [first, others] using checked
          exact ⟨due, next, rest, rfl, others, listed.symm⟩

theorem length_of_checks {times : List Instant} {schedule : RefreshSchedule}
    {dues : List Bool} (checked : schedule.checks times = some dues) :
    dues.length = times.length := by
  induction times generalizing schedule dues with
  | nil =>
      cases checked
      rfl
  | cons now later induction =>
      rcases checks_cons_eq_some checked with ⟨due, next, rest, _, others, rfl⟩
      rw [List.length_cons, List.length_cons, induction others]

theorem exists_checks {times : List Instant} {schedule : RefreshSchedule}
    (shown : ∀ now ∈ times, ∀ interval ∈ schedule.interval, now.after? interval ≠ none) :
    ∃ dues, schedule.checks times = some dues := by
  induction times generalizing schedule with
  | nil => exact ⟨[], rfl⟩
  | cons now later induction =>
      cases first : schedule.check now with
      | none =>
          rcases check_eq_none_iff.mp first with ⟨_, interval, _, _, repeated, beyond⟩
          exact absurd beyond (shown now List.mem_cons_self interval repeated)
      | some answer =>
          rcases answer with ⟨due, next⟩
          have same := (check_cases first).1
          have laterShown :
              ∀ moment ∈ later, ∀ interval ∈ next.interval,
                moment.after? interval ≠ none := by
            rw [same]
            exact fun moment member => shown moment (List.mem_cons_of_mem now member)
          rcases induction laterShown with ⟨rest, others⟩
          exact ⟨due :: rest, by simp [checks, first, others]⟩

theorem checks_of_next_eq_none {schedule : RefreshSchedule} (quiet : schedule.next = none)
    (readings : List Instant) :
    schedule.checks readings = some (List.replicate readings.length false) := by
  induction readings with
  | nil => rfl
  | cons now later induction =>
      have undue : schedule.check now = some (false, schedule) := by rw [check, quiet]
      simp [checks, undue, induction, List.replicate_succ]

def firings (history : List (Instant × Bool)) : List Instant :=
  (history.filter (·.2)).map (·.1)

theorem firings_cons_false (now : Instant) (history : List (Instant × Bool)) :
    firings ((now, false) :: history) = firings history := rfl

theorem firings_cons_true (now : Instant) (history : List (Instant × Bool)) :
    firings ((now, true) :: history) = now :: firings history := rfl

/-! ## The law -/

def nextAfter (fired : List Instant) (schedule : RefreshSchedule) : Option Instant :=
  match fired.getLast? with
  | none => schedule.next
  | some latest => schedule.interval.map fun interval => ⟨latest.nanos + interval.nanos⟩

theorem nextAfter_firings_cons {now : Instant} {due : Bool}
    {schedule later : RefreshSchedule} (checked : schedule.check now = some (due, later))
    (history : List (Instant × Bool)) :
    schedule.nextAfter (firings ((now, due) :: history)) =
      later.nextAfter (firings history) := by
  rcases check_cases checked with ⟨sameInterval, ⟨rfl, sameNext, _⟩ | ⟨rfl, _, moved⟩⟩
  · simp only [nextAfter, firings_cons_false, sameInterval, sameNext]
  · simp only [nextAfter, firings_cons_true, List.getLast?_cons, sameInterval, moved]
    cases (firings history).getLast? <;> rfl

theorem due_iff {schedule : RefreshSchedule} {times : List Instant} {dues : List Bool}
    (checked : schedule.checks times = some dues) {before after : List (Instant × Bool)}
    {now : Instant} {due : Bool}
    (split : times.zip dues = before ++ (now, due) :: after) :
    due = true ↔ ∃ moment ∈ schedule.nextAfter (firings before), moment ≤ now := by
  -- Along the earlier checks, what the schedule holds is what their firings make of it.
  induction before generalizing schedule times dues with
  | nil =>
      rcases List.zip_eq_cons_iff.mp split with ⟨later, rest, rfl, rfl, _⟩
      rcases checks_cons_eq_some checked with ⟨_, _, _, first, _, same⟩
      cases same
      rcases check_cases first with ⟨_, ⟨rfl, _, unreached⟩ | ⟨rfl, reached, _⟩⟩
      · refine iff_of_false Bool.false_ne_true ?_
        rintro ⟨moment, planned, reached⟩
        exact unreached moment planned reached
      · exact iff_of_true rfl reached
  | cons earlier before induction =>
      rcases earlier with ⟨time, fired⟩
      rcases List.zip_eq_cons_iff.mp split with ⟨later, rest, rfl, rfl, remaining⟩
      rcases checks_cons_eq_some checked with ⟨_, next, _, first, others, same⟩
      cases same
      rw [nextAfter_firings_cons first]
      exact induction others remaining.symm

/-! ## Firings -/

theorem length_firings {times : List Instant} {dues : List Bool}
    (sameLength : dues.length = times.length) :
    (firings (times.zip dues)).length = dues.count true := by
  calc (firings (times.zip dues)).length = (times.zip dues).countP (·.2) := by
        rw [firings, List.length_map, List.countP_eq_length_filter]
    _ = ((times.zip dues).map Prod.snd).count true := by
        rw [List.count, List.countP_map]
        congr
        funext check
        exact (beq_true check.2).symm
    _ = dues.count true := by rw [List.map_snd_zip (Nat.le_of_eq sameLength)]

theorem mem_of_mem_firings {times : List Instant} {dues : List Bool} {time : Instant}
    (member : time ∈ firings (times.zip dues)) : time ∈ times := by
  rcases List.mem_map.mp member with ⟨⟨time, due⟩, among, rfl⟩
  exact (List.of_mem_zip (List.mem_of_mem_filter among)).1

theorem isChain_firings {schedule : RefreshSchedule} {interval : Duration}
    (repeated : schedule.interval = some interval) {times : List Instant}
    {dues : List Bool} (checked : schedule.checks times = some dues) :
    (firings (times.zip dues)).IsChain (Instant.Apart interval) ∧
      ∀ first ∈ (firings (times.zip dues)).head?,
        ∃ moment ∈ schedule.next, moment ≤ first := by
  induction times generalizing schedule dues with
  | nil => simp [firings]
  | cons now later induction =>
      rcases checks_cons_eq_some checked with ⟨due, next, rest, first, others, rfl⟩
      rw [List.zip_cons_cons]
      rcases check_cases first with ⟨sameInterval,
        ⟨rfl, sameNext, _⟩ | ⟨rfl, reached, moved⟩⟩
      · rw [firings_cons_false, ← sameNext]
        exact induction (sameInterval.trans repeated) others
      · rcases induction (sameInterval.trans repeated) others with ⟨chain, apart⟩
        rw [moved, repeated] at apart
        rw [firings_cons_true, List.isChain_cons]
        refine ⟨⟨?_, chain⟩, ?_⟩
        · intro second following
          rcases apart second following with ⟨moment, planned, reached⟩
          cases planned
          exact reached
        · intro time same
          cases same
          exact reached

theorem span_of_isChain {interval : Duration} {first : Instant} {others : List Instant}
    (chain : (first :: others).IsChain (Instant.Apart interval)) {bound : Int}
    (within : ∀ time ∈ first :: others, time.nanos ≤ bound) :
    first.nanos + (others.length * interval.nanos : Nat) ≤ bound := by
  induction others generalizing first with
  | nil => simpa using within first List.mem_cons_self
  | cons second others induction =>
      rcases List.isChain_cons_cons.mp chain with ⟨apart, rest⟩
      have reached :=
        induction rest fun time member => within time (List.mem_cons_of_mem first member)
      rw [Instant.Apart] at apart
      rw [List.length_cons, Nat.succ_mul]
      omega

/-- In a time `span`, an interval has room for as many firings as it fits in, and one
more. -/
theorem length_le_of_isChain {interval : Duration} (positive : 0 < interval.nanos)
    {fired : List Instant} (chain : fired.IsChain (Instant.Apart interval))
    {origin : Instant} {span : Nat}
    (within : ∀ time ∈ fired, origin ≤ time ∧ time.nanos ≤ origin.nanos + span) :
    fired.length ≤ span / interval.nanos + 1 := by
  cases fired with
  | nil => exact Nat.zero_le _
  | cons first others =>
      have since : origin.nanos ≤ first.nanos := (within first List.mem_cons_self).1
      have reached := span_of_isChain chain fun time member => (within time member).2
      have fits : others.length * interval.nanos ≤ span := by omega
      exact Nat.succ_le_succ ((Nat.le_div_iff_mul_le positive).mpr fits)

theorem count_le_one {schedule : RefreshSchedule} (once : schedule.interval = none)
    {times : List Instant} {dues : List Bool}
    (checked : schedule.checks times = some dues) : dues.count true ≤ 1 := by
  induction times generalizing schedule dues with
  | nil =>
      cases checked
      exact Nat.zero_le 1
  | cons now later induction =>
      rcases checks_cons_eq_some checked with ⟨due, next, rest, first, others, rfl⟩
      rcases check_cases first with ⟨sameInterval, ⟨rfl, _, _⟩ | ⟨rfl, _, moved⟩⟩
      · rw [List.count_cons_of_ne Bool.false_ne_true]
        exact induction (sameInterval.trans once) others
      · rw [once] at moved
        rw [checks_of_next_eq_none moved] at others
        cases others
        simp [List.count_replicate]

/-! ## Schedules from their start -/

theorem exists_next_start_iff {initial : Bool} {interval : Option Duration}
    {origin now : Instant} :
    (∃ moment ∈ (start initial interval origin).next, moment ≤ now) ↔
      (initial = true ∨ interval ≠ none) ∧ origin ≤ now := by
  cases initial <;> cases interval <;> simp [start]

theorem exists_nextAfter_start_iff {initial : Bool} {interval : Option Duration}
    {origin now : Instant} {fired : List Instant} :
    (∃ moment ∈ (start initial interval origin).nextAfter fired, moment ≤ now) ↔
      (fired = [] ∧ (initial = true ∨ interval ≠ none) ∧ origin ≤ now) ∨
        ∃ latest duration, fired.getLast? = some latest ∧ interval = some duration ∧
          Instant.Apart duration latest now := by
  rw [nextAfter]
  cases last : fired.getLast? with
  | none =>
      rw [List.getLast?_eq_none_iff.mp last, exists_next_start_iff]
      simp
  | some latest =>
      constructor
      · rintro ⟨moment, planned, reached⟩
        rcases Option.map_eq_some_iff.mp planned with ⟨duration, repeated, rfl⟩
        exact .inr ⟨latest, duration, rfl, repeated, reached⟩
      · rintro (⟨rfl, _⟩ | ⟨_, duration, same, rfl, apart⟩)
        · cases last
        · cases same
          exact ⟨_, rfl, apart⟩

/-- Unless the clock ends, every check is answered. A refresh is due at a check if none
has been due before, one is wanted and the start is reached, or if the interval has passed
since the latest check at which one was due. So without an interval there is at most one,
with an interval two in a row are that far apart, and there is a bound on how many fit in
a time, in whatever order the checks come. -/
theorem checks_by_latest (initial : Bool) (interval : Option Duration) (origin : Instant)
    (times : List Instant) :
    let schedule := start initial interval origin
    ((∀ now ∈ times, ∀ duration ∈ interval, now.after? duration ≠ none) →
      ∃ dues, schedule.checks times = some dues) ∧
    ∀ dues, schedule.checks times = some dues →
      dues.length = times.length ∧
      (∀ before now due after, times.zip dues = before ++ (now, due) :: after →
        (due = true ↔
          (firings before = [] ∧ (initial = true ∨ interval ≠ none) ∧ origin ≤ now) ∨
            ∃ latest duration, (firings before).getLast? = some latest ∧
              interval = some duration ∧
              Instant.Apart duration latest now)) ∧
      (interval = none → dues.count true ≤ 1) ∧
      ∀ duration, interval = some duration →
        (firings (times.zip dues)).IsChain (Instant.Apart duration) ∧
        ∀ span : Nat, 0 < duration.nanos →
          (∀ now ∈ times, origin ≤ now ∧ now.nanos ≤ origin.nanos + span) →
          dues.count true ≤ span / duration.nanos + 1 := by
  intro schedule
  refine ⟨fun shown => exists_checks shown, ?_⟩
  intro dues checked
  have sameLength := length_of_checks checked
  refine ⟨sameLength, ?_, fun once => count_le_one once checked, ?_⟩
  · intro before now due after split
    exact (due_iff checked split).trans exists_nextAfter_start_iff
  · intro duration repeated
    have chain := (isChain_firings repeated checked).1
    refine ⟨chain, ?_⟩
    intro span positive within
    rw [← length_firings sameLength]
    exact length_le_of_isChain positive chain fun time member =>
      within time (mem_of_mem_firings member)

theorem checks_by_latest_behind :
    let schedule := start false (some ⟨10⟩) ⟨0⟩
    let times : List Instant := [⟨0⟩, ⟨4⟩, ⟨25⟩, ⟨31⟩, ⟨40⟩]
    let dues := [true, false, true, false, true]
    (∀ now ∈ times, ∀ duration ∈ some ⟨10⟩, now.after? duration ≠ none) ∧
      schedule.checks times = some dues ∧
        firings ((times.zip dues).take 3) = [⟨0⟩, ⟨25⟩] ∧
      ¬Instant.Apart ⟨10⟩ ⟨25⟩ ⟨31⟩ ∧ Instant.Apart ⟨10⟩ ⟨25⟩ ⟨40⟩ ∧
      (firings (times.zip dues)).IsChain (Instant.Apart ⟨10⟩) ∧
        dues.count true ≤ 40 / 10 + 1 := by
  intro schedule times dues
  have shown : ∀ now ∈ times, ∀ duration ∈ some ⟨10⟩, now.after? duration ≠ none := by
    decide
  rcases checks_by_latest false (some ⟨10⟩) ⟨0⟩ times with ⟨answered, law⟩
  rcases answered shown with ⟨answers, checked⟩
  have same : schedule.checks times = some dues := by decide
  cases same.symm.trans checked
  rcases law dues checked with ⟨_, due, _, spaced⟩
  rcases spaced ⟨10⟩ rfl with ⟨chain, bounded⟩
  refine ⟨shown, checked, rfl, ?_, ?_, chain, bounded 40 (by decide) (by decide)⟩
  · intro apart
    have fired :=
      (due [(⟨0⟩, true), (⟨4⟩, false), (⟨25⟩, true)] ⟨31⟩ false [(⟨40⟩, true)] rfl).mpr
        (.inr ⟨⟨25⟩, ⟨10⟩, rfl, rfl, apart⟩)
    cases fired
  · rcases (due [(⟨0⟩, true), (⟨4⟩, false), (⟨25⟩, true), (⟨31⟩, false)] ⟨40⟩ true []
      rfl).mp rfl with
      ⟨none, _⟩ | ⟨latest, duration, last, repeated, apart⟩
    · cases none
    · cases last
      cases repeated
      exact apart

end RefreshSchedule

end PanelLink
