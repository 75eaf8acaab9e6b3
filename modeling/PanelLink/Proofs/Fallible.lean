/-!
Computations that end in a value or in an error: what the end of a computation says about
the ends of its parts.
-/

namespace PanelLink

variable {α β γ ε δ : Type}

/-! ## Transformed ends -/

theorem map_map_except (first : α → β) (second : β → γ) (result : Except ε α) :
    (result.map first).map second = result.map (second ∘ first) := by
  cases result <;> rfl

theorem eq_error_of_map_eq_error {transform : α → β} {result : Except ε α} {error : ε}
    (failed : result.map transform = .error error) : result = .error error := by
  cases result with
  | ok value => cases failed
  | error cause =>
      cases failed
      rfl

theorem exists_of_map_eq_ok {transform : α → β} {result : Except ε α} {value : β}
    (succeeded : result.map transform = .ok value) :
    ∃ inner, result = .ok inner ∧ transform inner = value := by
  cases result with
  | ok inner =>
      cases succeeded
      exact ⟨inner, rfl, rfl⟩
  | error cause => cases succeeded

theorem exists_of_mapError_eq_error {transform : ε → δ} {result : Except ε α} {error : δ}
    (failed : result.mapError transform = .error error) :
    ∃ cause, result = .error cause ∧ transform cause = error := by
  cases result with
  | ok value => cases failed
  | error cause =>
      cases failed
      exact ⟨cause, rfl, rfl⟩

/-! ## One after the other -/

theorem bind_eq_error_cases {result : Except ε α} {next : α → Except ε β} {error : ε}
    (failed : (result >>= next) = .error error) :
    result = .error error ∨ ∃ value, result = .ok value ∧ next value = .error error := by
  cases result with
  | ok value => exact .inr ⟨value, rfl, failed⟩
  | error cause =>
      cases failed
      exact .inl rfl

theorem bind_eq_map_bind {result other : Except ε α} {transform : α → α} {convert : β → β}
    {next : α → Except ε β} (same : other = result.map transform)
    (commutes : ∀ value, next (transform value) = (next value).map convert) :
    (other >>= next) = (result >>= next).map convert := by
  rw [same]
  cases result with
  | error error => rfl
  | ok value => exact commutes value

theorem bind_eq_of_bind_eq_ok {result : Except ε α} {next : α → Except ε β} {value : β}
    {onward : α → Except ε γ} {ending : Except ε γ}
    (passed : (result >>= next) = .ok value)
    (follows : ∀ middle, next middle = .ok value → onward middle = ending) :
    (result >>= onward) = ending := by
  cases result with
  | error error => cases passed
  | ok middle => exact follows middle passed

/-! ## Lists -/

theorem mapM_eq_ok_map {check : α → Except ε β} {value : α → β} {items : List α}
    (fine : ∀ item ∈ items, check item = .ok (value item)) :
    items.mapM check = .ok (items.map value) := by
  induction items with
  | nil => rfl
  | cons item rest induction =>
      have fineRest :=
        induction fun item member => fine item (List.mem_cons_of_mem _ member)
      rw [List.mapM_cons, fine item List.mem_cons_self, fineRest]
      rfl

theorem mapM_cases (check : α → Except ε β) (items : List α) :
    (∃ values, items.mapM check = .ok values ∧ ∀ item ∈ items, (check item).isOk = true) ∨
      ∃ item ∈ items, ∃ error,
        check item = .error error ∧ items.mapM check = .error error := by
  induction items with
  | nil => exact .inl ⟨[], rfl, fun _ member => nomatch member⟩
  | cons item rest induction =>
      rw [List.mapM_cons]
      cases checked : check item with
      | error error => exact .inr ⟨item, List.mem_cons_self, error, checked, rfl⟩
      | ok value =>
          rcases induction with
            ⟨values, passed, fine⟩ | ⟨bad, member, error, rejected, failed⟩
          · left
            refine ⟨value :: values, by rw [passed]; rfl, ?_⟩
            intro other member
            rcases List.mem_cons.mp member with rfl | later
            · rw [checked]
              rfl
            · exact fine other later
          · right
            exact ⟨bad, List.mem_cons_of_mem item member, error, rejected,
              by rw [failed]; rfl⟩

end PanelLink
