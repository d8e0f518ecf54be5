import Mathlib.Data.List.Forall2

/-
Steps that may fail, one after another. A failure is that of a step, with the steps in front of it
having been taken; where a list is worked through, it names an item in the same way.
-/

namespace EntityScaffold

variable {α β ε : Type} {attempt : α → Except ε β} {items : List α} {error : ε}

theorem bind_eq_error_iff {first : Except ε α} {next : α → Except ε β} :
    (first >>= next) = .error error ↔
      first = .error error ∨ ∃ value, first = .ok value ∧ next value = .error error := by
  cases first <;> simp [bind, Except.bind]

theorem bind_eq_ok_iff {first : Except ε α} {next : α → Except ε β} {result : β} :
    (first >>= next) = .ok result ↔ ∃ value, first = .ok value ∧ next value = .ok result := by
  cases first <;> simp [bind, Except.bind]

theorem mapError_eq_error_iff {cause : Type} {result : Except cause α} {explain : cause → ε} :
    result.mapError explain = .error error ↔
      ∃ origin, result = .error origin ∧ explain origin = error := by
  constructor
  · intro failed
    cases result with
    | ok value => cases failed
    | error origin => exact ⟨origin, rfl, Except.error.inj failed⟩
  · rintro ⟨origin, rfl, rfl⟩
    rfl

theorem mapError_eq_ok_iff {cause : Type} {result : Except cause α} {explain : cause → ε}
    {value : α} : result.mapError explain = .ok value ↔ result = .ok value := by
  constructor
  · intro succeeded
    cases result with
    | ok other => exact congrArg Except.ok (Except.ok.inj succeeded)
    | error origin => cases succeeded
  · rintro rfl
    rfl

theorem eq_ok_of_toOption_eq_some {result : Except ε α} {value : α}
    (given : result.toOption = some value) : result = .ok value := by
  cases result with
  | ok other => exact congrArg Except.ok (Option.some.inj given)
  | error cause => cases given

theorem exists_eq_ok_of_isOk {result : Except ε α} (ends : result.isOk = true) :
    ∃ value, result = .ok value := by
  cases result with
  | ok value => exact ⟨value, rfl⟩
  | error cause => cases ends

/-- An attempt that comes with what it has left. -/
theorem exists_eq_ok_of_fst_isOk {left : Type} {ended : Except ε α × left}
    (ends : ended.1.isOk = true) : ∃ value last, ended = (.ok value, last) := by
  obtain ⟨value, same⟩ := exists_eq_ok_of_isOk ends
  exact ⟨value, ended.2, Prod.ext same rfl⟩

theorem exists_eq_ok_of_any {result : Except ε α} {holds : α → Bool}
    (good : result.toOption.any holds = true) : ∃ value, result = .ok value ∧ holds value = true := by
  cases result with
  | ok value => exact ⟨value, rfl, good⟩
  | error cause => cases good

theorem exists_eq_ok_iff {result : Except ε α} :
    (∃ value, result = .ok value) ↔ ∀ error, result ≠ .error error := by
  cases result <;> simp

theorem map_eq_error_iff {result : Except ε α} {change : α → β} :
    result.map change = .error error ↔ result = .error error := by
  cases result <;> simp [Except.map]

theorem map_eq_ok_iff {attempted : Except ε α} {change : α → β} {result : β} :
    attempted.map change = .ok result ↔ ∃ value, attempted = .ok value ∧ change value = result := by
  cases attempted <;> simp [Except.map]

/-! ### Lists -/

/-- An item fails, and none in front of it does. -/
def FirstFails (attempt : α → Except ε β) (items : List α) (error : ε) : Prop :=
  ∃ front item behind, items = front ++ item :: behind ∧
    (∀ other ∈ front, ∃ result, attempt other = .ok result) ∧ attempt item = .error error

theorem firstFails_cons {item : α} :
    FirstFails attempt (item :: items) error ↔
      attempt item = .error error ∨
        (∃ result, attempt item = .ok result) ∧ FirstFails attempt items error := by
  constructor
  · rintro ⟨front, failing, behind, split, done, failed⟩
    cases front with
    | nil =>
        rw [List.nil_append, List.cons.injEq] at split
        exact Or.inl (split.1 ▸ failed)
    | cons first front =>
        rw [List.cons_append, List.cons.injEq] at split
        rw [← split.1] at done
        exact Or.inr ⟨done item List.mem_cons_self, front, failing, behind, split.2,
          fun other member => done other (List.mem_cons_of_mem item member), failed⟩
  · rintro (failed | ⟨done, front, failing, behind, split, others, failed⟩)
    · exact ⟨[], item, items, rfl, fun _ member => absurd member List.not_mem_nil, failed⟩
    · refine ⟨item :: front, failing, behind, ?_, ?_, failed⟩
      · rw [split, List.cons_append]
      · exact List.forall_mem_cons.mpr ⟨done, others⟩

theorem mapM_eq_error_iff : items.mapM attempt = .error error ↔ FirstFails attempt items error := by
  induction items with
  | nil =>
      constructor
      · intro impossible
        cases impossible
      · rintro ⟨front, item, behind, split, _⟩
        cases front <;> cases split
  | cons item rest ih =>
      rw [List.mapM_cons, firstFails_cons, ← ih]
      cases attempt item with
      | error cause => simp [bind, Except.bind]
      | ok result => cases rest.mapM attempt <;> simp [bind, Except.bind, pure, Except.pure]

theorem exists_mapM_eq_ok (each : ∀ item ∈ items, ∃ result, attempt item = .ok result) :
    ∃ results, items.mapM attempt = .ok results := by
  cases done : items.mapM attempt with
  | ok results => exact ⟨results, rfl⟩
  | error error =>
      obtain ⟨front, item, behind, split, _, failed⟩ := mapM_eq_error_iff.mp done
      obtain ⟨result, succeeded⟩ := each item (by rw [split]; simp)
      rw [failed] at succeeded
      cases succeeded

/-- Where no item fails, each result is that of its item. -/
theorem mapM_eq_ok_iff {results : List β} :
    items.mapM attempt = .ok results ↔
      List.Forall₂ (fun item result => attempt item = .ok result) items results := by
  induction items generalizing results with
  | nil =>
      rw [List.forall₂_nil_left_iff]
      exact ⟨fun done => (Except.ok.inj done).symm, fun none => none ▸ rfl⟩
  | cons item rest ih =>
      rw [List.mapM_cons, List.forall₂_cons_left_iff]
      cases attempt item with
      | error cause => simp [bind, Except.bind]
      | ok result =>
          cases done : rest.mapM attempt with
          | error cause => simp [bind, Except.bind, ← ih, done]
          | ok others => simp [bind, Except.bind, pure, Except.pure, ← ih, done, eq_comm]

/-- Results can be chosen for all items if there is one for each. -/
theorem exists_forall₂_iff {fits : α → β → Prop} :
    (∃ results, List.Forall₂ fits items results) ↔ ∀ item ∈ items, ∃ result, fits item result := by
  induction items with
  | nil => exact iff_of_true ⟨[], .nil⟩ nofun
  | cons item rest ih =>
      rw [List.forall_mem_cons, ← ih]
      constructor
      · rintro ⟨_, _ | ⟨first, others⟩⟩
        exact ⟨⟨_, first⟩, _, others⟩
      · rintro ⟨⟨_, first⟩, _, others⟩
        exact ⟨_, .cons first others⟩

end EntityScaffold
