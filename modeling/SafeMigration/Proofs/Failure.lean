import Mathlib.Data.List.Forall2

/-!
What can be told from the result of steps that may fail.
-/

namespace SafeMigration

variable {ε α β : Type} {first : Except ε α}

/-- Two steps succeed if both do. -/
theorem bind_eq_ok_iff {next : α → Except ε β} {value : β} :
    (first >>= next) = .ok value ↔ ∃ a, first = .ok a ∧ next a = .ok value := by
  cases first <;> simp [bind, Except.bind]

/-- Two steps fail if the first fails, or the second after it. -/
theorem bind_eq_error_iff {next : α → Except ε β} {e : ε} :
    (first >>= next) = .error e ↔ first = .error e ∨ ∃ a, first = .ok a ∧ next a = .error e := by
  cases first <;> simp [bind, Except.bind]

theorem map_eq_ok_iff {f : α → β} {value : β} :
    first.map f = .ok value ↔ ∃ a, first = .ok a ∧ f a = value := by
  cases first <;> simp [Except.map]

/-- A step for each of some values succeeds if all do; the results are in the order of the values. -/
theorem mapM_eq_ok_iff {f : α → Except ε β} {values : List α} {results : List β} :
    values.mapM f = .ok results ↔ List.Forall₂ (fun value result => f value = .ok result) values results := by
  induction values generalizing results with
  | nil => simp [pure, Except.pure, eq_comm]
  | cons value values ih =>
    rw [List.mapM_cons, List.forall₂_cons_left_iff]
    simp only [bind_eq_ok_iff, ih, pure, Except.pure, Except.ok.injEq]
    constructor
    · rintro ⟨result, made, results, each, rfl⟩
      exact ⟨result, results, made, each, rfl⟩
    · rintro ⟨result, results, made, each, rfl⟩
      exact ⟨result, made, results, each, rfl⟩

/-- It fails by the first value whose step fails. -/
theorem mapM_eq_error_iff {f : α → Except ε β} {values : List α} {e : ε} :
    values.mapM f = .error e ↔ ∃ before value after results, values = before ++ value :: after ∧
      List.Forall₂ (fun value result => f value = .ok result) before results ∧ f value = .error e := by
  induction values with
  | nil => simp [pure, Except.pure]
  | cons value values ih =>
    rw [List.mapM_cons]
    constructor
    · intro failed
      rcases bind_eq_error_iff.mp failed with here | ⟨result, made, later⟩
      · exact ⟨[], value, values, [], rfl, .nil, here⟩
      · rcases bind_eq_error_iff.mp later with later | ⟨_, -, done⟩
        · obtain ⟨before, culprit, after, results, rfl, each, culpritFails⟩ := ih.mp later
          exact ⟨value :: before, culprit, after, result :: results, rfl, .cons made each, culpritFails⟩
        · cases done
    · rintro ⟨_ | ⟨first, before⟩, culprit, after, results, same, each, culpritFails⟩
      · cases same
        simp [culpritFails, bind, Except.bind]
      · cases same
        obtain ⟨result, rest, made, others, rfl⟩ := List.forall₂_cons_left_iff.mp each
        have later := ih.mpr ⟨before, culprit, after, rest, rfl, others, culpritFails⟩
        rw [made, later]
        rfl

/-- It succeeds if each step does. -/
theorem exists_mapM {f : α → Except ε β} {values : List α} (all : ∀ value ∈ values, ∃ result, f value = .ok result) :
    ∃ results, values.mapM f = .ok results ∧ List.Forall₂ (fun value result => f value = .ok result) values results := by
  cases made : values.mapM f with
  | ok results => exact ⟨results, rfl, mapM_eq_ok_iff.mp made⟩
  | error e =>
    obtain ⟨before, value, after, _, rfl, -, failed⟩ := mapM_eq_error_iff.mp made
    obtain ⟨result, done⟩ := all value (by simp)
    cases done.symm.trans failed

/-- Each result is that of a value. -/
theorem mem_of_mapM {f : α → Except ε β} {values : List α} {results : List β} (success : values.mapM f = .ok results)
    (result : β) : result ∈ results ↔ ∃ value ∈ values, f value = .ok result := by
  have each := mapM_eq_ok_iff.mp success
  clear success
  induction each with
  | nil => simp
  | cons made _ ih => simp [ih, made, eq_comm]

/-- The results stand where their values stand. -/
theorem getElem?_of_mapM {f : α → Except ε β} {values : List α} {results : List β}
    (success : values.mapM f = .ok results) {index : Nat} {value : α} {result : β} (listed : values[index]? = some value)
    (made : f value = .ok result) : results[index]? = some result := by
  have each := mapM_eq_ok_iff.mp success
  clear success
  induction each generalizing index with
  | nil => cases listed
  | cons first _ ih =>
    cases index with
    | zero =>
      cases listed
      cases first.symm.trans made
      rfl
    | succ index => exact ih listed

/-- What is made of each result can be made of all of them in the end. -/
theorem mapM_map_eq {γ : Type} (f : α → Except ε β) (g : β → γ) (values : List α) :
    values.mapM (fun value => (f value).map g) = (values.mapM f).map (List.map g) := by
  induction values with
  | nil => rfl
  | cons value values ih =>
    rw [List.mapM_cons, List.mapM_cons, ih]
    cases f value with
    | error e => rfl
    | ok result => cases values.mapM f <;> rfl

end SafeMigration
