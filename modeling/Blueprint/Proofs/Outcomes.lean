import Mathlib.Data.List.Forall2
import Blueprint.Step

namespace Blueprint

variable {ε α β γ : Type} {step : α → Except ε β} {items : List α} {results : List β}

theorem mapM_eq_ok_iff : items.mapM step = .ok results ↔
    List.Forall₂ (fun item result => step item = .ok result) items results := by
  induction items generalizing results with
  | nil => simp [pure, Except.pure, eq_comm]
  | cons item items ih =>
    rw [List.mapM_cons, bind_eq_ok_iff, List.forall₂_cons_left_iff]
    simp only [bind_eq_ok_iff, ih]
    constructor
    · rintro ⟨result, made, others, later, same⟩
      exact ⟨result, others, made, later, (Except.ok.inj same).symm⟩
    · rintro ⟨result, others, made, later, rfl⟩
      exact ⟨result, made, others, later, rfl⟩

/-- What a step over a list gives comes from one of its items. -/
theorem exists_of_mem_mapM (success : items.mapM step = .ok results) {result : β}
    (listed : result ∈ results) : ∃ item ∈ items, step item = .ok result := by
  rw [mapM_eq_ok_iff] at success
  induction success with
  | nil => cases listed
  | @cons item first items others made _ ih =>
    rcases List.mem_cons.mp listed with rfl | later
    · exact ⟨item, List.mem_cons_self, made⟩
    · obtain ⟨other, member, made⟩ := ih later
      exact ⟨other, List.mem_cons_of_mem _ member, made⟩

/-- What the results of a step show is what its items show, if this is so for each. -/
theorem map_of_mapM {shown : β → γ} {shows : α → γ}
    (same : ∀ item result, step item = .ok result → shown result = shows item)
    (success : items.mapM step = .ok results) : results.map shown = items.map shows := by
  rw [mapM_eq_ok_iff] at success
  induction success with
  | nil => rfl
  | cons made _ ih => rw [List.map_cons, List.map_cons, same _ _ made, ih]

theorem mapM_eq_ok {value : α → β} (gives : ∀ item ∈ items, step item = .ok (value item)) :
    items.mapM step = .ok (items.map value) := by
  rw [mapM_eq_ok_iff, List.forall₂_map_right_iff, List.forall₂_same]
  exact gives

theorem map_eq_ok_iff {first : Except ε α} {image : α → β} {result : β} :
    first.map image = .ok result ↔ ∃ value, first = .ok value ∧ image value = result := by
  cases first with
  | ok value => simp [Except.map]
  | error failure => simp [Except.map]

end Blueprint
