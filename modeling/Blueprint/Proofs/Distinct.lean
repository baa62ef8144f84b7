import Mathlib.Data.List.Induction
import Mathlib.Data.List.Nodup

namespace Blueprint

variable {α : Type}

section FirstPlaces

variable [BEq α] [LawfulBEq α]

theorem filter_eraseDups (values : List α) (accepts : α → Bool) :
    values.eraseDups.filter accepts = (values.filter accepts).eraseDups := by
  induction length : values.length using Nat.strongRecOn generalizing values with
  | _ count ih =>
    cases values with
    | nil => rfl
    | cons value values =>
      have shorter := List.length_filter_le (fun other => !other == value) values
      rw [List.length_cons] at length
      rw [List.eraseDups_cons]
      by_cases accepted : accepts value = true
      · rw [List.filter_cons_of_pos accepted, List.filter_cons_of_pos accepted,
          List.eraseDups_cons, ih _ (by omega) _ rfl, List.filter_filter, List.filter_filter]
        simp only [Bool.and_comm]
      · rw [List.filter_cons_of_neg accepted, List.filter_cons_of_neg accepted,
          ih _ (by omega) _ rfl, List.filter_filter]
        congr 1
        refine List.filter_congr fun other _ => ?_
        by_cases same : other = value
        · simpa [same] using accepted
        · simp [same]

theorem nodup_eraseDups (values : List α) : values.eraseDups.Nodup := by
  induction length : values.length using Nat.strongRecOn generalizing values with
  | _ count ih =>
    cases values with
    | nil => exact List.nodup_nil
    | cons value values =>
      have shorter := List.length_filter_le (fun other => !other == value) values
      rw [List.length_cons] at length
      rw [List.eraseDups_cons, List.nodup_cons]
      exact ⟨by simp, ih _ (by omega) _ rfl⟩

theorem eraseDups_eq_self {values : List α} (distinct : values.Nodup) :
    values.eraseDups = values := by
  induction values with
  | nil => rfl
  | cons value values ih =>
    rw [List.nodup_cons] at distinct
    have others : values.filter (fun other => !other == value) = values :=
      List.filter_eq_self.mpr fun other listed => by
        simpa using fun same : other = value => distinct.1 (same ▸ listed)
    rw [List.eraseDups_cons, others, ih distinct.2]

theorem eraseDups_append_eraseDups (first second : List α) :
    (first ++ second.eraseDups).eraseDups = (first ++ second).eraseDups := by
  rw [List.eraseDups_append, List.eraseDups_append]
  unfold List.removeAll
  rw [filter_eraseDups, eraseDups_eq_self (nodup_eraseDups _)]

theorem eraseDups_concat [DecidableEq α] (values : List α) (value : α) :
    (values ++ [value]).eraseDups =
      if value ∈ values then values.eraseDups else values.eraseDups ++ [value] := by
  rw [List.eraseDups_append, List.removeAll]
  split <;> rename_i there <;> simp [there, List.eraseDups_cons]

/-- An injective function keeps repetitions and makes no new ones. -/
theorem eraseDups_map {β : Type} [BEq β] [LawfulBEq β] {image : α → β}
    (injective : Function.Injective image) (values : List α) :
    (values.map image).eraseDups = values.eraseDups.map image := by
  induction length : values.length using Nat.strongRecOn generalizing values with
  | _ count ih =>
    cases values with
    | nil => rfl
    | cons value values =>
      have shorter := List.length_filter_le (fun other => !other == value) values
      rw [List.length_cons] at length
      have apart : (fun other => !other == image value) ∘ image = fun other => !other == value := by
        funext other
        rw [Function.comp_apply, Bool.not_inj_iff, Bool.eq_iff_iff, beq_iff_eq, beq_iff_eq]
        exact injective.eq_iff
      rw [List.map_cons, List.eraseDups_cons, List.filter_map, apart, ih _ (by omega) _ rfl,
        List.eraseDups_cons, List.map_cons]

end FirstPlaces

/-- The first value whose mark has occurred before. -/
structure FirstRepeated {β : Type} (mark : α → β) (values before : List α) (value : α)
    (after : List α) : Prop where
  place : values = before ++ value :: after
  distinct : (before.map mark).Nodup
  occurred : mark value ∈ before.map mark

theorem exists_firstRepeated {β : Type} {mark : α → β} {values : List α}
    (repeated : ¬ (values.map mark).Nodup) :
    ∃ before value after, FirstRepeated mark values before value after := by
  induction values using List.reverseRecOn with
  | nil => exact absurd List.nodup_nil repeated
  | append_singleton values last ih =>
    by_cases distinct : (values.map mark).Nodup
    · refine ⟨values, last, [], rfl, distinct, ?_⟩
      by_contra absent
      rw [List.map_append, List.nodup_append_comm] at repeated
      exact repeated (List.nodup_cons.mpr ⟨absent, distinct⟩)
    · obtain ⟨before, value, after, place, unlike, occurred⟩ := ih distinct
      exact ⟨before, value, after ++ [last], by rw [place]; simp, unlike, occurred⟩

end Blueprint
