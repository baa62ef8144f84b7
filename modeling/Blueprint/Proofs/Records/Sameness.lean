import Mathlib.Data.List.Perm.Subperm
import Blueprint.Proofs.OrderedMap
import Blueprint.Records.Memory

namespace Blueprint.Json

section Cases

variable {value other : Json}

theorem kindRank_of_quantity? {quantity : Quantity} (known : value.quantity? = some quantity) :
    value.kindRank = 1 := by
  cases value with
  | bool | int | float => rfl
  | null | str | arr | obj => cases known

theorem same_null_iff : same null other = true ↔ other = null := by
  cases other <;> simp [same, quantity?]

theorem same_str_iff {text : String} : same (str text) other = true ↔ other = str text := by
  rw [eq_comm (a := other)]
  cases other <;> simp [same, quantity?]

theorem same_arr_iff {items : List Json} :
    same (arr items) other = true ↔ ∃ others, other = arr others ∧ sameItems items others = true := by
  cases other <;> simp [same, quantity?]

theorem same_obj_iff {fields : List (String × Json)} : same (obj fields) other = true ↔
    ∃ others, other = obj others ∧ fields.length = others.length ∧ sameFields fields others = true := by
  cases other <;> simp [same, quantity?]

/-- A number stands for the same as the values with its quantity. -/
theorem same_number_iff (number : value.kindRank = 1) : same value other = true ↔
    ∃ quantity, value.quantity? = some quantity ∧ other.quantity? = some quantity := by
  cases value with
  | bool | int | float =>
    simp only [same]
    split
    · rename_i first second mine theirs
      rw [beq_iff_eq]
      constructor
      · rintro rfl
        exact ⟨first, mine, theirs⟩
      · rintro ⟨quantity, own, other⟩
        exact Option.some.inj ((mine.symm.trans own).trans (other.symm.trans theirs))
    · rename_i unknown
      refine iff_of_false Bool.noConfusion ?_
      rintro ⟨quantity, mine, theirs⟩
      exact unknown _ _ mine theirs
  | null | str | arr | obj => cases number

theorem sameField_iff {key : String} {fields : List (String × Json)} :
    sameField key value fields = true ↔
      ∃ given, fields.lookup key = some given ∧ same value given = true := by
  induction fields with
  | nil => simp [sameField]
  | cons field fields ih =>
    obtain ⟨name, given⟩ := field
    unfold sameField
    split
    · rename_i here
      simp [eq_of_beq here]
    · rename_i other
      have apart : key ≠ name := fun same => other (beq_iff_eq.mpr same.symm)
      rw [ih, OrderedMap.lookup_cons_of_ne apart]

theorem sameFields_iff {fields others : List (String × Json)} :
    sameFields fields others = true ↔
      ∀ field ∈ fields, ∃ given, others.lookup field.1 = some given ∧ same field.2 given = true := by
  induction fields with
  | nil => simp [sameFields]
  | cons field fields ih =>
    rw [sameFields, Bool.and_eq_true, ih, sameField_iff, List.forall_mem_cons]

end Cases

mutual

/-- Sameness passes on. -/
theorem same_trans (first : Json) {second third : Json} (before : same first second = true)
    (after : same second third = true) : same first third = true := by
  cases first with
  | null =>
    obtain rfl := same_null_iff.mp before
    exact after
  | str text =>
    obtain rfl := same_str_iff.mp before
    exact after
  | bool | int | float =>
    obtain ⟨quantity, mine, theirs⟩ := (same_number_iff rfl).mp before
    obtain ⟨other, again, last⟩ := (same_number_iff (kindRank_of_quantity? theirs)).mp after
    obtain rfl := Option.some.inj (theirs.symm.trans again)
    exact (same_number_iff rfl).mpr ⟨quantity, mine, last⟩
  | arr items =>
    obtain ⟨others, rfl, same⟩ := same_arr_iff.mp before
    obtain ⟨last, rfl, again⟩ := same_arr_iff.mp after
    exact same_arr_iff.mpr ⟨last, rfl, sameItems_trans items same again⟩
  | obj fields =>
    obtain ⟨others, rfl, length, same⟩ := same_obj_iff.mp before
    obtain ⟨last, rfl, more, again⟩ := same_obj_iff.mp after
    exact same_obj_iff.mpr ⟨last, rfl, length.trans more, sameFields_trans fields same again⟩
termination_by structural first

theorem sameItems_trans (first : List Json) {second third : List Json}
    (before : sameItems first second = true) (after : sameItems second third = true) :
    sameItems first third = true := by
  match first with
  | [] =>
    cases second with
    | nil => exact after
    | cons => simp [sameItems] at before
  | a :: as =>
    cases second with
    | nil => simp [sameItems] at before
    | cons b bs =>
      cases third with
      | nil => simp [sameItems] at after
      | cons c cs =>
        rw [sameItems, Bool.and_eq_true] at before after ⊢
        exact ⟨same_trans a before.1 after.1, sameItems_trans as before.2 after.2⟩
termination_by structural first

private theorem sameFields_trans (first : List (String × Json)) {second third : List (String × Json)}
    (before : sameFields first second = true) (after : sameFields second third = true) :
    sameFields first third = true := by
  match first with
  | [] => rw [sameFields]
  | (key, value) :: fields =>
    rw [sameFields, Bool.and_eq_true, sameField_iff] at before ⊢
    obtain ⟨⟨given, found, here⟩, later⟩ := before
    obtain ⟨last, known, there⟩ := sameFields_iff.mp after _ (OrderedMap.mem_of_lookup found)
    exact ⟨⟨last, known, same_trans value here there⟩, sameFields_trans fields later after⟩
termination_by structural first

end

end Blueprint.Json

namespace Blueprint.Records

/-- The fields of a record are all different. -/
def Distinct (record : Record) : Prop := (record.map Prod.fst).Nodup

instance (record : Record) : Decidable (Distinct record) := by
  unfold Distinct
  infer_instance

variable {record other : Record}

private theorem sameRecord_iff : Store.sameRecord record other = true ↔
    record.length = other.length ∧ Json.sameFields record other = true := by
  simp [Store.sameRecord, Json.same]

theorem mem_fields_of_same (distinct : Distinct record)
    (same : Store.sameRecord record other = true) {field : String}
    (listed : field ∈ other.map Prod.fst) : field ∈ record.map Prod.fst := by
  obtain ⟨length, same⟩ := sameRecord_iff.mp same
  have within : record.map Prod.fst ⊆ other.map Prod.fst := by
    intro name own
    obtain ⟨entry, member, rfl⟩ := List.mem_map.mp own
    obtain ⟨given, found, _⟩ := Json.sameFields_iff.mp same entry member
    exact List.mem_map.mpr ⟨_, OrderedMap.mem_of_lookup found, rfl⟩
  have perm := (List.subperm_of_subset distinct within).perm_of_length_le (by simp [length])
  exact perm.mem_iff.mpr listed

/-- A value that a record has in a field is had by every record that is the same. -/
theorem same_valueOf (distinct : Distinct record) (same : Store.sameRecord record other = true)
    {field : String} {value : Json} (had : (valueOf other field).same value = true) :
    (valueOf record field).same value = true := by
  cases found : record.lookup field with
  | some given =>
    obtain ⟨theirs, there, alike⟩ := Json.sameFields_iff.mp (sameRecord_iff.mp same).2 _
      (OrderedMap.mem_of_lookup found)
    simp only [valueOf, OrderedMap.get?, there, Option.getD_some] at had
    simp only [valueOf, OrderedMap.get?, found, Option.getD_some]
    exact Json.same_trans given alike had
  | none =>
    have absent : other.lookup field = none := by
      refine OrderedMap.lookup_eq_none_of_not_mem fun listed => ?_
      obtain ⟨entry, member, name⟩ := List.mem_map.mp (mem_fields_of_same distinct same listed)
      have unequal := List.lookup_eq_none_iff.mp found entry member
      simp [name] at unequal
    simp only [valueOf, OrderedMap.get?, found, absent] at had ⊢
    exact had

theorem holds_of_same {conditions : Conditions} (distinct : Distinct record)
    (same : Store.sameRecord record other = true) (holds : conditions.holds other = true) :
    conditions.holds record = true := by
  rw [Conditions.holds, List.all_eq_true] at holds ⊢
  exact fun condition listed => same_valueOf distinct same (holds condition listed)

end Blueprint.Records
