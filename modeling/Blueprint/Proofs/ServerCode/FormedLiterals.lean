import Mathlib.Data.List.Forall2
import Blueprint.Proofs.Outcomes
import Blueprint.Proofs.ServerCode.LiteralKeys

namespace Blueprint.ServerCode

/-- The expressions of an entry. -/
def DictEntry.displayed : DictEntry → List Expr
  | .pair key value => [key, value]
  | .spread value => [value]

/-- The expressions that stand between the brackets of a tuple, a list, a set or a dictionary. -/
def Expr.displayed : Expr → List Expr
  | .tuple items | .list items | .set items => items
  | .dict entries => entries.flatMap DictEntry.displayed
  | _ => []

theorem Expr.sizeOf_of_mem_displayed {part expr : Expr} (member : part ∈ expr.displayed) :
    sizeOf part < sizeOf expr := by
  cases expr with
  | tuple items | list items | set items =>
    have := List.sizeOf_lt_of_mem (show part ∈ items from member)
    simp
    omega
  | dict entries =>
    obtain ⟨entry, inside, which⟩ := List.mem_flatMap.mp member
    have := List.sizeOf_lt_of_mem inside
    cases entry with
    | pair key value =>
      simp only [DictEntry.displayed, List.mem_cons, List.not_mem_nil, or_false] at which
      rcases which with rfl | rfl <;> simp at this ⊢ <;> omega
    | spread value =>
      simp only [DictEntry.displayed, List.mem_cons, List.not_mem_nil, or_false] at which
      subst which
      simp at this ⊢
      omega
  | _ => cases member

theorem Expr.induction {holds : Expr → Prop}
    (step : ∀ expr, (∀ part ∈ expr.displayed, holds part) → holds expr) (expr : Expr) :
    holds expr :=
  step expr fun part _ => induction step part
termination_by sizeOf expr
decreasing_by exact Expr.sizeOf_of_mem_displayed ‹_›

namespace Literal

section FromJson

private theorem ofJsonItems_eq (items : List Json) : ofJsonItems items = items.map ofJson := by
  induction items with
  | nil => rfl
  | cons item items ih => rw [ofJsonItems, List.map_cons, ih]

private theorem ofJsonFields_eq (fields : List (String × Json)) :
    ofJsonFields fields = fields.map fun field => (text field.1, ofJson field.2) := by
  induction fields with
  | nil => rfl
  | cons field fields ih => rw [ofJsonFields, List.map_cons, ih]

private theorem areKeys_texts {names : List String} (distinct : names.Nodup) :
    AreKeys (names.map text) where
  keys key member := by
    obtain ⟨name, _, rfl⟩ := List.mem_map.mp member
    rfl
  unequal := List.pairwise_map.mpr (distinct.imp fun apart => beq_eq_false_iff_ne.mpr apart)

private theorem formed_arr {items : List Json} (formed : ∀ item ∈ items, Formed (ofJson item)) :
    Formed (ofJson (.arr items)) := by
  rw [ofJson, ofJsonItems_eq]
  exact formed_list (List.forall_mem_map.mpr formed)

theorem formed_obj {fields : List (String × Json)}
    (formed : ∀ field ∈ fields, Formed (ofJson field.2)) :
    Formed (ofJson (.obj (OrderedMap.ofList fields))) := by
  rw [ofJson, ofJsonFields_eq]
  refine formed_dict ?_ ?_ ?_
  · have names := areKeys_texts (OrderedMap.nodup_keys_ofList fields)
    rw [List.map_map] at names ⊢
    exact names
  · rw [List.map_map, List.forall_mem_map]
    exact fun _ _ => formed_leaf rfl rfl
  · rw [List.map_map, List.forall_mem_map]
    exact fun field member => formed field (OrderedMap.mem_of_mem_ofList member)

private theorem formed_readNumber? {negative : Bool} {text rest : List Char} {value : Json}
    (read : Json.readNumber? negative text = some (value, rest)) : Formed (ofJson value) := by
  unfold Json.readNumber? at read
  simp only at read
  repeat' split at read
  all_goals cases read
  all_goals exact formed_leaf rfl rfl

/-- What is read as JSON is formed, as far as it is no deeper than may be read. -/
structure ReadsFormed (fuel : Nat) : Prop where
  value : ∀ {text rest value}, Json.readValue? fuel text = some (value, rest) → Formed (ofJson value)
  items : ∀ {done text rest value}, (∀ item ∈ done, Formed (ofJson item)) →
    Json.readItems? fuel done text = some (value, rest) → Formed (ofJson value)
  fields : ∀ {done text rest value}, (∀ field ∈ done, Formed (ofJson field.2)) →
    Json.readFields? fuel done text = some (value, rest) → Formed (ofJson value)

namespace ReadsFormed

variable {fuel : Nat} (below : ReadsFormed fuel) {text rest : List Char} {value : Json}

include below

theorem readValue? (read : Json.readValue? (fuel + 1) text = some (value, rest)) :
    Formed (ofJson value) := by
  unfold Json.readValue? at read
  split at read
  · obtain ⟨_, _, ended⟩ := Option.bind_eq_some_iff.mp read
    cases ended
    exact formed_leaf rfl rfl
  · split at read
    · cases read
      exact formed_arr (List.forall_mem_nil _)
    · exact below.items (List.forall_mem_nil _) read
  · split at read
    · cases read
      exact formed_leaf rfl rfl
    · exact below.fields (List.forall_mem_nil _) read
  · split at read
    · cases read
      exact formed_leaf rfl rfl
    · exact formed_readNumber? read
  · split at read
    case h_6 => exact formed_readNumber? read
    all_goals
      cases read
      exact formed_leaf rfl rfl

theorem readItems? {done : List Json} (formed : ∀ item ∈ done, Formed (ofJson item))
    (read : Json.readItems? (fuel + 1) done text = some (value, rest)) : Formed (ofJson value) := by
  unfold Json.readItems? at read
  obtain ⟨⟨item, more⟩, one, next⟩ := Option.bind_eq_some_iff.mp read
  have longer : ∀ found ∈ item :: done, Formed (ofJson found) :=
    List.forall_mem_cons.mpr ⟨below.value one, formed⟩
  simp only at next
  split at next
  · exact below.items longer next
  · cases next
    exact formed_arr fun found member => longer found (List.mem_reverse.mp member)
  · cases next

theorem readFields? {done : List (String × Json)} (formed : ∀ field ∈ done, Formed (ofJson field.2))
    (read : Json.readFields? (fuel + 1) done text = some (value, rest)) : Formed (ofJson value) := by
  unfold Json.readFields? at read
  split at read
  · obtain ⟨⟨key, afterKey⟩, _, next⟩ := Option.bind_eq_some_iff.mp read
    simp only at next
    split at next
    · obtain ⟨⟨field, more⟩, one, last⟩ := Option.bind_eq_some_iff.mp next
      have longer : ∀ found ∈ (key, field) :: done, Formed (ofJson found.2) :=
        List.forall_mem_cons.mpr ⟨below.value one, formed⟩
      simp only at last
      split at last
      · exact below.fields longer last
      · cases last
        exact formed_obj fun found member => longer found (List.mem_reverse.mp member)
      · cases last
    · cases next
  · cases read

end ReadsFormed

private theorem readsFormed (fuel : Nat) : ReadsFormed fuel := by
  induction fuel with
  | zero => exact ⟨nofun, nofun, nofun⟩
  | succ fuel ih => exact ⟨ih.readValue?, ih.readItems?, ih.readFields?⟩

theorem formed_parse? {text : String} {value : Json} (read : Json.parse? text = some value) :
    Formed (ofJson value) := by
  obtain ⟨⟨found, rest⟩, one, whole⟩ := Option.bind_eq_some_iff.mp read
  simp only at whole
  split at whole
  · cases whole
    exact (readsFormed _).value one
  · cases whole

end FromJson

section FromCode

theorem formed_of_number {value : Literal} {x : Number} (number : value.number? = some x) :
    Formed value := by
  cases value <;> cases number <;> exact formed_leaf rfl rfl

theorem number_of_numberOf {expr : Expr} {value : Literal} (read : numberOf expr = .ok value) :
    ∃ x, value.number? = some x := by
  unfold numberOf at read
  split at read <;> cases read <;> exact ⟨_, rfl⟩

theorem number_of_signedNumber {expr : Expr} {value : Literal}
    (read : signedNumber expr = .ok value) : ∃ x, value.number? = some x := by
  unfold signedNumber at read
  split at read
  · exact number_of_numberOf read
  · cases operand : numberOf _ with
    | error => rw [operand] at read; cases read
    | ok found =>
      rw [operand] at read
      cases read
      obtain ⟨x, number⟩ := number_of_numberOf operand
      cases found <;> cases number <;> exact ⟨_, rfl⟩
  · exact number_of_numberOf read

private theorem ofExprs_eq (items : List Expr) : ofExprs items = items.mapM ofExpr := by
  induction items with
  | nil => rfl
  | cons item items ih => rw [ofExprs, List.mapM_cons, ih]

variable {items : List Expr} {entries : List DictEntry}

private theorem formed_ofExprs {values : List Literal}
    (formed : ∀ item ∈ items, ∀ value, ofExpr item = .ok value → Formed value)
    (read : ofExprs items = .ok values) : ∀ value ∈ values, Formed value := by
  rw [ofExprs_eq] at read
  intro value member
  obtain ⟨item, listed, one⟩ := exists_of_mem_mapM read member
  exact formed item listed value one

/-- The members of a set are keys that differ, whatever it has when the reading begins. -/
theorem formed_ofMembers {members values : List Literal}
    (formed : ∀ item ∈ items, ∀ value, ofExpr item = .ok value → Formed value)
    (keys : AreKeys members) (own : ∀ member ∈ members, Formed member)
    (read : ofMembers members items = .ok values) :
    AreKeys values ∧ ∀ value ∈ values, Formed value := by
  induction items generalizing members with
  | nil =>
    cases read
    exact ⟨keys, own⟩
  | cons item items ih =>
    rw [ofMembers] at read
    obtain ⟨member, one, read⟩ := bind_eq_ok_iff.mp read
    split at read
    · next able =>
      refine ih (fun item listed => formed item (List.mem_cons_of_mem _ listed))
        (keys.insert able) (fun found listed => ?_) read
      have here := formed item List.mem_cons_self member one
      unfold Literal.insert at listed
      split at listed
      · exact own found listed
      · exact List.forall_mem_append.mpr ⟨own, List.forall_mem_singleton.mpr here⟩ found listed
    · cases read

/-- The keys of a dictionary are keys that differ, whatever it has when the reading begins. -/
theorem formed_ofEntries {written values : List (Literal × Literal)}
    (formed : ∀ part ∈ entries.flatMap DictEntry.displayed, ∀ value, ofExpr part = .ok value →
      Formed value)
    (keys : AreKeys (written.map Prod.fst)) (ownKeys : ∀ key ∈ written.map Prod.fst, Formed key)
    (ownValues : ∀ value ∈ written.map Prod.snd, Formed value)
    (read : ofEntries written entries = .ok values) : Formed (dict values) := by
  induction entries generalizing written with
  | nil =>
    cases read
    exact formed_dict keys ownKeys ownValues
  | cons entry entries ih =>
    rw [List.flatMap_cons] at formed
    cases entry with
    | spread => rw [ofEntries] at read; cases read
    | pair key value =>
      rw [ofEntries] at read
      obtain ⟨key', first, read⟩ := bind_eq_ok_iff.mp read
      obtain ⟨value', second, read⟩ := bind_eq_ok_iff.mp read
      split at read
      · next able =>
        have formedKey := formed key (List.mem_append_left _ List.mem_cons_self) key' first
        have formedValue := formed value
          (List.mem_append_left _ (List.mem_cons_of_mem _ List.mem_cons_self)) value' second
        refine ih (fun part listed => formed part (List.mem_append_right _ listed))
          (keys.write able value') ?_ ?_ read
        · refine List.forall_mem_map.mpr fun found listed => ?_
          rcases (mem_write listed).1 with same | old
          · rwa [same]
          · exact ownKeys _ old
        · refine List.forall_mem_map.mpr fun found listed => ?_
          rcases (mem_write listed).2 with same | old
          · rwa [same]
          · exact ownValues _ old
      · cases read

theorem number_of_complexSum {left right value : Literal} {plus : Bool}
    (read : complexSum left plus right = .ok value) : ∃ x, value.number? = some x := by
  unfold complexSum at read
  split at read
  · obtain ⟨real, _, rfl⟩ := map_eq_ok_iff.mp read
    cases plus <;> exact ⟨_, rfl⟩
  · cases read

theorem formed_ofExpr {expr : Expr} {value : Literal} (read : ofExpr expr = .ok value) :
    Formed value := by
  induction expr using Expr.induction generalizing value with
  | step expr ih =>
    replace ih : ∀ part ∈ expr.displayed, ∀ value, ofExpr part = .ok value → Formed value :=
      fun part member value read => ih part member read
    cases expr with
    | constant constant =>
      rw [ofExpr] at read
      cases read
      cases constant <;> exact formed_leaf rfl rfl
    | tuple items =>
      rw [ofExpr] at read
      obtain ⟨values, each, rfl⟩ := map_eq_ok_iff.mp read
      exact ⟨areKeys_nil, formed_ofExprs ih each⟩
    | list items =>
      rw [ofExpr] at read
      obtain ⟨values, each, rfl⟩ := map_eq_ok_iff.mp read
      exact formed_list (formed_ofExprs ih each)
    | set items =>
      rw [ofExpr] at read
      obtain ⟨values, each, rfl⟩ := map_eq_ok_iff.mp read
      obtain ⟨keys, formed⟩ := formed_ofMembers ih areKeys_nil (List.forall_mem_nil _) each
      have order := shown_perm values
      exact ⟨keys.perm order.symm, fun part member => formed part (order.mem_iff.mp member)⟩
    | dict entries =>
      rw [ofExpr] at read
      obtain ⟨values, each, rfl⟩ := map_eq_ok_iff.mp read
      have none : AreKeys (([] : List (Literal × Literal)).map Prod.fst) := areKeys_nil
      exact formed_ofEntries ih none (List.forall_mem_nil _) (List.forall_mem_nil _) each
    | call function arguments keywords =>
      unfold ofExpr at read
      split at read
      case h_6 =>
        cases read
        exact formed_leaf rfl rfl
      case h_8 =>
        obtain ⟨x, number⟩ := number_of_signedNumber read
        exact formed_of_number number
      all_goals contradiction
    | binary left operator right =>
      rw [ofExpr] at read
      split at read
      · obtain ⟨left', _, read⟩ := bind_eq_ok_iff.mp read
        obtain ⟨right', _, read⟩ := bind_eq_ok_iff.mp read
        obtain ⟨x, number⟩ := number_of_complexSum read
        exact formed_of_number number
      · cases read
    | _ =>
      unfold ofExpr at read
      obtain ⟨x, number⟩ := number_of_signedNumber read
      exact formed_of_number number

end FromCode

end Literal

end Blueprint.ServerCode
