import Blueprint.Proofs.OrderedMap
import Blueprint.Resolve.Mixin

namespace Blueprint

open Design

namespace Step

variable {α β : Type}

private theorem notes_bind {first : Step α} {value : α} (success : first.outcome = .ok value)
    (next : α → Step β) : (first >>= next).notes = first.notes ++ (next value).notes := by
  change (first.andThen next).notes = _
  unfold andThen
  rw [success]

end Step

namespace MixinApplication

namespace Provided

/-- The name of a property that is provided. -/
def name (provided : Provided) : String := provided.property.name

/-- A provided property under its name. -/
def entry (provided : Provided) : String × Provided := (provided.name, provided)

/-- The note that a property takes the place of an earlier one. -/
def overriding (later earlier : Provided) : Note where
  level := .warning
  text := "property '" ++ later.name ++ "' from " ++ later.provider ++
    " overrides the one from " ++ earlier.provider

end Provided

/-- A unit's own properties as it provides them. -/
def ownProvided (own : List Property) : List Provided := own.map fun property => ⟨property, "the owner"⟩

/-- What mixins provide, in the order in which they are applied. -/
def mixedProvided (applications : List MixinApplication) : List Provided :=
  applications.flatMap fun application => application.mixin.properties.map fun property =>
    ⟨property, "mixin " ++ application.mixin.name⟩

/-- The last of some properties that bears a name. -/
def lastNamed? (name : String) (sequence : List Provided) : Option Provided :=
  sequence.reverse.find? (·.name == name)

/-- What is reported of the property at a place of a sequence: if another of its name stands before
it, that it overrides the last of these. -/
def report? (sequence : List Provided) (place : Provided × Nat) : Option Note :=
  (lastNamed? place.1.name (sequence.take place.2)).map place.1.overriding

/-- What is reported of some properties that follow others. -/
def reports (before rest : List Provided) : List Note :=
  (rest.zipIdx before.length).filterMap (report? (before ++ rest))

section Reports

private theorem reports_nil (before : List Provided) : reports before [] = [] := rfl

theorem reports_append (before first second : List Provided) :
    reports before (first ++ second) = reports before first ++ reports (before ++ first) second := by
  unfold reports
  rw [List.zipIdx_append, List.filterMap_append, List.append_assoc, List.length_append]
  congr 1
  refine List.filterMap_congr fun place listed => ?_
  have inside : place.2 ≤ (before ++ first).length := by
    have := List.snd_lt_of_mem_zipIdx listed
    rw [List.length_append]
    omega
  unfold report?
  rw [← List.append_assoc, List.take_append_of_le_length inside]

private theorem reports_singleton (before : List Provided) (later : Provided) :
    reports before [later] = ((lastNamed? later.name before).map later.overriding).toList := by
  have whole : (before ++ [later]).take before.length = before := List.take_left
  simp only [reports, List.zipIdx_singleton, report?, List.filterMap_cons, whole, List.filterMap_nil]
  cases lastNamed? later.name before <;> rfl

/-- The names of a sequence, each at its first place. -/
def firstNames (sequence : List Provided) : List String :=
  (sequence.map Provided.name).eraseDups

private theorem lastNamed?_eq_none_iff {name : String} {sequence : List Provided} :
    lastNamed? name sequence = none ↔ name ∉ sequence.map Provided.name := by
  rw [lastNamed?, List.find?_eq_none]
  simp

/-- Of every property either a report is made, or its name is new. -/
theorem length_reports (before rest : List Provided) :
    (reports before rest).length + (firstNames (before ++ rest)).length =
      (firstNames before).length + rest.length := by
  -- one property is moved from the rest to those before it
  induction rest generalizing before with
  | nil => simp [reports_nil]
  | cons later rest ih =>
    have one : (reports before [later]).length + (firstNames (before ++ [later])).length =
        (firstNames before).length + 1 := by
      unfold firstNames
      rw [reports_singleton, List.map_append, List.eraseDups_append, List.length_append,
        List.map_singleton]
      cases last : lastNamed? later.name before with
      | none =>
        have new := lastNamed?_eq_none_iff.mp last
        rw [List.removeAll, List.filter_cons_of_pos (by simpa using new)]
        simp [List.eraseDups_cons]
      | some earlier =>
        have known : later.name ∈ before.map Provided.name := by
          by_contra new
          rw [lastNamed?_eq_none_iff.mpr new] at last
          cases last
        rw [List.removeAll, List.filter_cons_of_neg (by simpa using known)]
        exact Nat.add_comm 1 _
    have others := ih (before ++ [later])
    rw [← List.singleton_append, reports_append, List.length_append, List.length_append,
      ← List.append_assoc, List.length_singleton]
    omega

end Reports

section Merging

/-- The properties that are merged, by their names. -/
abbrev Merged := List (String × Provided)

/-- The properties of a sequence as they are merged. -/
def mergedOf (sequence : List Provided) : Merged :=
  OrderedMap.ofList (sequence.map Provided.entry)

theorem lookup_mergedOf (name : String) (sequence : List Provided) :
    (mergedOf sequence).lookup name = lastNamed? name sequence := by
  have entries (items : List Provided) :
      (items.map Provided.entry).lookup name = items.find? (·.name == name) := by
    induction items with
    | nil => rfl
    | cons item items ih =>
      rw [List.map_cons, Provided.entry, List.lookup_cons, List.find?_cons, ih,
        Bool.beq_comm]
  rw [mergedOf, OrderedMap.lookup_ofList, OrderedMap.last?, ← List.map_reverse, entries]
  rfl

private theorem keys_mergedOf (sequence : List Provided) :
    (mergedOf sequence).map Prod.fst = firstNames sequence := by
  rw [mergedOf, OrderedMap.keys_ofList, List.map_map]
  rfl

/-- A step that merges some properties behind others, and reports what they override. -/
def Merges (before rest : List Provided) (step : Step Merged) : Prop :=
  step.outcome = .ok (mergedOf (before ++ rest)) ∧ step.notes = reports before rest

private theorem merges_pure (before : List Provided) : Merges before [] (pure (mergedOf before)) :=
  ⟨by rw [List.append_nil]; rfl, rfl⟩

theorem Merges.bind {before first second : List Provided} {step : Step Merged}
    {next : Merged → Step Merged} (one : Merges before first step)
    (two : Merges (before ++ first) second (next (mergedOf (before ++ first)))) :
    Merges before (first ++ second) (step >>= next) := by
  constructor
  · rw [Step.outcome_bind, one.1, ok_bind, two.1, List.append_assoc]
  · rw [Step.notes_bind one.1, one.2, two.2, reports_append]

/-- Merging one property reports the last one of its name. -/
theorem merges_mergeProperty (before : List Provided) (mixin : String) (property : Property) :
    Merges before [⟨property, "mixin " ++ mixin⟩]
      (mergeProperty mixin (mergedOf before) property) := by
  have put : mergedOf (before ++ [⟨property, "mixin " ++ mixin⟩]) =
      OrderedMap.put property.name ⟨property, "mixin " ++ mixin⟩ (mergedOf before) := by
    rw [mergedOf, OrderedMap.ofList, OrderedMap.putAll, List.map_append, List.foldl_append]
    rfl
  have found := lookup_mergedOf property.name before
  unfold Merges
  rw [reports_singleton, put, mergeProperty, OrderedMap.get?, found]
  change _ ∧ _ = ((lastNamed? property.name before).map _).toList
  cases lastNamed? property.name before with
  | none => exact ⟨rfl, rfl⟩
  | some earlier =>
    -- the provider's name begins within the text of the step
    have words : "' from mixin " = "' from " ++ "mixin " := rfl
    refine ⟨rfl, ?_⟩
    change [Note.mk .warning _] = [Note.mk .warning _]
    simp only [Provided.name, words, String.append_assoc, toString]

theorem merges_foldlM {α : Type} {step : Merged → α → Step Merged} {parts : α → List Provided}
    (merges : ∀ before item, Merges before (parts item) (step (mergedOf before) item))
    (items : List α) (before : List Provided) :
    Merges before (items.flatMap parts) (items.foldlM step (mergedOf before)) := by
  induction items generalizing before with
  | nil => exact merges_pure before
  | cons item items ih =>
    rw [List.foldlM_cons, List.flatMap_cons]
    exact (merges before item).bind (ih _)

/-- All properties that are merged: a unit's own, then those of each mixin. -/
def allProvided (own : List Property) (applications : List MixinApplication) : List Provided :=
  ownProvided own ++ mixedProvided applications

/-- The properties of all mixins, merged one after the other. -/
def mergeAll (applications : List MixinApplication) (start : Merged) : Step Merged :=
  applications.foldlM (fun merged application =>
    application.mixin.properties.foldlM (mergeProperty application.mixin.name) merged) start

private theorem merges_applications (own : List Property) (applications : List MixinApplication) :
    Merges (ownProvided own) (mixedProvided applications)
      (mergeAll applications (mergedOf (ownProvided own))) := by
  refine merges_foldlM (fun before application => ?_) applications _
  rw [List.map_eq_flatMap]
  exact merges_foldlM (fun before property => merges_mergeProperty before _ property) _ before

private theorem mergeProperties_eq (own : List Property) (applications : List MixinApplication) :
    mergeProperties own applications = do
      let merged ← mergeAll applications (mergedOf (ownProvided own))
      return merged.map (·.2.property) := by
  have started : OrderedMap.ofList (own.map fun property =>
      (property.name, (⟨property, "the owner"⟩ : Provided))) = mergedOf (ownProvided own) := by
    rw [mergedOf, ownProvided, List.map_map]
    rfl
  rw [mergeProperties, started]
  rfl

theorem mergeProperties_outcome (own : List Property) (applications : List MixinApplication) :
    (mergeProperties own applications).outcome =
      .ok ((mergedOf (allProvided own applications)).map (·.2.property)) := by
  rw [mergeProperties_eq, Step.outcome_bind, (merges_applications own applications).1]
  rfl

private theorem mergeProperties_notes (own : List Property) (applications : List MixinApplication) :
    (mergeProperties own applications).notes =
      reports (ownProvided own) (mixedProvided applications) := by
  obtain ⟨outcome, notes⟩ := merges_applications own applications
  rw [mergeProperties_eq, Step.notes_bind outcome, notes]
  exact List.append_nil _

/-- What is merged bears the names of the sequence, and is the last of its name. -/
theorem names_mergedOf (sequence : List Provided) :
    ((mergedOf sequence).map (·.2.property)).map Property.name = firstNames sequence ∧
      ∀ property ∈ (mergedOf sequence).map (·.2.property),
        (lastNamed? property.name sequence).map Provided.property = some property := by
  have distinct : ((mergedOf sequence).map Prod.fst).Nodup := by
    rw [keys_mergedOf]
    exact nodup_eraseDups _
  have keyed : ∀ entry ∈ mergedOf sequence, entry.2.name = entry.1 := by
    intro entry listed
    obtain ⟨provided, _, rfl⟩ := List.mem_map.mp (OrderedMap.mem_of_mem_ofList listed)
    rfl
  constructor
  · rw [List.map_map, ← keys_mergedOf]
    exact List.map_congr_left keyed
  · intro property listed
    obtain ⟨entry, member, rfl⟩ := List.mem_map.mp listed
    have named : entry.2.property.name = entry.1 := keyed entry member
    rw [← lookup_mergedOf, named, OrderedMap.lookup_of_mem distinct member]
    rfl

theorem own_name_mem_merged {own : List Property} {property : Property} (member : property ∈ own)
    (applications : List MixinApplication) :
    property.name ∈
      ((mergedOf (allProvided own applications)).map (·.2.property)).map Property.name := by
  rw [(names_mergedOf _).1, firstNames, List.mem_eraseDups, List.mem_map]
  refine ⟨⟨property, "the owner"⟩, List.mem_append_left _ ?_, rfl⟩
  exact List.mem_map_of_mem (f := fun property => (⟨property, "the owner"⟩ : Provided)) member

theorem of_mem_merged {own : List Property} {applications : List MixinApplication}
    {property : Property}
    (member : property ∈ (mergedOf (allProvided own applications)).map (·.2.property)) :
    property ∈ own ∨
      ∃ application ∈ applications, property ∈ application.mixin.properties := by
  obtain ⟨entry, listed, rfl⟩ := List.mem_map.mp member
  obtain ⟨provided, inside, rfl⟩ := List.mem_map.mp (OrderedMap.mem_of_mem_ofList listed)
  rcases List.mem_append.mp inside with mine | mixed
  · obtain ⟨property, declared, rfl⟩ := List.mem_map.mp mine
    exact Or.inl declared
  · obtain ⟨application, applied, mixed⟩ := List.mem_flatMap.mp mixed
    obtain ⟨property, declared, rfl⟩ := List.mem_map.mp mixed
    exact Or.inr ⟨application, applied, declared⟩

end Merging

/-- The mixins that a unit applies are declared. -/
theorem of_mem_resolveFrom {registry : Registry} {owner : String} {names : List String}
    {applications : List MixinApplication}
    (success : (resolveFrom registry owner names).outcome = .ok applications)
    {application : MixinApplication} (member : application ∈ applications) :
    ∃ mixin ∈ registry.list Unit.mixin?, application.mixin = mixin.unit := by
  induction names generalizing applications with
  | nil =>
    cases success
    cases member
  | cons name names ih =>
    unfold resolveFrom at success
    split at success
    · cases success
    · rename_i mixin found
      obtain ⟨behaviors, _, success⟩ := Step.bind_eq_ok_iff.mp success
      obtain ⟨_, _, success⟩ := Step.bind_eq_ok_iff.mp success
      obtain ⟨others, resolved, success⟩ := Step.bind_eq_ok_iff.mp success
      cases success
      rcases List.mem_cons.mp member with rfl | later
      · exact ⟨mixin, List.mem_of_find?_eq_some found, rfl⟩
      · exact ih resolved later

private theorem of_mem_resolve {registry : Registry} {unit : Design.Unit}
    {applications : List MixinApplication}
    (success : (resolve registry unit).outcome = .ok applications)
    {application : MixinApplication} (member : application ∈ applications) :
    ∃ mixin ∈ registry.list Unit.mixin?, application.mixin = mixin.unit := by
  unfold resolve at success
  split at success
  · exact of_mem_resolveFrom success member
  · exact of_mem_resolveFrom success member
  · cases success

/-- Merging succeeds. The merged properties have the names of the sequence, each once and in the order
in which the names come first, and each is the last of its name. Of every property of a mixin whose
name came before, and of no other, there is one warning, in order; it names the mixin and the last
provider of that name. So if a unit's own names are distinct, there are as many warnings as
properties without those of new names. -/
theorem mergeProperties_sequence (own : List Property) (applications : List MixinApplication)
    (distinct : (own.map Property.name).Nodup) :
    ∃ merged, (mergeProperties own applications).outcome = .ok merged ∧
      (merged.map Property.name).Nodup ∧
      merged.map Property.name =
        ((allProvided own applications).map Provided.name).eraseDups ∧
      (∀ property ∈ merged,
        (lastNamed? property.name (allProvided own applications)).map Provided.property =
          some property) ∧
      (mergeProperties own applications).notes =
        ((mixedProvided applications).zipIdx own.length).filterMap
          (report? (allProvided own applications)) ∧
      (mergeProperties own applications).notes.length +
          ((allProvided own applications).map Provided.name).eraseDups.length =
        (allProvided own applications).length := by
  have notes := mergeProperties_notes own applications
  obtain ⟨names, last⟩ := names_mergedOf (allProvided own applications)
  have ownNames : (ownProvided own).map Provided.name = own.map Property.name := by
    rw [ownProvided, List.map_map]
    rfl
  have ownLength : (ownProvided own).length = own.length := List.length_map _
  refine ⟨_, mergeProperties_outcome own applications, ?_, names, last, ?_, ?_⟩
  · rw [names]
    exact nodup_eraseDups _
  · rw [notes, reports, ownLength]
    rfl
  · have counted := length_reports (ownProvided own) (mixedProvided applications)
    have first : (firstNames (ownProvided own)).length = own.length := by
      rw [firstNames, ownNames, eraseDups_eq_self distinct, List.length_map]
    rw [notes, allProvided, List.length_append, ownLength, ← first]
    exact counted

/-- A property with a name and a type. -/
def field (name type : String) : Property :=
  { offset := 0, name, optional := false, type := ⟨type, false⟩, written := [], initializer := "" }

/-- Own properties, and two mixins with properties of the same names. -/
def stamped : List Property × List MixinApplication :=
  ([field "createdAt" "date", field "title" "string"],
    [⟨{ offset := 0, name := "Stamped",
        properties := [field "by" "string", field "createdAt" "datetime"] }, []⟩,
      ⟨{ offset := 0, name := "Audited",
         properties := [field "createdAt" "string", field "by" "number"] }, []⟩])

/-- Both mixins replace a property of the owner, and the second one of the first. -/
theorem mergeProperties_sequence_stamped : (stamped.1.map Property.name).Nodup ∧
    ∃ merged, (mergeProperties stamped.1 stamped.2).outcome = .ok merged ∧
      merged.map Property.name = ["createdAt", "title", "by"] ∧
      merged.map (·.type.name) = ["string", "string", "number"] ∧
      (mergeProperties stamped.1 stamped.2).notes =
        [⟨.warning, "property 'createdAt' from mixin Stamped overrides the one from the owner"⟩,
          ⟨.warning, "property 'createdAt' from mixin Audited overrides the one from mixin Stamped"⟩,
          ⟨.warning, "property 'by' from mixin Audited overrides the one from mixin Stamped"⟩] := by
  have distinct : (stamped.1.map Property.name).Nodup := by decide
  obtain ⟨merged, success, _, names, _, notes, _⟩ :=
    mergeProperties_sequence stamped.1 stamped.2 distinct
  refine ⟨distinct, merged, success, ?_, ?_, ?_⟩
  · rw [names]
    decide
  · cases success
    decide
  · rw [notes]
    decide

end MixinApplication

/-- A unit's own properties are among its effective ones by their names. -/
theorem own_name_mem_effectiveProperties {registry : Registry} {unit : Design.Unit}
    {properties : List Property} {property : Property}
    (found : (effectiveProperties registry unit).outcome = .ok properties)
    (own : property ∈ unit.properties) : property.name ∈ properties.map Property.name := by
  unfold effectiveProperties at found
  split at found
  · cases found
    exact List.mem_map_of_mem own
  · obtain ⟨applications, _, merged⟩ := Step.bind_eq_ok_iff.mp found
    rw [MixinApplication.mergeProperties_outcome] at merged
    cases merged
    exact MixinApplication.own_name_mem_merged own applications

/-- If a unit's own properties have distinct names, then so have its effective ones. -/
theorem nodup_effectiveProperties {registry : Registry} {unit : Design.Unit}
    {properties : List Property}
    (found : (effectiveProperties registry unit).outcome = .ok properties)
    (distinct : (unit.properties.map Property.name).Nodup) :
    (properties.map Property.name).Nodup := by
  unfold effectiveProperties at found
  split at found
  · cases found
    exact distinct
  · obtain ⟨applications, _, merged⟩ := Step.bind_eq_ok_iff.mp found
    rw [MixinApplication.mergeProperties_outcome] at merged
    cases merged
    rw [(MixinApplication.names_mergedOf _).1]
    exact nodup_eraseDups _

/-- A unit's effective properties are its own or those of declared mixins. -/
theorem of_mem_effectiveProperties {registry : Registry} {unit : Design.Unit}
    {properties : List Property} {property : Property}
    (found : (effectiveProperties registry unit).outcome = .ok properties)
    (member : property ∈ properties) :
    property ∈ unit.properties ∨
      ∃ mixin ∈ registry.list Unit.mixin?, property ∈ mixin.unit.properties := by
  unfold effectiveProperties at found
  split at found
  · cases found
    exact Or.inl member
  · obtain ⟨applications, resolved, merged⟩ := Step.bind_eq_ok_iff.mp found
    rw [MixinApplication.mergeProperties_outcome] at merged
    cases merged
    rcases MixinApplication.of_mem_merged member with mine | ⟨application, listed, provided⟩
    · exact Or.inl mine
    · obtain ⟨mixin, declared, same⟩ := MixinApplication.of_mem_resolve resolved listed
      exact Or.inr ⟨mixin, declared, same ▸ provided⟩

end Blueprint
