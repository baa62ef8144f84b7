import Blueprint.Registry
import Blueprint.Proofs.Design.Names
import Blueprint.Proofs.Distinct
import Blueprint.Proofs.OrderedMap
import Blueprint.Proofs.Registry
import Blueprint.Proofs.Text

namespace Blueprint

open Design

/-- The kind and the name of a unit. -/
def Design.Unit.key (unit : Design.Unit) : UnitKind × String := (unit.kind, unit.name)

namespace Registry

section Declaring

variable {source : Option String} {inLibrary : Bool} {start : Nat}

private theorem declare_append (first second : List Design.Unit) :
    declare source inLibrary start (first ++ second) =
      declare source inLibrary start first ++
        declare source inLibrary (start + first.length) second := by
  induction first generalizing start with
  | nil => rfl
  | cons unit first ih =>
    rw [List.cons_append, declare, ih, declare, List.length_cons, Nat.add_right_comm]
    rfl

theorem getElem?_declare (units : List Design.Unit) (place : Nat) :
    (declare source inLibrary start units)[place]? = units[place]?.map fun unit =>
      ⟨unit, inLibrary || isLibraryUnit unit, source, start + place⟩ := by
  induction units generalizing start place with
  | nil => rfl
  | cons unit units ih =>
    cases place with
    | zero => rfl
    | succ place =>
      rw [declare, List.getElem?_cons_succ, ih, List.getElem?_cons_succ, Nat.add_right_comm]
      rfl

theorem map_unit_declare (units : List Design.Unit) :
    (declare source inLibrary start units).map (·.unit) = units := by
  induction units generalizing start with
  | nil => rfl
  | cons unit units ih => rw [declare, List.map_cons, ih]

theorem length_declare (units : List Design.Unit) :
    (declare source inLibrary start units).length = units.length := by
  rw [← List.length_map (·.unit), map_unit_declare]

private theorem declareAll_append (done : List (Declared Design.Unit)) (first second : List Source) :
    declareAll done (first ++ second) = declareAll (declareAll done first) second := by
  induction first generalizing done with
  | nil => rfl
  | cons source first ih => exact ih _

theorem declareAll_texts (inLibrary : Bool) (done : List (Declared Design.Unit))
    (texts : List (List Design.Unit)) :
    declareAll done (texts.map fun units => { inLibrary, units }) =
      done ++ declare none inLibrary done.length texts.flatten := by
  induction texts generalizing done with
  | nil => exact (List.append_nil done).symm
  | cons units texts ih =>
    rw [List.map_cons, declareAll, ih, List.flatten_cons, declare_append, List.length_append,
      length_declare, List.append_assoc]

end Declaring

section Adding

variable {units : List (Declared Design.Unit)}

theorem exists_ofUnits (distinct : (units.map Declared.key).Nodup) :
    ∃ registry, ofUnits units = .ok registry := by
  induction units using List.reverseRecOn with
  | nil => exact ⟨empty, rfl⟩
  | append_singleton units last ih =>
    rw [List.map_append, List.nodup_append_comm] at distinct
    obtain ⟨absent, others⟩ := List.nodup_cons.mp distinct
    obtain ⟨registry, made⟩ := ih others
    have new : last.key ∉ registry.units.map Declared.key := units_of_ofUnits made ▸ absent
    unfold ofUnits at made ⊢
    rw [List.foldlM_append, made]
    simp only [ok_bind, List.foldlM_cons, List.foldlM_nil, add, new]
    exact ⟨_, rfl⟩

private theorem ofUnits_ok_iff :
    (∃ registry, ofUnits units = .ok registry) ↔ (units.map Declared.key).Nodup := by
  constructor
  · rintro ⟨registry, made⟩
    exact units_of_ofUnits made ▸ registry.distinct
  · exact exists_ofUnits

theorem ofUnits_of_firstRepeated {before after : List (Declared Design.Unit)}
    {declared : Declared Design.Unit} (first : FirstRepeated Declared.key units before declared after) :
    ofUnits units = .error (.repeatedUnit declared.kind declared.name) := by
  obtain ⟨registry, made⟩ := exists_ofUnits first.distinct
  have taken : declared.key ∈ registry.units.map Declared.key :=
    units_of_ofUnits made ▸ first.occurred
  unfold ofUnits at made ⊢
  rw [first.place, List.foldlM_append, made]
  simp only [ok_bind, List.foldlM_cons, add, taken, ↓reduceDIte, error_bind]

end Adding

/-- An index of the units by their keys, in which they are entered one by one. -/
def index (registry : Registry) : List ((UnitKind × String) × Declared Design.Unit) :=
  OrderedMap.ofList (registry.units.map fun declared => (declared.key, declared))

theorem lookup_index (registry : Registry) (kind : UnitKind) (name : String) :
    registry.index.lookup (kind, name) = registry.find? kind name := by
  have keys : ((registry.units.map fun declared => (declared.key, declared)).map
      Prod.fst).Nodup := by
    rw [List.map_map]
    exact registry.distinct
  refine Option.ext fun declared => ?_
  rw [index, OrderedMap.lookup_ofList_iff keys, find?_eq_some_iff]
  simp only [List.mem_map, Prod.mk.injEq]
  constructor
  · rintro ⟨other, member, bears, rfl⟩
    exact ⟨member, bears⟩
  · rintro ⟨member, bears⟩
    exact ⟨declared, member, bears, rfl⟩

/-- A registry holds the units of libraries and those of the main design, in this order. -/
structure Represents (registry : Registry) (fromLibraries fromMain : List Design.Unit) : Prop where
  units : registry.units.map (·.unit) = fromLibraries ++ fromMain
  order : ∀ (place : Nat) (declared : Declared Design.Unit),
    registry.units[place]? = some declared → declared.order = place
  isLibrary : ∀ (place : Nat) (declared : Declared Design.Unit),
    registry.units[place]? = some declared →
    (declared.isLibrary = true ↔ place < fromLibraries.length ∨
      ∃ project, declared.unit = .project project ∧ project.isLibrary = true)
  found : ∀ kind name declared, registry.find? kind name = some declared ↔
    declared ∈ registry.units ∧ declared.key = (kind, name)
  missing : ∀ kind name, registry.find? kind name = none ↔
    (kind, name) ∉ (fromLibraries ++ fromMain).map Unit.key
  indexed : ∀ kind name, registry.index.lookup (kind, name) = registry.find? kind name
  listed : ∀ kind, (registry.ofKind kind).Sublist registry.units ∧
    (registry.ofKind kind).map (·.unit) = (fromLibraries ++ fromMain).filter (·.kind == kind)

private theorem isLibraryUnit_iff {unit : Design.Unit} :
    isLibraryUnit unit = true ↔ ∃ project, unit = .project project ∧ project.isLibrary = true := by
  cases unit <;> simp [isLibraryUnit]

/-- The declarations of libraries and a main design. -/
def declarationsOf (fromLibraries fromMain : List Design.Unit) : List (Declared Design.Unit) :=
  declare none true 0 fromLibraries ++ declare none false fromLibraries.length fromMain

theorem map_unit_declarationsOf (fromLibraries fromMain : List Design.Unit) :
    (declarationsOf fromLibraries fromMain).map (·.unit) = fromLibraries ++ fromMain := by
  rw [declarationsOf, List.map_append, map_unit_declare, map_unit_declare]

private theorem map_key_declarationsOf (fromLibraries fromMain : List Design.Unit) :
    (declarationsOf fromLibraries fromMain).map Declared.key =
      (fromLibraries ++ fromMain).map Unit.key := by
  rw [← map_unit_declarationsOf, List.map_map]
  rfl

private theorem getElem?_declarationsOf (fromLibraries fromMain : List Design.Unit) (place : Nat) :
    (declarationsOf fromLibraries fromMain)[place]? =
      (fromLibraries ++ fromMain)[place]?.map fun unit =>
        ⟨unit, decide (place < fromLibraries.length) || isLibraryUnit unit, none, place⟩ := by
  unfold declarationsOf
  by_cases early : place < fromLibraries.length
  · rw [List.getElem?_append_left (by rwa [length_declare]), List.getElem?_append_left early,
      getElem?_declare]
    simp [early]
  · rw [List.getElem?_append_right (by rw [length_declare]; omega),
      List.getElem?_append_right (by omega), getElem?_declare, length_declare]
    simp [early, Nat.add_sub_cancel' (Nat.le_of_not_lt early)]

/-- A registry of these declarations represents the units. -/
theorem represents_of_units {registry : Registry} {fromLibraries fromMain : List Design.Unit}
    (same : registry.units = declarationsOf fromLibraries fromMain) :
    registry.Represents fromLibraries fromMain where
  units := same ▸ map_unit_declarationsOf fromLibraries fromMain
  order place declared listed := by
    rw [same, getElem?_declarationsOf] at listed
    obtain ⟨unit, _, rfl⟩ := Option.map_eq_some_iff.mp listed
    rfl
  isLibrary place declared listed := by
    rw [same, getElem?_declarationsOf] at listed
    obtain ⟨unit, _, rfl⟩ := Option.map_eq_some_iff.mp listed
    rw [Bool.or_eq_true, decide_eq_true_iff, isLibraryUnit_iff]
  found kind name declared := find?_eq_some_iff
  missing kind name := by
    rw [← map_key_declarationsOf, ← same, List.mem_map, ← has_iff, has,
      Option.not_isSome_iff_eq_none]
  indexed := lookup_index registry
  listed kind := by
    refine ⟨List.filter_sublist, ?_⟩
    rw [← map_unit_declarationsOf, ← same, List.filter_map]
    rfl

end Registry

section Texts

variable {main : String} {libraries : List String} {fromMain : List Design.Unit}
  {fromLibraries : List (List Design.Unit)}

private theorem parseSources_of_read (inLibrary : Bool)
    (read : List.Forall₂ (fun text units => Design.parse text = .ok units) libraries fromLibraries) :
    parseSources inLibrary libraries =
      .ok (fromLibraries.map fun units => { inLibrary, units }) := by
  induction read with
  | nil => rfl
  | cons text _ ih =>
    rw [parseSources, text, ih]
    rfl

/-- Texts that can be read are loaded as the registry of their declarations. -/
theorem loadTexts_of_read (readMain : Design.parse main = .ok fromMain)
    (readAll : List.Forall₂ (fun text units => Design.parse text = .ok units)
      libraries fromLibraries) :
    loadTexts main libraries =
      (Registry.ofUnits (Registry.declarationsOf fromLibraries.flatten fromMain)).mapError
        .registry := by
  have mainSource := parseSources_of_read false (.cons readMain .nil)
  have declared : Registry.declareAll []
      ((fromLibraries.map fun units => { inLibrary := true, units }) ++
        [{ inLibrary := false, units := fromMain }]) =
      Registry.declarationsOf fromLibraries.flatten fromMain := by
    rw [Registry.declareAll_append, Registry.declareAll_texts, List.nil_append]
    exact congrArg _ (congrArg (Registry.declare none false · fromMain)
      (Registry.length_declare _))
  unfold loadTexts
  rw [parseSources_of_read true readAll, mainSource, ← declared]
  rfl

/-- Texts that can be read make a registry exactly if no two of their units share kind and name;
else the first unit whose key has occurred before is reported. The registry represents the units:
they stand in order, libraries first, are numbered by their places, are found by their keys and
belong to a library if their text or their project does. -/
theorem loadTexts_represents (readMain : Design.parse main = .ok fromMain)
    (readAll : List.Forall₂ (fun text units => Design.parse text = .ok units)
      libraries fromLibraries) :
    ((∃ registry, loadTexts main libraries = .ok registry) ↔
      ((fromLibraries.flatten ++ fromMain).map Unit.key).Nodup) ∧
    (¬ ((fromLibraries.flatten ++ fromMain).map Unit.key).Nodup → ∃ before unit after,
      FirstRepeated Unit.key (fromLibraries.flatten ++ fromMain) before unit after ∧
      loadTexts main libraries = .error (.registry (.repeatedUnit unit.kind unit.name))) ∧
    ∀ registry, loadTexts main libraries = .ok registry →
      registry.Represents fromLibraries.flatten fromMain := by
  rw [loadTexts_of_read readMain readAll, ← Registry.map_key_declarationsOf]
  have outcome {registry : Registry} : (Registry.ofUnits (Registry.declarationsOf
        fromLibraries.flatten fromMain)).mapError LoadError.registry = .ok registry ↔
      Registry.ofUnits (Registry.declarationsOf fromLibraries.flatten fromMain) = .ok registry := by
    cases Registry.ofUnits (Registry.declarationsOf fromLibraries.flatten fromMain) with
    | error failure => simp [Except.mapError]
    | ok made => simp [Except.mapError]
  simp only [outcome]
  refine ⟨Registry.ofUnits_ok_iff, fun repeated => ?_, fun registry made => ?_⟩
  · obtain ⟨before, declared, after, first⟩ := exists_firstRepeated repeated
    refine ⟨before.map (·.unit), declared.unit, after.map (·.unit), ?_, ?_⟩
    · have place := congrArg (List.map (·.unit)) first.place
      rw [Registry.map_unit_declarationsOf, List.map_append, List.map_cons] at place
      have keys : (before.map (·.unit)).map Unit.key = before.map Declared.key := List.map_map
      exact ⟨place, keys ▸ first.distinct, keys ▸ first.occurred⟩
    · rw [Registry.ofUnits_of_firstRepeated first]
      rfl
  · exact Registry.represents_of_units (Registry.units_of_ofUnits made)

/-- A library with a mixin. -/
def auditText : String := "Mixin Audited end"

/-- A design with a project that calls itself a library. -/
def shopText : String := "Project Shop library: true end Entity Order end"

private theorem exists_units_of_keys (text : String) (keys : List (UnitKind × String))
    (read : (Design.parse text).toOption.map (List.map Unit.key) = some keys) :
    ∃ units, Design.parse text = .ok units ∧ units.map Unit.key = keys := by
  cases parsed : Design.parse text with
  | error failure =>
    rw [parsed] at read
    cases read
  | ok units =>
    rw [parsed] at read
    exact ⟨units, rfl, Option.some.inj read⟩

theorem loadTexts_represents_shop : ∃ fromLibrary fromMain registry,
    Design.parse auditText = .ok fromLibrary ∧ Design.parse shopText = .ok fromMain ∧
    (fromLibrary ++ fromMain).map Unit.key =
      [(.mixin, "Audited"), (.project, "Shop"), (.entity, "Order")] ∧
    loadTexts shopText [auditText] = .ok registry ∧
    registry.Represents fromLibrary fromMain := by
  obtain ⟨fromLibrary, readLibrary, libraryKeys⟩ :=
    exists_units_of_keys auditText [(.mixin, "Audited")] (by decide +kernel)
  obtain ⟨fromMain, readMain, mainKeys⟩ :=
    exists_units_of_keys shopText [(.project, "Shop"), (.entity, "Order")] (by
      simp (disch := rfl) only [parse, shopText, Text.toList_of_eq]
      decide +kernel)
  obtain ⟨loaded, _, represents⟩ := loadTexts_represents readMain (.cons readLibrary .nil)
  rw [List.flatten_singleton, List.map_append, libraryKeys, mainKeys] at loaded
  obtain ⟨registry, made⟩ := loaded.mpr (by decide)
  refine ⟨fromLibrary, fromMain, registry, readLibrary, readMain, ?_, made, ?_⟩
  · rw [List.map_append, libraryKeys, mainKeys]
    rfl
  · simpa only [List.flatten_singleton] using represents registry made

end Texts

end Blueprint
