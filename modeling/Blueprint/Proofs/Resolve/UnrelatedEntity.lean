import Mathlib.Data.List.Nodup
import Blueprint.Proofs.Resolve.Associations
import Blueprint.Proofs.Resolve.Merging

/-!
One more entity, to which nothing in a registry refers and which refers to no entity there. Lookups
by other names find the same units with it and without it, so mixins, behaviors, associations and the
keys that other entities put on an entity resolve alike, with the same notes.
-/

namespace Blueprint

open Design

/-- Steps that go on alike from every value of a first step are alike. -/
theorem Step.bind_congr {α β : Type} {first : Step α} {next other : α → Step β}
    (alike : ∀ value, first.outcome = .ok value → next value = other value) :
    first >>= next = first >>= other := by
  change first.andThen next = first.andThen other
  unfold andThen
  cases made : first.outcome with
  | ok value => simp only [alike value made]
  | error failure => rfl

/-- The declaration without its number. -/
def Declared.unnumbered {α : Type} (declared : Declared α) : Declared α :=
  { declared with order := 0 }

/-- Two lookups that find the same unit, if any. -/
theorem Declared.cases_of_map_unit {α : Type} {found other : Option (Declared α)}
    (same : found.map Declared.unit = other.map Declared.unit) :
    (found = none ∧ other = none) ∨
      ∃ mine theirs, found = some mine ∧ other = some theirs ∧ mine.unit = theirs.unit := by
  cases other with
  | none => exact Or.inl ⟨Option.map_eq_none_iff.mp same, rfl⟩
  | some theirs =>
    obtain ⟨mine, is, unit⟩ := Option.map_eq_some_iff.mp same
    exact Or.inr ⟨mine, theirs, is, rfl, unit⟩

/-- The second registry has one more unit somewhere among those of the first, which may bear other
numbers. -/
def Registry.Joins (registry extended : Registry) (added : Declared Design.Unit) : Prop :=
  ∃ front back, registry.units.map Declared.unnumbered = front ++ back ∧
    extended.units.map Declared.unnumbered = front ++ added.unnumbered :: back

/-- The names of the types of parameters and a result. -/
def Design.signatureTypes (params : List Parameter) (returns : Option TypeRef) : List String :=
  (params.filterMap Parameter.type ++ returns.toList).map TypeRef.name

/-- The names of the types of a unit's properties, of the parameters and results of its methods and
of its function. -/
def Design.Unit.typeNames (unit : Design.Unit) : List String :=
  unit.properties.map (·.type.name) ++
    unit.methods.flatMap (fun method => signatureTypes method.params method.returns) ++
    (unit.behavior?.bind Behavior.function).toList.flatMap fun function =>
      signatureTypes function.params function.returns

/-- The second registry has one more entity, whose name is no type of the units of the first and of
whose properties none has an entity of the first as its type. -/
structure AddsUnrelated (registry extended : Registry) (added : Entity) : Prop where
  joined : ∃ declared, declared.unit = .entity added ∧ registry.Joins extended declared
  unmentioned : ∀ declared ∈ registry.units, added.name ∉ declared.unit.typeNames
  apart : ∀ property ∈ added.properties, property.type.name ∉ registry.entityNames

namespace Design.Unit

theorem eq_of_entity? {unit : Design.Unit} {shown : Entity} (seen : unit.entity? = some shown) :
    unit = .entity shown := by
  cases unit with
  | entity _ => exact congrArg Unit.entity (Option.some.inj seen)
  | _ => cases seen

private theorem eq_of_mixin? {unit : Design.Unit} {shown : Mixin} (seen : unit.mixin? = some shown) :
    unit = .mixin shown := by
  cases unit with
  | mixin _ => exact congrArg Unit.mixin (Option.some.inj seen)
  | _ => cases seen

end Design.Unit

namespace Registry

variable (registry : Registry)

theorem map_unit_list {α : Type} (view : Design.Unit → Option α) :
    (registry.list view).map Declared.unit =
      (registry.units.map Declared.unit).filterMap view := by
  rw [list, List.map_filterMap, List.filterMap_map]
  refine List.filterMap_congr fun declared _ => ?_
  change _ = view declared.unit
  cases view declared.unit with
  | none => rfl
  | some item => rfl

private theorem unnumbered_projects : registry.projects.map Declared.unnumbered =
    (registry.units.map Declared.unnumbered).filterMap fun declared =>
      declared.unit.project?.map declared.withUnit := by
  rw [projects, list, List.map_filterMap, List.filterMap_map]
  refine List.filterMap_congr fun declared _ => ?_
  change _ = declared.unit.project?.map _
  cases declared.unit.project? with
  | none => rfl
  | some project => rfl

private theorem findEntity?_unit (name : String) :
    (registry.findEntity? name).map Declared.unit =
      (registry.entities.map Declared.unit).find? (·.name == name) := by
  rw [findEntity?, List.find?_map]
  rfl

private theorem entityNames_eq : registry.entityNames =
    (registry.entities.map Declared.unit).map Entity.name := by
  rw [entityNames, List.map_map]
  rfl

private theorem exists_of_mem_entityNames {name : String} (known : name ∈ registry.entityNames) :
    (UnitKind.entity, name) ∈ registry.units.map Declared.key := by
  obtain ⟨entity, listed, rfl⟩ := List.mem_map.mp known
  obtain ⟨declared, member, shown, _⟩ := unit_of_mem_list listed
  exact List.mem_map.mpr ⟨declared, member, congrArg (fun unit => (unit.kind, unit.name)) (Unit.eq_of_entity? shown)⟩

end Registry

namespace AddsUnrelated

variable {registry extended : Registry} {added : Entity}
  (adds : AddsUnrelated registry extended added)

include adds

theorem map_unit_units : ∃ front back, registry.units.map Declared.unit = front ++ back ∧
    extended.units.map Declared.unit = front ++ .entity added :: back := by
  obtain ⟨declared, shown, front, back, before, after⟩ := adds.joined
  have units (any : Registry) : any.units.map Declared.unit =
      (any.units.map Declared.unnumbered).map Declared.unit := by
    rw [List.map_map]
    rfl
  refine ⟨front.map Declared.unit, back.map Declared.unit, ?_, ?_⟩
  · rw [units, before, List.map_append]
  · rw [units, after, List.map_append, List.map_cons, ← shown]
    rfl

theorem map_unit_list {α : Type} (view : Design.Unit → Option α)
    (unseen : view (.entity added) = none) :
    (extended.list view).map Declared.unit = (registry.list view).map Declared.unit := by
  obtain ⟨front, back, before, after⟩ := adds.map_unit_units
  rw [Registry.map_unit_list, Registry.map_unit_list, before, after, List.filterMap_append,
    List.filterMap_append, List.filterMap_cons_none unseen]

theorem map_unit_entities : ∃ front back, registry.entities.map Declared.unit = front ++ back ∧
    extended.entities.map Declared.unit = front ++ added :: back := by
  obtain ⟨front, back, before, after⟩ := adds.map_unit_units
  refine ⟨front.filterMap Unit.entity?, back.filterMap Unit.entity?, ?_, ?_⟩
  · rw [Registry.entities, Registry.map_unit_list, before, List.filterMap_append]
  · rw [Registry.entities, Registry.map_unit_list, after, List.filterMap_append]
    rfl

theorem mainProject?_eq :
    extended.mainProject?.map Declared.unit = registry.mainProject?.map Declared.unit := by
  obtain ⟨declared, shown, front, back, before, after⟩ := adds.joined
  have skipped : declared.unnumbered.unit.project? = none := by
    change declared.unit.project? = none
    rw [shown]
    rfl
  have projects : extended.projects.map Declared.unnumbered =
      registry.projects.map Declared.unnumbered := by
    rw [Registry.unnumbered_projects, Registry.unnumbered_projects, before, after]
    simp only [List.filterMap_append, List.filterMap_cons, skipped, Option.map_none]
  have found := congrArg (List.find? (!·.isLibrary)) projects
  rw [List.find?_map, List.find?_map] at found
  have units := congrArg (Option.map Declared.unit) found
  rwa [Option.map_map, Option.map_map] at units

/-- No entity has the name of the added one yet. -/
theorem ne_of_mem_entityNames {name : String} (known : name ∈ registry.entityNames) :
    name ≠ added.name := by
  rintro rfl
  obtain ⟨front, back, before, after⟩ := adds.map_unit_units
  have keys (any : Registry) : any.units.map Declared.key =
      (any.units.map Declared.unit).map fun unit => (unit.kind, unit.name) := by
    rw [List.map_map]
    rfl
  have distinct := extended.distinct
  rw [keys, after, List.map_append, List.map_cons, List.nodup_middle, List.nodup_cons,
    ← List.map_append, ← before, ← keys] at distinct
  exact distinct.1 (registry.exists_of_mem_entityNames known)

variable {name : String}

theorem findEntity?_eq (other : name ≠ added.name) :
    (extended.findEntity? name).map Declared.unit = (registry.findEntity? name).map Declared.unit := by
  obtain ⟨front, back, before, after⟩ := adds.map_unit_entities
  have passed : (added.name == name) = false := by simpa using Ne.symm other
  rw [Registry.findEntity?_unit, Registry.findEntity?_unit, before, after, List.find?_append,
    List.find?_append, List.find?_cons_of_neg (by simp [passed])]

private theorem findMixin?_eq (name : String) :
    (extended.findMixin? name).map Declared.unit = (registry.findMixin? name).map Declared.unit := by
  have same := congrArg (List.find? (·.name == name)) (adds.map_unit_list Unit.mixin? rfl)
  rwa [List.find?_map, List.find?_map] at same

theorem contains_entityNames (other : name ≠ added.name) :
    extended.entityNames.contains name = registry.entityNames.contains name := by
  obtain ⟨front, back, before, after⟩ := adds.map_unit_entities
  rw [Registry.entityNames_eq, Registry.entityNames_eq, before, after]
  simp [other]

end AddsUnrelated

namespace ActiveBehavior

theorem attached_congr {kind : UnitKind} {owner : String}
    {listed others : List (Declared Behavior)}
    (same : listed.map Declared.unit = others.map Declared.unit) :
    attached kind owner listed = attached kind owner others := by
  induction listed generalizing others with
  | nil =>
    cases others with
    | nil => rfl
    | cons other others => cases same
  | cons behavior listed ih =>
    cases others with
    | nil => cases same
    | cons other others =>
      rw [List.map_cons, List.map_cons, List.cons.injEq] at same
      rw [attached, attached, same.1, ih same.2]

theorem function_of_attach {declared : Behavior} {kind : UnitKind} {owner : String}
    {behavior : ActiveBehavior}
    (success : (declared.attach kind owner).outcome = .ok (some behavior)) :
    declared.function = some behavior.function := by
  unfold Behavior.attach at success
  split at success
  · cases success
  · cases success
  · rename_i function _ found
    split at success
    · cases success
      exact found
    · cases success

/-- The functions of attached behaviors are declared. -/
theorem exists_of_mem_attached {kind : UnitKind} {owner : String}
    {listed : List (Declared Behavior)} {behaviors : List ActiveBehavior}
    (success : (attached kind owner listed).outcome = .ok behaviors) {behavior : ActiveBehavior}
    (member : behavior ∈ behaviors) :
    ∃ declared ∈ listed, declared.unit.function = some behavior.function := by
  induction listed generalizing behaviors with
  | nil =>
    cases success
    cases member
  | cons first listed ih =>
    unfold attached at success
    split at success
    · obtain ⟨here, attaching, success⟩ := Step.bind_eq_ok_iff.mp success
      obtain ⟨others, resolved, success⟩ := Step.bind_eq_ok_iff.mp success
      cases success
      rcases List.mem_append.mp member with mine | theirs
      · rw [Option.mem_toList.mp mine] at attaching
        exact ⟨first, List.mem_cons_self, function_of_attach attaching⟩
      · obtain ⟨declared, later, same⟩ := ih resolved theirs
        exact ⟨declared, List.mem_cons_of_mem _ later, same⟩
    · obtain ⟨declared, later, same⟩ := ih success member
      exact ⟨declared, List.mem_cons_of_mem _ later, same⟩

theorem exists_of_mem_ofMixins {registry : Registry} {names : List String}
    {behaviors : List ActiveBehavior} (success : (ofMixins registry names).outcome = .ok behaviors)
    {behavior : ActiveBehavior} (member : behavior ∈ behaviors) :
    ∃ declared ∈ registry.behaviors, declared.unit.function = some behavior.function := by
  induction names generalizing behaviors with
  | nil =>
    cases success
    cases member
  | cons name names ih =>
    unfold ofMixins at success
    split at success
    · obtain ⟨here, attaching, success⟩ := Step.bind_eq_ok_iff.mp success
      obtain ⟨others, resolved, success⟩ := Step.bind_eq_ok_iff.mp success
      cases success
      rcases List.mem_append.mp member with mine | theirs
      · exact exists_of_mem_attached attaching mine
      · exact ih resolved theirs
    · exact ih success member

theorem exists_of_mem_ofEntity {registry : Registry} {entity : Entity}
    {behaviors : List ActiveBehavior} (success : (ofEntity registry entity).outcome = .ok behaviors)
    {behavior : ActiveBehavior} (member : behavior ∈ behaviors) :
    ∃ declared ∈ registry.behaviors, declared.unit.function = some behavior.function := by
  obtain ⟨own, attaching, success⟩ := Step.bind_eq_ok_iff.mp success
  obtain ⟨mixed, resolved, success⟩ := Step.bind_eq_ok_iff.mp success
  cases success
  rcases List.mem_append.mp member with mine | theirs
  · exact exists_of_mem_attached attaching mine
  · exact exists_of_mem_ofMixins resolved theirs

end ActiveBehavior

namespace Relationship

variable {registry : Registry} {target : Entity} {taken : List String}

/-- The targets of associations are the types of properties. -/
theorem exists_property_of_resolve {owner : Entity} {properties : List Property}
    {relationships : List Relationship}
    (success : (resolve registry owner properties).outcome = .ok relationships)
    {relationship : Relationship} (member : relationship ∈ relationships) :
    ∃ property ∈ properties, relationship.target = property.type.name := by
  rw [resolve_eq_ok success] at member
  obtain ⟨property, listed, made⟩ := List.mem_filterMap.mp member
  exact ⟨property, listed, target_of_association? made⟩

theorem incomingFrom_filter (sources : List (Declared Entity)) :
    incomingFrom registry target taken sources =
      incomingFrom registry target taken
        (sources.filter (·.unit.properties.any (·.type.name == target.name))) := by
  induction sources generalizing taken with
  | nil => rfl
  | cons source sources ih =>
    by_cases asked : source.unit.properties.any (·.type.name == target.name) = true
    · rw [List.filter_cons, if_pos asked, incomingFrom, if_pos asked, incomingFrom, if_pos asked]
      refine Step.bind_congr fun relationships _ => Step.bind_congr fun found _ => ?_
      rw [ih]
    · rw [List.filter_cons, if_neg asked, incomingFrom, if_neg asked, ih]

theorem incomingFrom_congr {sources others : List (Declared Entity)}
    (same : sources.map Declared.unit = others.map Declared.unit) :
    incomingFrom registry target taken sources = incomingFrom registry target taken others := by
  induction sources generalizing others taken with
  | nil =>
    cases others with
    | nil => rfl
    | cons other others => cases same
  | cons source sources ih =>
    cases others with
    | nil => cases same
    | cons other others =>
      rw [List.map_cons, List.map_cons, List.cons.injEq] at same
      rw [incomingFrom, incomingFrom, same.1]
      split
      · refine Step.bind_congr fun relationships _ => Step.bind_congr fun found _ => ?_
        rw [ih same.2]
      · exact ih same.2

end Relationship

namespace AddsUnrelated

variable {registry extended : Registry} {added : Entity}
  (adds : AddsUnrelated registry extended added)

include adds

theorem behaviorsOf_eq (kind : UnitKind) (owner : String) :
    ActiveBehavior.of extended kind owner = ActiveBehavior.of registry kind owner :=
  ActiveBehavior.attached_congr (adds.map_unit_list Unit.behavior? rfl)

private theorem findMixin?_isSome (name : String) :
    (extended.findMixin? name).isSome = (registry.findMixin? name).isSome := by
  have same := congrArg Option.isSome (adds.findMixin?_eq name)
  rwa [Option.isSome_map, Option.isSome_map] at same

private theorem ofMixins_eq (names : List String) :
    ActiveBehavior.ofMixins extended names = ActiveBehavior.ofMixins registry names := by
  induction names with
  | nil => rfl
  | cons name names ih =>
    rw [ActiveBehavior.ofMixins, ActiveBehavior.ofMixins, adds.findMixin?_isSome,
      adds.behaviorsOf_eq, ih]

theorem ofEntity_eq (entity : Entity) :
    ActiveBehavior.ofEntity extended entity = ActiveBehavior.ofEntity registry entity := by
  rw [ActiveBehavior.ofEntity, ActiveBehavior.ofEntity, adds.behaviorsOf_eq, adds.ofMixins_eq]

private theorem resolveMixins_eq (owner : String) (names : List String) :
    MixinApplication.resolveFrom extended owner names =
      MixinApplication.resolveFrom registry owner names := by
  induction names with
  | nil => rfl
  | cons name names ih =>
    unfold MixinApplication.resolveFrom
    rcases Declared.cases_of_map_unit (adds.findMixin?_eq name) with
      ⟨absent, missing⟩ | ⟨mixin, other, found, again, same⟩
    · rw [absent, missing]
    · simp only [found, again, same, adds.behaviorsOf_eq, ih]

theorem effectiveProperties_eq (unit : Design.Unit) :
    effectiveProperties extended unit = effectiveProperties registry unit := by
  have resolved : MixinApplication.resolve extended unit = MixinApplication.resolve registry unit := by
    unfold MixinApplication.resolve
    split
    · exact adds.resolveMixins_eq _ _
    · exact adds.resolveMixins_eq _ _
    · rfl
  rw [effectiveProperties, effectiveProperties, resolved]

variable {entity : Declared Entity}

theorem type_ne_of_mem {declared : Declared Design.Unit} (member : declared ∈ registry.units)
    {property : Property} (listed : property ∈ declared.unit.properties) :
    property.type.name ≠ added.name := by
  intro same
  refine adds.unmentioned declared member ?_
  rw [Unit.typeNames, List.append_assoc]
  exact List.mem_append_left _ (List.mem_map.mpr ⟨property, listed, same⟩)

private theorem own_type_ne (known : entity ∈ registry.entities) {property : Property}
    (listed : property ∈ entity.unit.properties) : property.type.name ≠ added.name := by
  obtain ⟨declared, member, shown, _⟩ := unit_of_mem_list known
  refine adds.type_ne_of_mem member ?_
  rwa [Unit.eq_of_entity? shown]

theorem effective_type_ne (known : entity ∈ registry.entities) {properties : List Property}
    (found : (effectiveProperties registry (.entity entity.unit)).outcome = .ok properties) :
    ∀ property ∈ properties, property.type.name ≠ added.name := by
  intro property listed
  rcases of_mem_effectiveProperties found listed with mine | ⟨mixin, applied, provided⟩
  · exact adds.own_type_ne known mine
  · obtain ⟨declared, member, shown, _⟩ := unit_of_mem_list applied
    refine adds.type_ne_of_mem member ?_
    rwa [Unit.eq_of_mixin? shown]

theorem resolveFrom_eq (owner : Entity) {properties : List Property}
    (others : ∀ property ∈ properties, property.type.name ≠ added.name)
    (taken : List ((String × String) × String)) :
    Relationship.resolveFrom extended owner taken properties =
      Relationship.resolveFrom registry owner taken properties := by
  induction properties generalizing taken with
  | nil => rfl
  | cons property properties ih =>
    rw [List.forall_mem_cons] at others
    unfold Relationship.resolveFrom
    rcases Declared.cases_of_map_unit (adds.findEntity?_eq others.1) with
      ⟨absent, missing⟩ | ⟨target, other, found, again, same⟩
    · simp only [absent, missing, ih others.2]
    · simp only [found, again, same, ih others.2]

theorem resolve_eq (known : entity ∈ registry.entities) {properties : List Property}
    (found : (effectiveProperties registry (.entity entity.unit)).outcome = .ok properties) :
    Relationship.resolve extended entity.unit properties =
      Relationship.resolve registry entity.unit properties :=
  adds.resolveFrom_eq _ (adds.effective_type_ne known found) _

private theorem resolveOwn_eq (known : entity ∈ registry.entities) :
    Relationship.resolveOwn extended entity.unit = Relationship.resolveOwn registry entity.unit :=
  adds.resolveFrom_eq _ (fun _ => adds.own_type_ne known) _

theorem incomingFrom_eq (target : Entity) {sources : List (Declared Entity)}
    (known : ∀ source ∈ sources, source ∈ registry.entities) (taken : List String) :
    Relationship.incomingFrom extended target taken sources =
      Relationship.incomingFrom registry target taken sources := by
  induction sources generalizing taken with
  | nil => rfl
  | cons source sources ih =>
    rw [List.forall_mem_cons] at known
    unfold Relationship.incomingFrom
    simp only [adds.resolveOwn_eq known.1, ih known.2]

/-- The entities that mention an entity of the registry are the same. -/
theorem filter_mentions {target : String} (known : target ∈ registry.entityNames) :
    (extended.entities.filter (·.unit.properties.any (·.type.name == target))).map Declared.unit =
      (registry.entities.filter (·.unit.properties.any (·.type.name == target))).map
        Declared.unit := by
  have units (sources : List (Declared Entity)) :
      (sources.filter (·.unit.properties.any (·.type.name == target))).map Declared.unit =
        (sources.map Declared.unit).filter (·.properties.any (·.type.name == target)) := by
    rw [List.filter_map]
    rfl
  have silent : ¬added.properties.any (·.type.name == target) = true := by
    intro mentions
    obtain ⟨property, listed, same⟩ := List.any_eq_true.mp mentions
    exact adds.apart property listed (beq_iff_eq.mp same ▸ known)
  obtain ⟨front, back, before, after⟩ := adds.map_unit_entities
  rw [units, units, before, after, List.filter_append, List.filter_append, List.filter_cons,
    if_neg silent]

theorem incoming_eq {target : Entity} (known : target.name ∈ registry.entityNames)
    (declared : List String) :
    Relationship.incoming extended target declared =
      Relationship.incoming registry target declared := by
  rw [Relationship.incoming, Relationship.incoming, Relationship.incomingFrom_filter,
    Relationship.incomingFrom_congr (adds.filter_mentions known), adds.incomingFrom_eq,
    ← Relationship.incomingFrom_filter]
  exact fun source listed => (List.mem_filter.mp listed).1

end AddsUnrelated

end Blueprint
