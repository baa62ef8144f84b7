import Blueprint.Proofs.Generation.AllGenerators
import Blueprint.Proofs.Resolve.UnrelatedEntity
import Blueprint.Proofs.Server.Tables

/-!
Generators of entities do not see an entity that has nothing to do with the others. They ask the
registry for the names of all entities, for all entities that may put keys on one, for behaviors by
their owners and for data sources; the results for the other entities are the same with and without
the additional one, whatever becomes of itself.
-/

namespace Blueprint

open Design

namespace AddsUnrelated

variable {registry extended : Registry} {added : Entity}
  (adds : AddsUnrelated registry extended added)

include adds

section Types

theorem serverType_eq {name : String} (other : name ≠ added.name) (array : Bool) :
    ServerType.ofName extended.entityNames name array =
      ServerType.ofName registry.entityNames name array := by
  simp only [ServerType.ofName, adds.contains_entityNames other]

private theorem propertyType_eq {property : Property} (other : property.type.name ≠ added.name) :
    Server.propertyType extended.entityNames property =
      Server.propertyType registry.entityNames property :=
  adds.serverType_eq other _

private theorem scalarColumns_eq {properties : List Property}
    (others : ∀ property ∈ properties, property.type.name ≠ added.name) :
    properties.mapM (Server.scalarColumn extended.entityNames) =
      properties.mapM (Server.scalarColumn registry.entityNames) := by
  induction properties with
  | nil => rfl
  | cons property properties ih =>
    rw [List.forall_mem_cons] at others
    rw [List.mapM_cons, List.mapM_cons, ih others.2]
    simp only [Server.scalarColumn, adds.propertyType_eq others.1]

private theorem columnImports_eq {properties : List Property}
    (others : ∀ property ∈ properties, property.type.name ≠ added.name) :
    properties.flatMap (Server.columnImports extended.entityNames) =
      properties.flatMap (Server.columnImports registry.entityNames) := by
  refine List.flatMap_congr fun property listed => ?_
  simp only [Server.columnImports, adds.propertyType_eq (others property listed)]

end Types

section Tables

theorem ownKeyColumns_eq {relationships : List Relationship}
    (others : ∀ relationship ∈ relationships, relationship.target ≠ added.name) (entity : String)
    (declared : List String) :
    Server.ownKeyColumns extended entity declared relationships =
      Server.ownKeyColumns registry entity declared relationships := by
  induction relationships generalizing declared with
  | nil => rfl
  | cons relationship relationships ih =>
    rw [List.forall_mem_cons] at others
    unfold Server.ownKeyColumns
    rcases Declared.cases_of_map_unit (adds.findEntity?_eq others.1) with
      ⟨absent, missing⟩ | ⟨target, other, found, again, same⟩
    · simp only [absent, missing]
    · simp only [found, again, same, ih others.2]

theorem incomingKeyColumns_eq {keys : List IncomingKey}
    (others : ∀ key ∈ keys, key.source ≠ added.name) :
    Server.incomingKeyColumns extended keys = Server.incomingKeyColumns registry keys := by
  unfold Server.incomingKeyColumns
  induction keys with
  | nil => rfl
  | cons key keys ih =>
    rw [List.forall_mem_cons] at others
    rw [List.mapM_cons, List.mapM_cons, ih others.2]
    rcases Declared.cases_of_map_unit (adds.findEntity?_eq others.1) with
      ⟨absent, missing⟩ | ⟨source, other, found, again, same⟩
    · simp only [absent, missing]
    · simp only [found, again, same]

variable {entity : Declared Entity}

omit adds in
theorem source_mem_entityNames {target : Entity} {declared : List String} {keys : List IncomingKey}
    (found : (Relationship.incoming registry target declared).outcome = .ok keys) :
    ∀ key ∈ keys, key.source ∈ registry.entityNames := by
  intro key listed
  rcases Relationship.incomingFrom_cases registry target _ registry.entities with
    ⟨_, _, _, failure, _, failed⟩ | ⟨_, others, success, _, origin⟩
  · cases found.symm.trans failed
  · rw [Except.ok.inj (found.symm.trans success)] at listed
    obtain ⟨source, member, same⟩ := origin key listed
    exact same ▸ List.mem_map_of_mem member

theorem tableSchema_eq (known : entity ∈ registry.entities) :
    Server.tableSchema extended entity.unit = Server.tableSchema registry entity.unit := by
  unfold Server.tableSchema
  rw [adds.effectiveProperties_eq]
  refine Step.bind_congr fun identity _ => Step.bind_congr fun properties found => ?_
  have others := adds.effective_type_ne known found
  rw [adds.resolve_eq known found]
  refine Step.bind_congr fun relationships resolved => ?_
  have columns : ∀ property ∈ Server.scalarProperties identity relationships properties,
      property.type.name ≠ added.name :=
    fun property listed => others property (List.mem_filter.mp listed).1
  have targets : ∀ relationship ∈ relationships, relationship.target ≠ added.name := by
    intro relationship listed
    obtain ⟨property, member, same⟩ := Relationship.exists_property_of_resolve resolved listed
    exact same ▸ others property member
  simp only [adds.scalarColumns_eq columns, adds.columnImports_eq columns,
    adds.ownKeyColumns_eq targets, adds.incoming_eq (List.mem_map_of_mem known)]
  refine Step.bind_congr fun scalars _ => Step.bind_congr fun ownKeys _ =>
    Step.bind_congr fun incoming put => ?_
  rw [adds.incomingKeyColumns_eq fun key listed =>
    adds.ne_of_mem_entityNames (source_mem_entityNames put key listed)]

private theorem associations_eq (known : entity ∈ registry.entities) :
    Server.resolveAssociations extended entity.unit =
      Server.resolveAssociations registry entity.unit := by
  unfold Server.resolveAssociations
  rw [adds.effectiveProperties_eq]
  exact Step.bind_congr fun properties found => adds.resolve_eq known found

end Tables

section Behaviors

theorem signature_ne {entity : Entity} {behaviors : List ActiveBehavior}
    (found : (ActiveBehavior.ofEntity registry entity).outcome = .ok behaviors)
    {behavior : ActiveBehavior} (member : behavior ∈ behaviors) :
    added.name ∉ signatureTypes behavior.function.params behavior.function.returns := by
  obtain ⟨declared, listed, isFunction⟩ := ActiveBehavior.exists_of_mem_ofEntity found member
  obtain ⟨unit, isUnit, shown, _⟩ := unit_of_mem_list listed
  intro mentioned
  refine adds.unmentioned unit isUnit (List.mem_append_right _ ?_)
  rw [shown, Option.bind_some, isFunction]
  exact List.mem_flatMap.mpr ⟨_, Option.mem_toList.mpr rfl, mentioned⟩

theorem behaviorParams_eq (behavior : String) {params : List Parameter}
    (others : ∀ param ∈ params, ∀ type, param.type = some type → type.name ≠ added.name)
    (seenOptional : Bool) :
    Server.behaviorParams behavior extended.entityNames seenOptional params =
      Server.behaviorParams behavior registry.entityNames seenOptional params := by
  induction params generalizing seenOptional with
  | nil => rfl
  | cons param params ih =>
    rw [List.forall_mem_cons] at others
    unfold Server.behaviorParams
    simp only [ih others.2]
    cases typed : param.type with
    | none => rfl
    | some type => simp only [Option.map_some, adds.serverType_eq (others.1 type typed)]

theorem behaviorMethod_eq {behavior : ActiveBehavior}
    (other : added.name ∉ signatureTypes behavior.function.params behavior.function.returns)
    (className : String) :
    Server.behaviorMethod className behavior extended.entityNames =
      Server.behaviorMethod className behavior registry.entityNames := by
  have params : ∀ param ∈ behavior.function.params, ∀ type, param.type = some type →
      type.name ≠ added.name := by
    intro param listed type typed same
    refine other (List.mem_map.mpr ⟨type, List.mem_append_left _ ?_, same⟩)
    exact List.mem_filterMap.mpr ⟨param, listed, typed⟩
  have returns : Server.returnsOf behavior extended.entityNames =
      Server.returnsOf behavior registry.entityNames := by
    unfold Server.returnsOf
    cases typed : behavior.returnType? with
    | none => rfl
    | some type =>
      have different : type.name ≠ added.name := by
        intro same
        refine other (List.mem_map.mpr ⟨type, List.mem_append_right _ ?_, same⟩)
        exact Option.mem_toList.mpr typed
      simp only [Option.map_some, adds.serverType_eq different]
  have given : ∀ param ∈ if behavior.type == .ofInstance then behavior.function.params.drop 1
      else behavior.function.params, ∀ type, param.type = some type → type.name ≠ added.name := by
    split
    · exact fun param listed => params param (List.mem_of_mem_drop listed)
    · exact params
  unfold Server.behaviorMethod
  rw [returns]
  simp only [adds.behaviorParams_eq _ given]

theorem addBehaviors_eq {behaviors : List ActiveBehavior}
    (others : ∀ behavior ∈ behaviors,
      added.name ∉ signatureTypes behavior.function.params behavior.function.returns)
    (className : String) (module : ServerCode.Module) :
    Server.addBehaviors className extended.entityNames behaviors module =
      Server.addBehaviors className registry.entityNames behaviors module := by
  induction behaviors generalizing module with
  | nil => rfl
  | cons behavior behaviors ih =>
    rw [List.forall_mem_cons] at others
    have step : Server.addBehavior className extended.entityNames module behavior =
        Server.addBehavior className registry.entityNames module behavior := by
      simp only [Server.addBehavior, Server.addBehaviorMethod, adds.behaviorMethod_eq others.1]
    rw [Server.addBehaviors, Server.addBehaviors, step]
    exact Step.bind_congr fun added _ => ih others.2 added

private theorem businessObject_eq (entity : Entity) (dataSource : String) :
    Server.businessObject extended entity dataSource =
      Server.businessObject registry entity dataSource := by
  unfold Server.businessObject
  rw [adds.ofEntity_eq]
  refine Step.bind_congr fun identity _ => Step.bind_congr fun _ _ => Step.bind_congr fun _ _ =>
    Step.bind_congr fun behaviors found => ?_
  exact adds.addBehaviors_eq (fun behavior listed => adds.signature_ne found listed) _ _

end Behaviors

section Stores

private theorem dataSourceName_eq (entity : Entity) :
    extended.dataSourceName entity = registry.dataSourceName entity := by
  unfold Registry.dataSourceName
  rcases Declared.cases_of_map_unit adds.mainProject?_eq with
    ⟨absent, missing⟩ | ⟨project, other, found, again, same⟩
  · rw [absent, missing]
  · simp only [found, again, same]

theorem dataSourceFor_eq (entity : Entity) :
    (extended.dataSourceFor entity).map (Option.map Declared.unit) =
      (registry.dataSourceFor entity).map (Option.map Declared.unit) := by
  have sources := congrArg (List.find? (·.name == registry.dataSourceName entity))
    (adds.map_unit_list Unit.dataSource? rfl)
  rw [List.find?_map, List.find?_map] at sources
  simp only [Registry.dataSourceFor, adds.dataSourceName_eq]
  split
  · rfl
  · rcases Declared.cases_of_map_unit sources with
      ⟨absent, missing⟩ | ⟨source, other, found, again, same⟩
    · simp only [Function.comp_def] at absent missing
      simp only [Registry.dataSources, absent, missing]
    · simp only [Function.comp_def] at found again
      simp only [Registry.dataSources, found, again, Except.map, Option.map_some, same]

private theorem storeOf_eq (entity : Entity) :
    Server.storeOf extended entity = Server.storeOf registry entity := by
  have units (any : Registry) : Server.storeOf any entity = (do
      let found ← Step.ofExcept ((any.dataSourceFor entity).map (Option.map Declared.unit))
      found.elim (Step.fail (.unitNotFound .dataSource "" (some entity.name)))
        fun source => pure source.name) := by
    unfold Server.storeOf
    cases any.dataSourceFor entity with
    | error failure => rfl
    | ok found => cases found <;> rfl
  rw [units, units, adds.dataSourceFor_eq]

private theorem serverEntity_eq (declared : Declared Design.Unit) :
    Generation.serverEntity declared extended = Generation.serverEntity declared registry := by
  have units (any : Registry) (entity : Entity) : (any.dataSourceFor entity).map (·.isSome) =
      ((any.dataSourceFor entity).map (Option.map Declared.unit)).map (·.isSome) := by
    cases any.dataSourceFor entity with
    | error failure => rfl
    | ok found => cases found <;> rfl
  simp only [Generation.serverEntity, units, adds.dataSourceFor_eq]

end Stores

section Files

variable {entity : Declared Entity} (known : entity ∈ registry.entities)

include known

private theorem generateSchema_eq :
    Server.generateSchema entity extended = Server.generateSchema entity registry := by
  rw [Server.generateSchema, Server.generateSchema, adds.tableSchema_eq known]

private theorem serverObject_eq :
    Server.generateBusinessObject entity extended =
      Server.generateBusinessObject entity registry := by
  simp only [Server.generateBusinessObject, adds.storeOf_eq, adds.associations_eq known,
    adds.businessObject_eq]

private theorem generateRoute_eq :
    Server.generateRoute entity extended = Server.generateRoute entity registry := by
  simp only [Server.generateRoute, Server.router, adds.associations_eq known, adds.ofEntity_eq]

private theorem clientObject_eq :
    Client.generateBusinessObject entity extended =
      Client.generateBusinessObject entity registry := by
  simp only [Client.generateBusinessObject, adds.effectiveProperties_eq, adds.ofEntity_eq]
  refine Step.bind_congr fun identity _ => Step.bind_congr fun properties found => ?_
  rw [adds.resolve_eq known found]

private theorem formGroup_eq :
    Client.generateFormGroup entity extended = Client.generateFormGroup entity registry := by
  have controls : Client.formControls extended entity.unit =
      Client.formControls registry entity.unit := by
    rw [Client.formControls, Client.formControls, adds.effectiveProperties_eq]
    refine Step.bind_congr fun identity _ => Step.bind_congr fun properties found => ?_
    rw [adds.resolve_eq known found]
  simp only [Client.generateFormGroup, controls]

end Files

end AddsUnrelated

namespace Generation

variable {registry extended : Registry} {added : Entity} {generator : Generator}

/-- A result shows of a unit its name and kind, the paths announced for it, the answer of the
condition and what the generator makes of it. -/
theorem Site.result_congr {declared other : Declared Design.Unit} (name : declared.name = other.name)
    (kind : declared.kind = other.kind)
    (announced : generator.outputs (some declared) = generator.outputs (some other))
    (worded : generator.wording (some declared) = generator.wording (some other))
    (asked : Site.accepted extended ⟨0, generator, some declared⟩ =
      Site.accepted registry ⟨0, generator, some other⟩)
    (made : generator.generate (some declared) extended =
      generator.generate (some other) registry) :
    Site.result extended ⟨0, generator, some declared⟩ =
      Site.result registry ⟨0, generator, some other⟩ := by
  have blank : (Task.mk generator (some declared)).blank =
      (Task.mk generator (some other)).blank := by
    simp only [Task.blank, Option.map_some, name, kind]
  have files : generator.files (some declared) = generator.files (some other) := by
    funext produced
    rw [Generator.files, Generator.files, announced]
  simp only [Site.result, Site.failed, asked, Site.task, blank, Task.run, Task.close, made, files,
    worded]

private theorem outputs_congr (listed : generator ∈ entityGenerators)
    {declared other : Declared Design.Unit} (name : declared.name = other.name) :
    generator.outputs (some declared) = generator.outputs (some other) := by
  simp only [entityGenerators, List.mem_cons, List.not_mem_nil, or_false] at listed
  rcases listed with rfl | rfl | rfl | rfl | rfl
  all_goals exact congrArg (fun name => Except.ok [_]) name

private theorem wording_congr (listed : generator ∈ entityGenerators)
    (declared other : Option (Declared Design.Unit)) :
    generator.wording declared = generator.wording other := by
  simp only [entityGenerators, List.mem_cons, List.not_mem_nil, or_false] at listed
  rcases listed with rfl | rfl | rfl | rfl | rfl <;> rfl

/-- Generators of entities make the same of an entity with and without an unrelated one, and the
number of the entity does not show. -/
theorem result_eq (adds : AddsUnrelated registry extended added)
    (listed : generator ∈ entityGenerators) {declared other : Declared Design.Unit}
    (same : declared.unnumbered = other.unnumbered) (member : other ∈ registry.units)
    (kind : other.kind = .entity) :
    Site.result extended ⟨0, generator, some declared⟩ =
      Site.result registry ⟨0, generator, some other⟩ := by
  obtain ⟨unit, library, source, order⟩ := declared
  obtain ⟨_, _, _, number⟩ := other
  cases same
  cases unit with
  | entity entity =>
    have known : Declared.mk entity library source number ∈ registry.entities :=
      List.mem_filterMap.mpr ⟨_, member, rfl⟩
    refine Site.result_congr rfl rfl (outputs_congr listed rfl) (wording_congr listed _ _) ?_ ?_
    · obtain ⟨_, _, _, accepts, single, either⟩ := ofEntities listed
      have looks (order : Nat) : Trigger.matches ⟨.entity, accepts⟩
          ⟨.entity entity, library, source, order⟩ = true := rfl
      simp only [Site.accepted, Generator.triggerFor?, single, List.find?_singleton, looks,
        ↓reduceIte]
      rcases either with rfl | rfl
      · exact adds.serverEntity_eq _
      · rfl
    · simp only [entityGenerators, List.mem_cons, List.not_mem_nil, or_false] at listed
      rcases listed with rfl | rfl | rfl | rfl | rfl
      · have made := adds.generateSchema_eq known
        exact made
      · have made := adds.serverObject_eq known
        exact made
      · have made := adds.generateRoute_eq known
        exact made
      · have made := adds.clientObject_eq known
        exact made
      · have made := adds.formGroup_eq known
        exact made
  | _ => cases kind

private theorem map_name_entities (registry : Registry) :
    (registry.ofKind .entity).map Declared.name = registry.entityNames := by
  unfold Registry.ofKind Registry.entityNames Registry.entities Registry.list
  induction registry.units with
  | nil => rfl
  | cons declared units ih =>
    obtain ⟨unit, library, source, order⟩ := declared
    cases unit with
    | entity entity => exact congrArg (entity.name :: ·) ih
    | _ => exact ih

/-- The entities of a registry are those of the extended one without the added entity. -/
theorem unnumbered_entities (adds : AddsUnrelated registry extended added) :
    ((extended.ofKind .entity).filter (·.name != added.name)).map Declared.unnumbered =
      (registry.ofKind .entity).map Declared.unnumbered := by
  have filtered (any : Registry) :
      ((any.ofKind .entity).filter (·.name != added.name)).map Declared.unnumbered =
        (any.units.map Declared.unnumbered).filter fun declared =>
          declared.name != added.name && declared.kind == .entity := by
    rw [List.filter_map, Registry.ofKind, List.filter_filter]
    rfl
  have all : (registry.ofKind .entity).filter (·.name != added.name) = registry.ofKind .entity := by
    rw [List.filter_eq_self]
    intro declared listed
    rw [bne_iff_ne]
    refine adds.ne_of_mem_entityNames ?_
    rw [← map_name_entities]
    exact List.mem_map_of_mem listed
  obtain ⟨declared, shown, front, back, before, after⟩ := adds.joined
  have dropped : ¬(declared.unnumbered.name != added.name &&
      declared.unnumbered.kind == .entity) = true := by
    have name : declared.unnumbered.name = added.name := congrArg Unit.name shown
    simp [name]
  rw [← all, filtered, filtered, before, after, List.filter_append, List.filter_append,
    List.filter_cons, if_neg dropped]

theorem map_eq_of_unnumbered {α : Type} {f g : Declared Design.Unit → α}
    {left right : List (Declared Design.Unit)}
    (same : left.map Declared.unnumbered = right.map Declared.unnumbered)
    (alike : ∀ one, ∀ two ∈ right, one.unnumbered = two.unnumbered → f one = g two) :
    left.map f = right.map g := by
  induction left generalizing right with
  | nil =>
    cases right with
    | nil => rfl
    | cons two right => cases same
  | cons one left ih =>
    cases right with
    | nil => cases same
    | cons two right =>
      rw [List.map_cons, List.map_cons, List.cons.injEq] at same
      rw [List.map_cons, List.map_cons, alike one two List.mem_cons_self same.1,
        ih same.2 fun one two listed => alike one two (List.mem_cons_of_mem _ listed)]

/-- One more entity, to which no type refers and whose properties refer to no entity, leaves the
results of all other entities as they are, whatever becomes of itself and wherever it stands. -/
theorem unrelated_entity_unseen (adds : AddsUnrelated registry extended added)
    (targets : List String) (workers others : Int) (choices turns : Nat → Nat) :
    ∃ finished again, run registry allGenerators targets workers choices = .ok finished ∧
      run extended allGenerators targets others turns = .ok again ∧
      ∀ generator ∈ entityGenerators, generator.target ∈ targets →
        (finished.outcome.of generator.name).map (·.unit) = registry.entityNames.map some ∧
        (again.outcome.of generator.name).filter (·.unit != some added.name) =
          finished.outcome.of generator.name := by
  obtain ⟨finished, returned⟩ := exists_run registry targets workers choices
  obtain ⟨again, repeated⟩ := exists_run extended targets others turns
  refine ⟨finished, again, returned, repeated, fun generator listed selected => ?_⟩
  have named (any : Registry) (declared : Declared Design.Unit) :
      (Site.result any ⟨0, generator, some declared⟩).unit = some declared.name :=
    (answers_result any _).unit
  rw [results_of_entities returned listed selected, results_of_entities repeated listed selected]
  constructor
  · rw [List.map_map]
    simp only [Function.comp_def, named]
    rw [← map_name_entities, List.map_map]
    rfl
  · rw [List.filter_map]
    simp only [Function.comp_def, named, bne, Option.some_beq_some]
    refine map_eq_of_unnumbered (unnumbered_entities adds) fun one two known same => ?_
    obtain ⟨member, kind⟩ := List.mem_filter.mp known
    exact result_eq adds listed same member (beq_iff_eq.mp kind)

/-- Owners, who put a key on their rooms. -/
def owner : Entity :=
  { offset := 0, name := "Owner", properties := [Server.plain "rooms" ⟨"Room", true⟩] }

def room : Entity :=
  { offset := 0, name := "Room", properties := [Server.plain "area" ⟨"number", false⟩] }

/-- An entity that cannot be resolved: it applies an unknown mixin, and has an unknown type. -/
def wreck : Entity :=
  { offset := 0, name := "Wreck", mixins := ["Sunk"]
    properties := [Server.plain "diver" ⟨"Diver", false⟩, Server.plain "twin" ⟨"Wreck", false⟩] }

/-- A house with its owners and rooms. -/
def house : Registry where
  units := Registry.declare none false 0 (Server.stored ++ [.entity owner, .entity room])
  distinct := by decide

/-- The house with a wreck between its owners and its rooms. -/
def houseWithWreck : Registry where
  units := Registry.declare none false 0
    (Server.stored ++ [.entity owner, .entity wreck, .entity room])
  distinct := by decide

theorem unrelated_entity_unseen_wreck :
    ∃ finished again, run house allGenerators ["server", "client"] 1 id = .ok finished ∧
      run houseWithWreck allGenerators ["server", "client"] 4 id = .ok again ∧
      ∀ generator ∈ entityGenerators, generator.target ∈ ["server", "client"] →
        (finished.outcome.of generator.name).map (·.unit) = [some "Owner", some "Room"] ∧
        (again.outcome.of generator.name).filter (·.unit != some "Wreck") =
          finished.outcome.of generator.name := by
  have adds : AddsUnrelated house houseWithWreck wreck :=
    { joined := ⟨⟨.entity wreck, false, none, 3⟩, rfl,
        (Registry.declare none false 0 (Server.stored ++ [.entity owner])).map Declared.unnumbered,
        [⟨.entity room, false, none, 0⟩], rfl, rfl⟩
      unmentioned := by decide
      apart := by decide }
  exact unrelated_entity_unseen adds ["server", "client"] 1 4 id id

end Generation

end Blueprint
