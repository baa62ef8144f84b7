import Mathlib.Tactic.Tauto
import Blueprint.Proofs.Outcomes
import Blueprint.Proofs.Resolve.Associations
import Blueprint.Server.Schema

namespace Blueprint.Server

open Design ServerCode Relationship

/-- The initial value of every property can be read and written. -/
def ReadsDefaults (properties : List Property) : Prop :=
  ∀ property ∈ properties, ∃ value, initialValue property.initializer = .ok value

/-- Why an initial value cannot be read or written: neither a design error nor a condition that is
not met. -/
structure IsDefaultFailure (failure : Failure) : Prop where
  noDesign : failure.isDesign = false
  noSkip : ∀ reason, failure ≠ .skipped reason

private theorem isDefaultFailure_of_refusal {refusal : Literal.Refusal} {failure : Failure}
    (failed : refusal.failure? = some failure) : IsDefaultFailure failure := by
  cases refusal <;> cases failed <;> exact ⟨rfl, nofun⟩

theorem ofText_cases (initializer : String) :
    (∃ value, Literal.ofText initializer = .ok value) ∨
      ∃ failure, Literal.ofText initializer = .error failure ∧ IsDefaultFailure failure := by
  unfold Literal.ofText
  split
  · exact Or.inl ⟨_, rfl⟩
  · simp only
    split
    · exact Or.inl ⟨_, rfl⟩
    · split
      · exact Or.inl ⟨_, rfl⟩
      · split
        · next failed => exact Or.inr ⟨_, rfl, isDefaultFailure_of_refusal failed⟩
        · exact Or.inl ⟨_, rfl⟩

theorem initialValue_cases (initializer : String) :
    (∃ value, initialValue initializer = .ok value) ∨
      ∃ failure, initialValue initializer = .error failure ∧ IsDefaultFailure failure := by
  unfold initialValue
  split
  · exact Or.inl ⟨none, rfl⟩
  · rcases ofText_cases initializer with ⟨value, read⟩ | ⟨failure, failed, kind⟩
    · rw [read, ok_bind]
      split
      · exact Or.inl ⟨none, rfl⟩
      · exact Or.inl ⟨none, rfl⟩
      · unfold Literal.written
        split
        · exact Or.inl ⟨_, rfl⟩
        · exact Or.inr ⟨_, rfl, rfl, nofun⟩
    · rw [failed, error_bind]
      exact Or.inr ⟨failure, rfl, kind⟩

private theorem scalarColumn_of_initialValue (entities : List String) {property : Property}
    {value : Option Literal} (read : initialValue property.initializer = .ok value) :
    ∃ column, scalarColumn entities property = .ok column ∧ column.name = property.name := by
  simp only [scalarColumn, fieldArguments, read, ok_bind]
  exact ⟨_, rfl, rfl⟩

/-- The columns of properties bear their names; an initial value that there cannot be is no design
error. -/
theorem scalarColumns_cases (entities : List String) (properties : List Property) :
    (ReadsDefaults properties ∧ ∃ columns, properties.mapM (scalarColumn entities) = .ok columns ∧
      columns.map Column.name = properties.map Property.name) ∨
    ¬ ReadsDefaults properties ∧ ∃ failure,
      properties.mapM (scalarColumn entities) = .error failure ∧ IsDefaultFailure failure := by
  induction properties with
  | nil => exact Or.inl ⟨by simp [ReadsDefaults], [], rfl, rfl⟩
  | cons property properties ih =>
    rw [List.mapM_cons]
    rcases initialValue_cases property.initializer with ⟨value, read⟩ | ⟨failure, unread, kind⟩
    · obtain ⟨column, made, named⟩ := scalarColumn_of_initialValue entities read
      rw [made, ok_bind]
      rcases ih with ⟨all, columns, success, names⟩ | ⟨some, failure, failed, kind⟩
      · left
        refine ⟨List.forall_mem_cons.mpr ⟨⟨value, read⟩, all⟩, column :: columns, ?_, ?_⟩
        · rw [success]
          rfl
        · simp [named, names]
      · right
        refine ⟨fun every => some (List.forall_mem_cons.mp every).2, failure, ?_, kind⟩
        rw [failed]
        rfl
    · right
      constructor
      · intro every
        obtain ⟨value, read⟩ := every property List.mem_cons_self
        rw [unread] at read
        cases read
      · exact ⟨failure, by simp only [scalarColumn, fieldArguments, unread, error_bind], kind⟩

/-- The columns of an entity's own keys are those that are not declared. -/
theorem ownKeyColumns_names {registry : Registry} (entity : String)
    {relationships : List Relationship}
    (known : ∀ relationship ∈ relationships,
      ∃ target, registry.findEntity? relationship.target = some target) (declared : List String) :
    ∃ columns, ownKeyColumns registry entity declared relationships = .ok columns ∧
      columns.map Column.name = newNames declared (ownKeys relationships) := by
  induction relationships generalizing declared with
  | nil => exact ⟨[], rfl, rfl⟩
  | cons relationship relationships ih =>
    obtain ⟨⟨target, found⟩, others⟩ := List.forall_mem_cons.mp known
    unfold ownKeyColumns
    simp only [found]
    rw [newNames_ownKeys_cons]
    split
    · exact ih others declared
    · obtain ⟨columns, success, names⟩ := ih others (relationship.foreignKey :: declared)
      refine ⟨foreignKeyColumn relationship.foreignKey relationship.foreignKeyType target.unit ::
        columns, ?_, ?_⟩
      · rw [success]
        rfl
      · simp [names, foreignKeyColumn]

theorem incomingKeyColumns_names {registry : Registry} {keys : List IncomingKey}
    (known : ∀ key ∈ keys, (registry.findEntity? key.source).isSome = true) :
    ∃ columns, incomingKeyColumns registry keys = .ok columns ∧
      columns.map Column.name = keys.map IncomingKey.name := by
  induction keys with
  | nil => exact ⟨[], rfl, rfl⟩
  | cons key keys ih =>
    obtain ⟨here, others⟩ := List.forall_mem_cons.mp known
    obtain ⟨source, found⟩ := Option.isSome_iff_exists.mp here
    obtain ⟨columns, success, names⟩ := ih others
    refine ⟨foreignKeyColumn key.name key.type source.unit :: columns, ?_, ?_⟩
    · unfold incomingKeyColumns at success ⊢
      rw [List.mapM_cons, found, success]
      rfl
    · simp [names, foreignKeyColumn]

/-- What a table holds, in terms of the properties and the associations of its entity. -/
structure Tabulates (registry : Registry) (entity : Entity) (properties : List Property)
    (relationships : List Relationship) (table : TableSchema) : Prop where
  named : table.entity = entity.name
  identity : table.identity = Identity.of entity
  scalars : table.scalars.map Column.name =
    (scalarProperties (Identity.of entity) relationships properties).map Property.name
  ownKeys : table.ownKeys.map Column.name =
    newNames (table.scalars.map Column.name) (Relationship.ownKeys relationships)
  incomingKeys : ∀ name, name ∈ table.incomingKeys.map Column.name ↔
    (name ∉ (table.scalars ++ table.ownKeys).map Column.name ∧
      name ∉ entity.properties.map Property.name) ∧
    ∃ source ∈ registry.entities,
      name ∈ keysOn entity.name (associations registry source.unit source.unit.properties)
  relations : table.relations = relationships.map (relationOf entity.name (Identity.of entity))

theorem mem_scalarProperties {identity : Identity} {relationships : List Relationship}
    {properties : List Property} {name : String} :
    name ∈ (scalarProperties identity relationships properties).map Property.name ↔
      name ∈ properties.map Property.name ∧
        name ∉ relationships.map Relationship.name ∧ name ≠ identity.name := by
  simp only [scalarProperties, List.mem_map, List.mem_filter, Bool.and_eq_true,
    Bool.not_eq_true', List.contains_eq_mem, decide_eq_false_iff_not, bne_iff_ne]
  constructor
  · rintro ⟨property, ⟨member, apart⟩, rfl⟩
    exact ⟨⟨property, member, rfl⟩, apart⟩
  · rintro ⟨⟨property, member, rfl⟩, apart⟩
    exact ⟨property, ⟨member, apart⟩, rfl⟩

/-- A table has a column of this name, the identity included. -/
def TableSchema.Declares (table : TableSchema) (name : String) : Prop :=
  name = table.identity.name ∨ name ∈ table.columns.map Column.name

namespace Tabulates

variable {registry : Registry} {entity : Entity} {properties : List Property}
  {relationships : List Relationship} {table : TableSchema} {name : String}

theorem mem_ownColumns_iff (parts : Tabulates registry entity properties relationships table) :
    name = table.identity.name ∨ name ∈ (table.scalars ++ table.ownKeys).map Column.name ↔
      IsField (Identity.of entity) properties relationships name := by
  rw [isField_iff, List.map_append, List.mem_append, parts.ownKeys, mem_newNames, parts.scalars,
    mem_scalarProperties, parts.identity]
  tauto

/-- A table declares the fields of its entity, and the keys that own associations of some entity
expect here and that no property of the entity is named after. -/
theorem declares_iff (parts : Tabulates registry entity properties relationships table) :
    table.Declares name ↔
      IsField (Identity.of entity) properties relationships name ∨
        name ∉ entity.properties.map Property.name ∧ ∃ source ∈ registry.entities,
          name ∈ keysOn entity.name (associations registry source.unit source.unit.properties) := by
  rw [← parts.mem_ownColumns_iff, TableSchema.Declares, TableSchema.columns, List.map_append,
    List.mem_append, parts.incomingKeys]
  tauto

end Tabulates

/-- The properties of an entity with those of its mixins, and the associations among them. -/
structure Resolved (registry : Registry) (entity : Entity) (properties : List Property)
    (relationships : List Relationship) : Prop where
  found : (effectiveProperties registry (.entity entity)).outcome = .ok properties
  linked : (resolve registry entity properties).outcome = .ok relationships

theorem Resolved.unique {registry : Registry} {entity : Entity} {properties others : List Property}
    {relationships links : List Relationship}
    (one : Resolved registry entity properties relationships)
    (two : Resolved registry entity others links) :
    properties = others ∧ relationships = links := by
  cases one.found.symm.trans two.found
  cases one.linked.symm.trans two.linked
  exact ⟨rfl, rfl⟩

/-- How making the table of an entity ends. -/
inductive TableOutcome (registry : Registry) (entity : Entity) : Except Failure TableSchema → Prop where
  /-- A mixin cannot be applied. -/
  | mixins {failure : Failure}
      (failed : (effectiveProperties registry (.entity entity)).outcome = .error failure) :
      TableOutcome registry entity (.error failure)
  /-- The entity's associations cannot be resolved. -/
  | associations {properties : List Property} {failure : Failure}
      (found : (effectiveProperties registry (.entity entity)).outcome = .ok properties)
      (failed : (resolve registry entity properties).outcome = .error failure) :
      TableOutcome registry entity (.error failure)
  /-- An initial value cannot be read or written. -/
  | defaults {properties : List Property} {relationships : List Relationship} {failure : Failure}
      (resolved : Resolved registry entity properties relationships)
      (unread : ¬ ReadsDefaults (scalarProperties (Identity.of entity) relationships properties))
      (kind : IsDefaultFailure failure) :
      TableOutcome registry entity (.error failure)
  /-- An entity with a property of this entity's type cannot resolve its own associations. -/
  | referrer {properties : List Property} {relationships : List Relationship}
      {source : Declared Entity} {failure : Failure}
      (resolved : Resolved registry entity properties relationships)
      (read : ReadsDefaults (scalarProperties (Identity.of entity) relationships properties))
      (member : source ∈ registry.entities) (mentions : Mentions source.unit entity)
      (failed : (resolveOwn registry source.unit).outcome = .error failure) :
      TableOutcome registry entity (.error failure)
  /-- The table is made. -/
  | made {properties : List Property} {relationships : List Relationship} {table : TableSchema}
      (resolved : Resolved registry entity properties relationships)
      (read : ReadsDefaults (scalarProperties (Identity.of entity) relationships properties))
      (all : ∀ source ∈ registry.entities, Mentions source.unit entity →
        ∃ own, (resolveOwn registry source.unit).outcome = .ok own)
      (parts : Tabulates registry entity properties relationships table) :
      TableOutcome registry entity (.ok table)

theorem tableOutcome (registry : Registry) (entity : Entity) :
    TableOutcome registry entity (tableSchema registry entity).outcome := by
  unfold tableSchema
  simp only [Step.outcome_bind, Identity.resolve_outcome, ok_bind, Step.outcome_ofExcept]
  cases found : (effectiveProperties registry (.entity entity)).outcome with
  | error failure => exact .mixins found
  | ok properties =>
    rw [ok_bind]
    cases linked : (resolve registry entity properties).outcome with
    | error failure => exact .associations found linked
    | ok relationships =>
      rw [ok_bind]
      have known (relationship : Relationship) (member : relationship ∈ relationships) :
          ∃ target, registry.findEntity? relationship.target = some target :=
        findEntity?_target (resolve_eq_ok linked ▸ member)
      rcases scalarColumns_cases registry.entityNames
          (scalarProperties (Identity.of entity) relationships properties) with
        ⟨read, scalars, success, named⟩ | ⟨unread, failure, failed, kind⟩
      · obtain ⟨own, collected, keys⟩ :=
          ownKeyColumns_names entity.name known (scalars.map Column.name)
        simp only [success, collected, ok_bind]
        rcases incomingFrom_cases registry entity ((scalars ++ own).map Column.name ++
            entity.properties.map Property.name) registry.entities with
          ⟨source, member, mentions, failure, broken, failed⟩ | ⟨all, incoming, arrived, names, origin⟩
        · rw [Relationship.incoming, failed, error_bind]
          exact .referrer ⟨found, linked⟩ read member mentions broken
        · have sources (key : IncomingKey) (member : key ∈ incoming) :
              (registry.findEntity? key.source).isSome = true := by
            obtain ⟨source, declared, same⟩ := origin key member
            rw [same]
            exact Registry.findEntity?_isSome_of_mem declared
          obtain ⟨columns, converted, kept⟩ := incomingKeyColumns_names sources
          simp only [Relationship.incoming, arrived, converted, ok_bind, Step.outcome_pure]
          refine .made ⟨found, linked⟩ read all ⟨rfl, rfl, named, keys, ?_, rfl⟩
          intro name
          rw [kept, names, List.mem_append, not_or]
      · rw [failed, error_bind]
        exact .defaults ⟨found, linked⟩ unread kind

/-- The columns of a table as its stages give them. -/
structure Stages (registry : Registry) (entity : Entity) (properties : List Property)
    (relationships : List Relationship) (table : TableSchema) : Prop where
  scalars : (scalarProperties (Identity.of entity) relationships properties).mapM
    (scalarColumn registry.entityNames) = .ok table.scalars
  ownKeys : ownKeyColumns registry entity.name (table.scalars.map Column.name) relationships =
    .ok table.ownKeys
  incomingKeys : ∃ keys, (Relationship.incoming registry entity
      ((table.scalars ++ table.ownKeys).map Column.name)).outcome = .ok keys ∧
    incomingKeyColumns registry keys = .ok table.incomingKeys

theorem Resolved.stages {registry : Registry} {entity : Entity} {properties : List Property}
    {relationships : List Relationship} {table : TableSchema}
    (resolved : Resolved registry entity properties relationships)
    (success : (tableSchema registry entity).outcome = .ok table) :
    Stages registry entity properties relationships table := by
  simp only [tableSchema, Step.outcome_bind, Identity.resolve_outcome, resolved.found,
    resolved.linked, ok_bind, Step.outcome_ofExcept] at success
  obtain ⟨scalars, made, success⟩ := bind_eq_ok_iff.mp success
  obtain ⟨own, collected, success⟩ := bind_eq_ok_iff.mp success
  obtain ⟨keys, arrived, success⟩ := bind_eq_ok_iff.mp success
  obtain ⟨incoming, converted, success⟩ := bind_eq_ok_iff.mp success
  cases success
  exact ⟨made, collected, keys, arrived, converted⟩

/-- A property without options. -/
def plain (name : String) (type : TypeRef) : Property :=
  { offset := 0, name, optional := false, type, written := [], initializer := "" }

/-- A project with a data source for all its entities. -/
def stored : List Design.Unit :=
  [.project { offset := 0, name := "Shop", defaultDataSource := "Main" },
    .dataSource { offset := 0, name := "Main", persistenceType := "Memory" }]

end Blueprint.Server
