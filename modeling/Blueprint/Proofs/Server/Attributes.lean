import Blueprint.Proofs.Design.Names
import Blueprint.Proofs.Resolve.Merging
import Blueprint.Proofs.Server.TableModule

namespace Blueprint.ServerCode

/-- The name of the attribute that a statement of a class declares. -/
def Statement.attribute? : Statement → Option String
  | .annotate (.name name) _ _ _ => some name
  | _ => none

/-- The attributes that a class of a module declares. -/
def Module.attributesOf (module : Module) (name : String) : List String :=
  match module.findClass? name with
  | some found => (classBody found).filterMap Statement.attribute?
  | none => []

end Blueprint.ServerCode

namespace Blueprint.Server

open Design Generation ServerCode Relationship

/-- The names of what a table's class has: its columns, the identity and its relationships. -/
def TableSchema.attributes (table : TableSchema) : List String :=
  table.columns.map Column.name ++ table.identity.name :: table.relations.map TableRelation.name

/-- The names that become attributes: the identity, the properties, and the keys of associations of the
entity and of other entities. -/
def IsAttribute (registry : Registry) (entity : Entity) (properties : List Property)
    (relationships : List Relationship) (name : String) : Prop :=
  name = (Identity.of entity).name ∨ name ∈ properties.map Property.name ∨
    name ∈ Relationship.ownKeys relationships ∨
    name ∉ entity.properties.map Property.name ∧ ∃ source ∈ registry.entities,
      name ∈ keysOn entity.name (associations registry source.unit source.unit.properties)

/-- Attributes of different names differ in normal form, no relationship is named as the identity, and
no key that the table has to declare is named as the identity or a relationship. -/
structure Unclashing (registry : Registry) (entity : Entity) (properties : List Property)
    (relationships : List Relationship) : Prop where
  forms : ∀ one other, IsAttribute registry entity properties relationships one →
    IsAttribute registry entity properties relationships other →
    identifier one = identifier other → one = other
  identity : (Identity.of entity).name ∉ relationships.map Relationship.name
  ownKeys : ∀ key ∈ Relationship.ownKeys relationships,
    key ≠ (Identity.of entity).name ∧ key ∉ relationships.map Relationship.name
  incomingKeys : ∀ source ∈ registry.entities,
    ∀ key ∈ keysOn entity.name (associations registry source.unit source.unit.properties),
      key ∉ entity.properties.map Property.name →
        key ≠ (Identity.of entity).name ∧ key ∉ relationships.map Relationship.name

section Names

variable {registry : Registry} {entity : Entity} {properties : List Property}
  {relationships : List Relationship} {table : TableSchema} {name : String}

theorem name_relationOf (entity : String) (identity : Identity) (relationship : Relationship) :
    (relationOf entity identity relationship).name = relationship.name := by
  unfold relationOf
  cases relationship.kind <;> rfl

theorem Tabulates.names_relations
    (parts : Tabulates registry entity properties relationships table) :
    table.relations.map TableRelation.name = relationships.map Relationship.name := by
  rw [parts.relations, List.map_map]
  exact List.map_congr_left fun relationship _ => name_relationOf _ _ relationship

theorem Tabulates.mem_columns_iff
    (parts : Tabulates registry entity properties relationships table) :
    name ∈ table.columns.map Column.name ↔
      (name ∈ properties.map Property.name ∧ name ∉ relationships.map Relationship.name ∧
        name ≠ (Identity.of entity).name) ∨
      name ∈ Relationship.ownKeys relationships ∨
      name ∉ entity.properties.map Property.name ∧ ∃ source ∈ registry.entities,
        name ∈ keysOn entity.name (associations registry source.unit source.unit.properties) := by
  rw [TableSchema.columns, List.map_append, List.mem_append, parts.incomingKeys, List.map_append,
    List.mem_append, parts.ownKeys, mem_newNames, parts.scalars, mem_scalarProperties]
  grind

theorem Resolved.nodup_relationships (resolved : Resolved registry entity properties relationships)
    (distinct : (properties.map Property.name).Nodup) :
    (relationships.map Relationship.name).Nodup := by
  rw [resolve_eq_ok resolved.linked, names_associations]
  exact distinct.sublist (List.filter_sublist.map _)

/-- The names of columns are distinct. -/
theorem Tabulates.nodup_columns
    (parts : Tabulates registry entity properties relationships table)
    (stages : Stages registry entity properties relationships table)
    (distinct : (properties.map Property.name).Nodup) :
    (table.columns.map Column.name).Nodup := by
  have scalars : (table.scalars.map Column.name).Nodup := by
    rw [parts.scalars]
    exact distinct.sublist (List.filter_sublist.map _)
  have own : ((table.scalars ++ table.ownKeys).map Column.name).Nodup := by
    rw [List.map_append, List.nodup_append, parts.ownKeys]
    refine ⟨scalars, nodup_newNames _ _, ?_⟩
    rintro mine here other there rfl
    exact (mem_newNames.mp there).2 here
  obtain ⟨keys, arrived, converted⟩ := stages.incomingKeys
  obtain ⟨fresh, apart⟩ := nodup_incomingFrom arrived
  have same : table.incomingKeys.map Column.name = keys.map IncomingKey.name := by
    refine map_of_mapM (fun key column made => ?_) converted
    split at made
    · cases made
      rfl
    · cases made
  rw [TableSchema.columns, List.map_append, List.nodup_append, same]
  refine ⟨own, fresh, ?_⟩
  rintro mine here other there rfl
  obtain ⟨key, listed, named⟩ := List.mem_map.mp there
  exact apart key listed (named ▸ List.mem_append_left _ here)

theorem Tabulates.mem_attributes_iff
    (parts : Tabulates registry entity properties relationships table)
    (resolved : Resolved registry entity properties relationships) :
    name ∈ table.attributes ↔ IsAttribute registry entity properties relationships name := by
  have related : name ∈ relationships.map Relationship.name → name ∈ properties.map Property.name := by
    rw [resolve_eq_ok resolved.linked, names_associations]
    exact fun listed => (List.filter_sublist.map _).subset listed
  rw [TableSchema.attributes, List.mem_append, List.mem_cons, parts.mem_columns_iff, parts.identity,
    parts.names_relations, IsAttribute]
  grind

private theorem Tabulates.nodup_written_iff
    (parts : Tabulates registry entity properties relationships table)
    (columns : (table.columns.map Column.name).Nodup)
    (links : (relationships.map Relationship.name).Nodup) :
    table.attributes.Nodup ↔
      (Identity.of entity).name ∉ relationships.map Relationship.name ∧
        ∀ name ∈ table.columns.map Column.name,
          name ≠ (Identity.of entity).name ∧ name ∉ relationships.map Relationship.name := by
  simp only [TableSchema.attributes, List.nodup_append, List.nodup_cons, parts.names_relations,
    parts.identity, columns, links, List.mem_cons, forall_eq_or_imp, and_true, true_and]
  exact and_congr_right fun _ => forall₂_congr fun name _ => and_congr_right fun _ =>
    ⟨fun unlike listed => unlike _ listed rfl, fun absent other listed same =>
      absent (same ▸ listed)⟩

/-- Attributes are distinct in normal form iff names do not clash. -/
theorem Tabulates.nodup_attributes_iff
    (parts : Tabulates registry entity properties relationships table)
    (resolved : Resolved registry entity properties relationships)
    (columns : (table.columns.map Column.name).Nodup)
    (links : (relationships.map Relationship.name).Nodup) :
    (table.attributes.map identifier).Nodup ↔
      Unclashing registry entity properties relationships := by
  have written := parts.nodup_written_iff columns links
  have listed {name : String} : name ∈ table.attributes ↔ _ := parts.mem_attributes_iff resolved
  constructor
  · intro distinct
    obtain ⟨identity, unlike⟩ := written.mp (.of_map _ distinct)
    refine ⟨fun one other here there => ?_, identity, fun key own => unlike key ?_,
      fun source declared key onto missing => unlike key ?_⟩
    · exact List.inj_on_of_nodup_map distinct (listed.mpr here) (listed.mpr there)
    · exact parts.mem_columns_iff.mpr (Or.inr (Or.inl own))
    · exact parts.mem_columns_iff.mpr (Or.inr (Or.inr ⟨missing, source, declared, onto⟩))
  · rintro ⟨forms, identity, own, incoming⟩
    have distinct : table.attributes.Nodup := by
      refine written.mpr ⟨identity, fun name member => ?_⟩
      rcases parts.mem_columns_iff.mp member with ⟨_, unrelated, other⟩ | key |
        ⟨missing, source, declared, onto⟩
      · exact ⟨other, unrelated⟩
      · exact own name key
      · exact incoming source declared name onto missing
    exact distinct.map_on fun one here other there =>
      forms one other (listed.mp here) (listed.mp there)

end Names

/-- The classes of a generated module declare the attributes of the table in their normal form: the
columns in the base class, the identity and the relationships in the class of the entity. -/
theorem TableSchema.attributesOf_module {table : TableSchema} {module : Module}
    (named : table.names.all isName = true) (made : table.module = .ok module) :
    module.attributesOf (table.entity ++ "Base") ++ module.attributesOf table.entity =
      table.attributes.map identifier := by
  obtain ⟨same, success, base, own⟩ := module_classes named (identifier_entity named made)
  obtain rfl := Except.ok.inj (made.symm.trans success)
  have columns : module.attributesOf (table.entity ++ "Base") =
      table.columns.map fun column => identifier column.name := by
    rw [Module.attributesOf, base]
    exact filterMap_orPass rfl fun _ _ => rfl
  have others : module.attributesOf table.entity = identifier table.identity.name ::
      table.relations.map fun relation => identifier relation.name := by
    have links : (table.relations.map (TableRelation.declaration identifier)).filterMap
        Statement.attribute? = table.relations.map fun relation => identifier relation.name := by
      rw [List.filterMap_map, ← List.filterMap_eq_map]
      rfl
    rw [Module.attributesOf, own]
    exact congrArg (identifier table.identity.name :: ·) links
  rw [columns, others, attributes, List.map_append, List.map_cons, List.map_map, List.map_map]
  rfl

/-- Where the schema of an entity is generated and all names of its table are names, the attributes
that the classes of the generated module declare are distinct iff no two different names have one
normal form, no relationship is named as the identity, and no key of an own association or of an
association of another entity that has to be declared is named as the identity or a relationship. -/
theorem attributes_distinct_iff {registry : Registry} {declared : Declared Entity}
    {schema : Produced} (vetted : registry.Vets declared) (named : Named registry declared.unit)
    (success : (generateSchema declared registry).outcome = .ok schema) :
    ∃ properties relationships table module text,
      Resolved registry declared.unit properties relationships ∧
      (tableSchema registry declared.unit).outcome = .ok table ∧ table.module = .ok module ∧
      module.render generatedHeader = .ok text ∧ schema = .text text ∧
      module.attributesOf (declared.unit.name ++ "Base") ++ module.attributesOf declared.unit.name =
        table.attributes.map identifier ∧
      ((module.attributesOf (declared.unit.name ++ "Base") ++
          module.attributesOf declared.unit.name).Nodup ↔
        Unclashing registry declared.unit properties relationships) := by
  obtain ⟨properties, relationships, table, module, text, resolved, tabulated, parts, made,
    printed, given⟩ := exists_table_of_generateSchema success
  have distinct : (properties.map Property.name).Nodup :=
    nodup_effectiveProperties resolved.found vetted.checked.distinct
  have whole := TableSchema.attributesOf_module (named table tabulated) made
  rw [parts.named] at whole
  refine ⟨properties, relationships, table, module, text, resolved, tabulated, made, printed, given,
    whole, ?_⟩
  rw [whole]
  exact parts.nodup_attributes_iff resolved
    (parts.nodup_columns (resolved.stages tabulated) distinct)
    (resolved.nodup_relationships distinct)

def item : Entity :=
  { offset := 0, name := "Item", properties := [plain "label" ⟨"string", false⟩] }

/-- An entity with many items, which it finds by a key that may be chosen. -/
def crate (key : Option String) : Entity :=
  { offset := 0, name := "Crate"
    properties := [{ plain "items" ⟨"Item", true⟩ with options := { foreignKey := key } }] }

def crates (key : Option String) : Registry where
  units := Registry.declare none false 0 (stored ++ [.entity (crate key), .entity item])
  distinct := by
    have keys : [(UnitKind.project, "Shop"), (.dataSource, "Main"), (.entity, "Crate"),
      (.entity, "Item")].Nodup := by decide
    exact keys

private theorem checked_item : item.Checked where
  distinct := by decide
  identity := by
    have unflagged : flaggedIdentities item.properties = [] := rfl
    rw [unflagged]
    exact List.forall_mem_nil _

private theorem named_item : Named (crates none) item ∧ Named (crates (some "id")) item := by
  constructor <;>
  · intro table made
    cases made
    decide

theorem attributes_distinct_iff_crates : ∃ schema table module,
    (generateSchema ⟨item, false, none, 3⟩ (crates none)).outcome = .ok schema ∧
    (tableSchema (crates none) item).outcome = .ok table ∧ table.module = .ok module ∧
    module.attributesOf "ItemBase" ++ module.attributesOf "Item" = ["label", "crateId", "id"] ∧
    Unclashing (crates none) item item.properties [] := by
  obtain ⟨schema, success⟩ : ∃ schema,
      (generateSchema ⟨item, false, none, 3⟩ (crates none)).outcome = .ok schema :=
    generateSchema_of_plain rfl rfl (by decide +kernel)
  obtain ⟨_, _, table, module, _, resolved, tabulated, made, _, _, whole, distinct⟩ :=
    attributes_distinct_iff (.inl checked_item) named_item.1 success
  have again : Resolved (crates none) item item.properties [] := ⟨rfl, rfl⟩
  obtain ⟨rfl, rfl⟩ := resolved.unique again
  have shown : table.attributes.map identifier = ["label", "crateId", "id"] := by
    cases tabulated
    rfl
  refine ⟨schema, table, module, success, tabulated, made, whole.trans shown, distinct.mp ?_⟩
  rw [whole, shown]
  decide

/-- The key of the items is named as their identity, which no property declares, and both become
attributes of their class. -/
theorem key_repeats_identity_crates : item.Checked ∧
    (∃ source, (crates (some "id")).dataSourceFor item = .ok (some source)) ∧
    (∃ schema, (generateSchema ⟨item, false, none, 3⟩ (crates (some "id"))).outcome = .ok schema) ∧
    ∃ table module, (tableSchema (crates (some "id")) item).outcome = .ok table ∧
      table.module = .ok module ∧
      module.attributesOf "ItemBase" ++ module.attributesOf "Item" = ["label", "id", "id"] := by
  obtain ⟨schema, success⟩ : ∃ schema,
      (generateSchema ⟨item, false, none, 3⟩ (crates (some "id"))).outcome = .ok schema :=
    generateSchema_of_plain rfl rfl (by decide +kernel)
  obtain ⟨_, _, table, module, _, _, tabulated, _, made, _⟩ := exists_table_of_generateSchema success
  have whole := TableSchema.attributesOf_module (named_item.2 table tabulated) made
  refine ⟨checked_item, ⟨_, rfl⟩, ⟨schema, success⟩, table, module, tabulated, made, ?_⟩
  cases tabulated
  exact whole

end Blueprint.Server
