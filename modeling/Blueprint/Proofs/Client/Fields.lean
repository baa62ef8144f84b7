import Blueprint.Client.FormGroup
import Blueprint.Proofs.Server.TableModule

namespace Blueprint.Client

open Design Generation Relationship

/-- The names of properties that are not skipped. -/
def unskipped (skipped : List String) (properties : List Design.Property) : List String :=
  (properties.map Property.name).filter fun name => !skipped.contains name

section Walks

variable {properties : List Design.Property} {relationships : List Relationship} {name : String}

private theorem mem_unskipped {skipped : List String} :
    name ∈ unskipped skipped properties ↔
      name ∈ properties.map Property.name ∧ name ∉ skipped := by
  simp [unskipped]

theorem newNames_unskipped_cons (skipped declared : List String) (property : Design.Property)
    (properties : List Design.Property) :
    newNames declared (unskipped skipped (property :: properties)) =
      if declared.contains property.name || skipped.contains property.name then
        newNames declared (unskipped skipped properties)
      else property.name :: newNames (property.name :: declared) (unskipped skipped properties) := by
  unfold unskipped
  cases passed : skipped.contains property.name with
  | true =>
    rw [List.map_cons, List.filter_cons_of_neg (by rw [passed]; decide), Bool.or_true, if_pos rfl]
  | false =>
    rw [List.map_cons, List.filter_cons_of_pos (by rw [passed]; decide), Bool.or_false, newNames]

private theorem propertyControls_names (skipped declared : List String)
    (properties : List Design.Property) :
    (propertyControls skipped declared properties).map Control.name =
      newNames declared (unskipped skipped properties) := by
  induction properties generalizing declared with
  | nil => rfl
  | cons property properties ih =>
    rw [propertyControls, newNames_unskipped_cons]
    split
    · exact ih declared
    · rw [List.map_cons, ih]

private theorem propertyMembers_names (related declared : List String)
    (properties : List Design.Property) :
    (propertyMembers related declared properties).map DataMember.name =
      newNames declared (unskipped related properties) := by
  induction properties generalizing declared with
  | nil => rfl
  | cons property properties ih =>
    rw [propertyMembers, newNames_unskipped_cons]
    split
    · exact ih declared
    · rw [List.map_cons, ih]

theorem filter_propertyMembers (related declared : List String)
    (properties : List Design.Property) :
    (propertyMembers related declared properties).filter (!·.isRelation) =
      propertyMembers related declared properties := by
  induction properties generalizing declared with
  | nil => rfl
  | cons property properties ih =>
    rw [propertyMembers]
    split
    · exact ih declared
    · rw [List.filter_cons_of_pos rfl, ih]

private theorem keyControls_names (declared : List String) (relationships : List Relationship) :
    (keyControls declared relationships).map Control.name =
      newNames declared (ownKeys relationships) := by
  induction relationships generalizing declared with
  | nil => rfl
  | cons relationship relationships ih =>
    rw [keyControls, newNames_ownKeys_cons]
    split
    · exact ih declared
    · rw [List.map_cons, ih]

theorem relationshipMembers_names (declared : List String) (relationships : List Relationship) :
    ((relationshipMembers declared relationships).filter (!·.isRelation)).map DataMember.name =
      newNames declared (ownKeys relationships) := by
  induction relationships generalizing declared with
  | nil => rfl
  | cons relationship relationships ih =>
    rw [relationshipMembers, newNames_ownKeys_cons]
    -- The guard of a new key is the opposite of the one under which it is passed over.
    have opposite : (relationship.kind.isOwnerSide && !declared.contains relationship.foreignKey) =
        !(!relationship.kind.isOwnerSide || declared.contains relationship.foreignKey) := by
      rw [Bool.not_or, Bool.not_not]
    simp only [opposite]
    cases !relationship.kind.isOwnerSide || declared.contains relationship.foreignKey with
    | true => exact ih declared
    | false => exact congrArg (relationship.foreignKey :: ·) (ih _)

end Walks

section Fields

variable {identity : Identity} {properties : List Design.Property}
  {relationships : List Relationship} {name : String}

theorem mem_controlsOf_iff :
    name ∈ (controlsOf identity properties relationships).map Control.name ↔
      IsField identity properties relationships name := by
  have keys : (relationships.filter (·.kind.isOwnerSide)).map foreignKey = ownKeys relationships :=
    rfl
  simp only [isField_iff, controlsOf, List.map_append, List.map_cons, List.mem_append,
    List.mem_cons, keyControls_names, propertyControls_names, mem_newNames, mem_unskipped, keys,
    List.not_mem_nil, or_false]
  tauto

theorem mem_dataMembers_iff :
    name ∈ ((dataMembers identity properties relationships).filter (!·.isRelation)).map
        DataMember.name ↔ IsField identity properties relationships name := by
  simp only [dataMembers, List.cons_append]
  rw [List.filter_cons_of_pos rfl]
  simp only [isField_iff, List.filter_append, filter_propertyMembers, List.map_cons,
    List.map_append, propertyMembers_names, relationshipMembers_names, List.mem_cons,
    List.mem_append, mem_newNames, mem_unskipped, List.not_mem_nil, or_false]
  tauto

end Fields

open Server ServerCode

private theorem formControls_of_resolved {registry : Registry} {entity : Entity}
    {properties : List Design.Property} {relationships : List Relationship}
    (resolved : Resolved registry entity properties relationships) :
    (formControls registry entity).outcome =
      .ok (controlsOf (Identity.of entity) properties relationships, relationships) := by
  simp only [formControls, Step.outcome_bind, Identity.resolve_outcome, resolved.found,
    resolved.linked, ok_bind, Step.outcome_pure]

theorem businessObject_of_resolved {registry : Registry} {declared : Declared Entity}
    {properties : List Design.Property} {relationships : List Relationship} {client : Produced}
    (resolved : Resolved registry declared.unit properties relationships)
    (success : (generateBusinessObject declared registry).outcome = .ok client) :
    ∃ stubs, client = .text (businessObjectSource declared.unit.name (Identity.of declared.unit)
      (dataMembers (Identity.of declared.unit) properties relationships) relationships
      stubs).render := by
  simp only [generateBusinessObject, Step.outcome_bind, Identity.resolve_outcome, resolved.found,
    resolved.linked, ok_bind, Step.outcome_pure] at success
  obtain ⟨behaviors, _, given⟩ := bind_eq_ok_iff.mp success
  exact ⟨_, (Except.ok.inj given).symm⟩

/-- The three walks agree. Where the schema of an entity is generated and all names of its table are
names, its form has controls, and a business object that is generated states a data interface, all
from the same properties and associations. The controls, and the members that are no associations,
have the names of the entity's fields. The columns that the classes of the module declare, apart from
the incoming keys, have these names in normal form; so they have the same names if all fields are named
in normal form. -/
theorem fields_agree {registry : Registry} {declared : Declared Entity} {schema : Produced}
    (named : Named registry declared.unit)
    (server : (generateSchema declared registry).outcome = .ok schema) :
    ∃ properties relationships table module text controls own,
      Resolved registry declared.unit properties relationships ∧
      (tableSchema registry declared.unit).outcome = .ok table ∧ table.module = .ok module ∧
      module.render generatedHeader = .ok text ∧ schema = .text text ∧
      (formControls registry declared.unit).outcome = .ok (controls, relationships) ∧
      (∀ client, (generateBusinessObject declared registry).outcome = .ok client →
        ∃ stubs, client = .text (businessObjectSource declared.unit.name
          (Identity.of declared.unit)
          (dataMembers (Identity.of declared.unit) properties relationships) relationships
          stubs).render) ∧
      module.columnsOf declared.unit.name ++ module.columnsOf (declared.unit.name ++ "Base") =
        own ++ table.incomingKeys.map (fun column => identifier column.name) ∧
      (∀ name,
        (name ∈ own ↔ ∃ field, identifier field = name ∧
          IsField (Identity.of declared.unit) properties relationships field) ∧
        (name ∈ controls.map Control.name ↔
          IsField (Identity.of declared.unit) properties relationships name) ∧
        (name ∈ ((dataMembers (Identity.of declared.unit) properties relationships).filter
            (!·.isRelation)).map DataMember.name ↔
          IsField (Identity.of declared.unit) properties relationships name)) ∧
      ((∀ field, IsField (Identity.of declared.unit) properties relationships field →
          identifier field = field) →
        ∀ name, name ∈ own ↔
          IsField (Identity.of declared.unit) properties relationships name) := by
  obtain ⟨properties, relationships, table, module, text, resolved, tabulated, parts, made,
    printed, given⟩ := exists_table_of_generateSchema server
  have allNames := named table tabulated
  obtain ⟨same, again, base, identity⟩ := TableSchema.module_columns allNames
    (TableSchema.identifier_entity allNames made)
  cases made.symm.trans again
  rw [parts.named] at base identity
  have own (name : String) :
      name ∈ identifier table.identity.name ::
          (table.scalars ++ table.ownKeys).map (fun column => identifier column.name) ↔
        ∃ field, identifier field = name ∧
          IsField (Identity.of declared.unit) properties relationships field := by
    simp only [← parts.mem_ownColumns_iff, List.mem_cons, List.mem_map]
    constructor
    · rintro (rfl | ⟨column, listed, rfl⟩)
      · exact ⟨_, rfl, Or.inl rfl⟩
      · exact ⟨_, rfl, Or.inr ⟨column, listed, rfl⟩⟩
    · rintro ⟨_, rfl, rfl | ⟨column, listed, rfl⟩⟩
      · exact Or.inl rfl
      · exact Or.inr ⟨column, listed, rfl⟩
  refine ⟨properties, relationships, table, module, text,
    controlsOf (Identity.of declared.unit) properties relationships, _, resolved, tabulated, made,
    printed, given, formControls_of_resolved resolved,
    fun client success => businessObject_of_resolved resolved success, ?_,
    fun name => ⟨own name, mem_controlsOf_iff, mem_dataMembers_iff⟩, fun normal name => ?_⟩
  · rw [identity, base, TableSchema.columns, List.map_append, List.singleton_append,
      List.cons_append]
  · rw [own]
    constructor
    · rintro ⟨field, rfl, is⟩
      rwa [normal field is]
    · exact fun is => ⟨name, normal name is, is⟩

/-- The properties of what has an owner. -/
def owned : Mixin :=
  { offset := 0, name := "Owned", properties := [plain "owner" ⟨"User", false⟩] }

/-- An entity with an owner by a mixin that declares the owner's key as a property of its own. -/
def note : Entity :=
  { offset := 0, name := "Note", mixins := ["Owned"]
    properties := [plain "ownerId" ⟨"number", false⟩] }

def notes : Registry where
  units := Registry.declare none false 0
    (stored ++ [.mixin owned, .entity { offset := 0, name := "User" }, .entity note])
  distinct := by decide

theorem fields_agree_notes : ∃ schema table module own,
    (generateSchema ⟨note, false, none, 4⟩ notes).outcome = .ok schema ∧
    (tableSchema notes note).outcome = .ok table ∧ table.module = .ok module ∧
    module.columnsOf "Note" ++ module.columnsOf "NoteBase" = own ∧
    ∀ name, name ∈ own ↔ name ∈ ["id", "ownerId"] := by
  obtain ⟨schema, server⟩ : ∃ schema,
      (generateSchema ⟨note, false, none, 4⟩ notes).outcome = .ok schema :=
    generateSchema_of_plain rfl rfl (by decide +kernel)
  have named : Named notes note := by
    intro table made
    cases made
    decide
  obtain ⟨_, _, table, module, _, controls, own, _, tabulated, made, _, _, form, _, whole, agree,
    same⟩ := fields_agree named server
  have shown : controls.map Control.name = ["id", "ownerId"] := by
    cases form
    rfl
  have alone : table.incomingKeys = [] := by
    cases tabulated
    rfl
  rw [alone, List.map_nil, List.append_nil] at whole
  have fields (name : String) := (agree name).2.1
  simp only [shown] at fields
  have normal : ∀ name ∈ ["id", "ownerId"], identifier name = name := by decide
  refine ⟨schema, table, module, own, server, tabulated, made, whole, fun name => ?_⟩
  rw [same fun field is => normal field ((fields field).mpr is), fields]

/-- An entity with a property whose name, in micrometres, begins with a character that stands for a
letter of another alphabet. -/
def ruler : Entity :=
  { offset := 0, name := "Ruler", properties := [plain "µm" ⟨"number", false⟩] }

def rulers : Registry where
  units := Registry.declare none false 0 (stored ++ [.entity ruler])
  distinct := by decide

/-- The property is a control of the form under its name, but no column of the table is called so. -/
theorem micro_control_undeclared_rulers : ∃ schema client controls relationships table module,
    (generateSchema ⟨ruler, false, none, 2⟩ rulers).outcome = .ok schema ∧
    (generateBusinessObject ⟨ruler, false, none, 2⟩ rulers).outcome = .ok client ∧
    (formControls rulers ruler).outcome = .ok (controls, relationships) ∧
    (tableSchema rulers ruler).outcome = .ok table ∧ table.module = .ok module ∧
    controls.map Control.name = ["id", "µm"] ∧
    module.columnsOf "Ruler" ++ module.columnsOf "RulerBase" = ["id", "μm"] ∧ "µm" ≠ "μm" := by
  obtain ⟨schema, server⟩ : ∃ schema,
      (generateSchema ⟨ruler, false, none, 2⟩ rulers).outcome = .ok schema :=
    generateSchema_of_plain rfl rfl (by decide +kernel)
  obtain ⟨_, _, table, module, _, _, tabulated, parts, made, _⟩ := exists_table_of_generateSchema server
  have columns : module.columnsOf "Ruler" ++ module.columnsOf "RulerBase" = ["id", "μm"] := by
    have written : table.names.all isName = true ∧ identifier table.identity.name = "id" ∧
        table.columns.map (fun column => identifier column.name) = ["μm"] := by
      cases tabulated
      decide
    obtain ⟨named, shown, spelled⟩ := written
    obtain ⟨same, again, base, identity⟩ := TableSchema.module_columns named
      (TableSchema.identifier_entity named made)
    cases made.symm.trans again
    rw [parts.named] at base identity
    exact (congrArg₂ (· ++ ·) identity base).trans (by rw [shown, spelled]; rfl)
  exact ⟨schema, _, _, _, table, module, server, rfl, rfl, tabulated, made, rfl, columns, by decide⟩

end Blueprint.Client
