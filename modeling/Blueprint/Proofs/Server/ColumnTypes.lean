import Blueprint.Proofs.OrderedMap
import Blueprint.Proofs.Server.Attributes

namespace Blueprint

open Design

namespace Identity

variable {entity : Entity}

theorem name_of (entity : Entity) : (Identity.of entity).name =
    ((flaggedIdentities entity.properties).head?.map Property.name).getD "id" := by
  rw [flaggedIdentities, List.head?_filter]
  unfold Identity.of property?
  cases entity.properties.find? fun property => property.options.id.getD false with
  | some flagged => rfl
  | none =>
    cases named : entity.properties.find? fun property => property.name == "id" with
    | some property =>
      have usual := List.find?_some named
      exact eq_of_beq usual
    | none => rfl

theorem eq_name_iff (checked : entity.Checked) {name : String} :
    name = (Identity.of entity).name ↔
      (∃ property ∈ flaggedIdentities entity.properties, property.name = name) ∨
        flaggedIdentities entity.properties = [] ∧ name = "id" := by
  rw [name_of]
  cases flags : flaggedIdentities entity.properties with
  | nil => simp
  | cons flagged others =>
    have only := (checked.identity flagged (flags ▸ List.mem_cons_self)).1
    rw [flags] at only
    rw [only]
    simp [eq_comm]

/-- An own property that bears the name of the identity gives it. -/
theorem of_eq_ofProperty (checked : entity.Checked) {property : Property}
    (own : property ∈ entity.properties) (named : property.name = (Identity.of entity).name) :
    Identity.of entity = ofProperty property := by
  unfold Identity.of at named ⊢
  cases found : property? entity.properties with
  | some other =>
    rw [found] at named
    have member : other ∈ entity.properties := by
      rcases Option.or_eq_some_iff.mp found with first | ⟨_, second⟩
      · exact List.mem_of_find?_eq_some first
      · exact List.mem_of_find?_eq_some second
    have same : other = property :=
      List.inj_on_of_nodup_map checked.distinct member own named.symm
    rw [same]
  | none =>
    rw [found] at named
    have unnamed := (Option.or_eq_none_iff.mp found).2
    have apart : property.name ≠ "id" := by
      simpa using List.find?_eq_none.mp unnamed property own
    exact absurd named apart

end Identity

end Blueprint

namespace Blueprint.ServerCode

/-- A type without the mark that values may be missing. -/
def Expr.withoutOptional : Expr → Expr
  | .subscript (.name "Optional") type => type
  | type => type

theorem Expr.withoutOptional_ofType (type : ServerType) :
    (Expr.ofType type).withoutOptional = .ofType type := by
  unfold ofType
  split <;> rfl

/-- The attribute that a statement of a class declares, with its type if it is a column. -/
def Statement.typed? : Statement → Option (String × Option Expr)
  | .annotate (.name name) _ type (some (.call (.name "Field") _ _)) =>
    some (name, some type.withoutOptional)
  | .annotate (.name name) _ _ _ => some (name, none)
  | _ => none

/-- The attributes that a class of a module declares, with the types of columns. -/
def Module.typedOf (module : Module) (name : String) : List (String × Option Expr) :=
  match module.findClass? name with
  | some found => (classBody found).filterMap Statement.typed?
  | none => []

/-- The type of the column that the class of an entity has under a name. The last attribute of a name
counts, and those of the class come behind those of its base. -/
def Module.columnType? (module : Module) (entity name : String) : Option Expr :=
  ((module.typedOf (entity ++ "Base") ++ module.typedOf entity).reverse.lookup name).join

end Blueprint.ServerCode

namespace Blueprint.Server

open Design Generation ServerCode Relationship

/-- The attributes of a table, with the types of the identity and of the columns, whether they may be
missing or not. -/
def TableSchema.typed (table : TableSchema) : List (String × Option Expr) :=
  table.columns.map (fun column => (column.name, some column.type)) ++
    (table.identity.name, some (Expr.name table.identity.type.serverName)) ::
      table.relations.map fun relation => (relation.name, none)

/-- The type of the column of a name in a table. -/
def TableSchema.columnType? (table : TableSchema) (name : String) : Option Expr :=
  (table.typed.reverse.lookup name).join

/-- A property keeps its type in the column of its name: the column has the type of the property or, as
the identity, that of the identities which such properties are. -/
def KeepsType (column : Option Expr) (identity : Identity) (entities : List String)
    (property : Property) : Prop :=
  column = some (.ofType (propertyType entities property)) ∨
    property.name = identity.name ∧ property.type.array = false ∧
      ∃ type, identityType? property.type.name = some type ∧ column = some (.name type.serverName)

/-- The name of a property is in normal form, and that of no other attribute. -/
def KeepsName (registry : Registry) (entity : Entity) (properties : List Property)
    (relationships : List Relationship) (property : Property) : Prop :=
  ∀ name, IsAttribute registry entity properties relationships name →
    (identifier name = property.name ↔ name = property.name)

section Types

variable {registry : Registry} {entity : Entity} {properties : List Property}
  {relationships : List Relationship} {table : TableSchema} {property : Property}

theorem serverName_injective {one other : IdentityType} (same : one.serverName = other.serverName) :
    one = other := by
  cases one <;> cases other <;> first | rfl | exact absurd same (by decide)

private theorem identity?_of_ofScalar {scalar : Scalar} {type : IdentityType}
    (same : Expr.ofType (.ofScalar scalar) = .name type.serverName) :
    scalar.identity? = some type := by
  cases scalar <;> cases type <;>
    first
    | rfl
    | simp [ServerType.ofScalar, ServerType.any, Expr.ofType, Expr.nothing,
        IdentityType.serverName] at same

/-- A type whose code is that of an identity holds such identities. -/
theorem identityType?_of_ofType {entities : List String} {name : String} {array : Bool}
    {type : IdentityType}
    (same : Expr.ofType (.ofName entities name array) = .name type.serverName) :
    array = false ∧ identityType? name = some type := by
  unfold ServerType.ofName at same
  cases array with
  | true => cases same
  | false =>
    refine ⟨rfl, ?_⟩
    unfold identityType?
    cases known : Scalar.ofName? name with
    | some scalar =>
      rw [known] at same
      exact identity?_of_ofScalar same
    | none =>
      rw [known] at same
      simp only [Bool.false_eq_true, ↓reduceIte] at same
      split at same
      · cases same
      · cases type <;> simp [ServerType.any, Expr.ofType, IdentityType.serverName] at same

private theorem scalarColumn_shape {entities : List String} {column : Column}
    (made : scalarColumn entities property = .ok column) :
    (column.name, column.type) = (property.name, .ofType (propertyType entities property)) := by
  obtain ⟨arguments, _, made⟩ := bind_eq_ok_iff.mp made
  cases made
  rfl

private theorem foreignKeyColumn_type (name : String) (type : IdentityType) (target : Entity) :
    (foreignKeyColumn name type target).type = .ofType (.named type.serverName) := by
  cases type <;> rfl

theorem ownKeyColumns_types {entity : String} {declared : List String} {columns : List Column}
    (success : ownKeyColumns registry entity declared relationships = .ok columns) :
    ∀ column ∈ columns, ∃ type, column.type = .ofType type := by
  induction relationships generalizing declared columns with
  | nil =>
    cases success
    exact nofun
  | cons relationship relationships ih =>
    unfold ownKeyColumns at success
    split at success
    · cases success
    · simp only at success
      split at success
      · exact ih success
      · obtain ⟨others, later, success⟩ := bind_eq_ok_iff.mp success
        cases success
        exact List.forall_mem_cons.mpr ⟨⟨_, foreignKeyColumn_type _ _ _⟩, ih later⟩

/-- No column is optional by its type. -/
theorem Stages.types (stages : Stages registry entity properties relationships table) :
    ∀ column ∈ table.columns, ∃ type, column.type = .ofType type := by
  obtain ⟨keys, _, converted⟩ := stages.incomingKeys
  intro column listed
  rcases List.mem_append.mp listed with own | incoming
  · rcases List.mem_append.mp own with scalar | key
    · obtain ⟨property, _, made⟩ := exists_of_mem_mapM stages.scalars scalar
      exact ⟨_, congrArg Prod.snd (scalarColumn_shape made)⟩
    · exact ownKeyColumns_types stages.ownKeys column key
  · obtain ⟨key, _, made⟩ := exists_of_mem_mapM converted incoming
    split at made
    · cases made
      exact ⟨_, foreignKeyColumn_type _ _ _⟩
    · cases made

/-- The last attribute of a name that no association has. -/
private theorem columnType?_of_unrelated
    (parts : Tabulates registry entity properties relationships table) {name : String}
    (unrelated : name ∉ relationships.map Relationship.name) :
    table.columnType? name =
      if name = table.identity.name then some (.name table.identity.type.serverName)
      else (table.columns.reverse.map fun column => (column.name, some column.type)).lookup name
        |>.join := by
  have links : (table.relations.map fun relation =>
      (relation.name, (none : Option Expr))).reverse.lookup name = none := by
    rw [List.lookup_eq_none_iff]
    intro entry listed
    obtain ⟨relation, member, rfl⟩ := List.mem_map.mp (List.mem_reverse.mp listed)
    rw [bne_iff_ne]
    rintro rfl
    exact unrelated (parts.names_relations ▸ List.mem_map_of_mem member)
  rw [TableSchema.columnType?, TableSchema.typed, List.reverse_append, List.reverse_cons,
    List.append_assoc, List.lookup_append, links, Option.none_or, List.singleton_append,
    List.lookup_cons, ← List.map_reverse]
  by_cases same : name = table.identity.name
  · rw [if_pos same, same, beq_self_eq_true]
    rfl
  · rw [if_neg same, beq_false_of_ne same]

/-- A property that is neither a relationship nor named as the identity becomes a column of its
type. -/
theorem Stages.columnType?_property
    (stages : Stages registry entity properties relationships table)
    (parts : Tabulates registry entity properties relationships table)
    (distinct : (table.columns.map Column.name).Nodup) (member : property ∈ properties)
    (unrelated : property.name ∉ relationships.map Relationship.name)
    (other : property.name ≠ table.identity.name) :
    table.columnType? property.name =
      some (.ofType (propertyType registry.entityNames property)) := by
  have columns := map_of_mapM (fun _ _ => scalarColumn_shape) stages.scalars
  have kept : property ∈ scalarProperties (Identity.of entity) relationships properties := by
    refine List.mem_filter.mpr ⟨member, ?_⟩
    rw [← parts.identity]
    simpa using ⟨by simpa using unrelated, other⟩
  have scalar : (property.name, Expr.ofType (propertyType registry.entityNames property)) ∈
      table.scalars.map fun column => (column.name, column.type) := by
    rw [columns]
    exact List.mem_map_of_mem kept
  obtain ⟨column, listed, same⟩ := List.mem_map.mp scalar
  obtain ⟨named, typed⟩ := Prod.mk.inj same
  have present : (property.name, some (Expr.ofType (propertyType registry.entityNames property))) ∈
      table.columns.reverse.map fun column => (column.name, some column.type) := by
    rw [← named, ← typed]
    refine List.mem_map_of_mem (List.mem_reverse.mpr ?_)
    exact List.mem_append_left _ (List.mem_append_left _ listed)
  have keys : ((table.columns.reverse.map fun column =>
      (column.name, some column.type)).map Prod.fst).Nodup := by
    rw [List.map_map, List.map_reverse, List.nodup_reverse]
    exact distinct
  rw [columnType?_of_unrelated parts unrelated, if_neg other,
    OrderedMap.lookup_of_mem keys present]
  rfl

theorem keepsType_identity_iff {identity : Identity} {entities : List String}
    (named : property.name = identity.name) :
    KeepsType (some (.name identity.type.serverName)) identity entities property ↔
      property.type.array = false ∧ identityType? property.type.name = some identity.type := by
  constructor
  · rintro (same | ⟨_, single, type, identifies, same⟩)
    · exact identityType?_of_ofType (Option.some.inj same).symm
    · have types := serverName_injective (Expr.name.inj (Option.some.inj same))
      exact ⟨single, types ▸ identifies⟩
  · rintro ⟨single, identifies⟩
    exact Or.inr ⟨named, single, _, identifies, rfl⟩

theorem Stages.keepsType_iff (stages : Stages registry entity properties relationships table)
    (parts : Tabulates registry entity properties relationships table)
    (distinct : (table.columns.map Column.name).Nodup) (member : property ∈ properties)
    (unrelated : property.name ∉ relationships.map Relationship.name) :
    KeepsType (table.columnType? property.name) table.identity registry.entityNames property ↔
      (property.name = table.identity.name → property.type.array = false ∧
        identityType? property.type.name = some table.identity.type) := by
  by_cases named : property.name = table.identity.name
  · rw [columnType?_of_unrelated parts unrelated, if_pos named, keepsType_identity_iff named,
      imp_iff_right named]
  · have kept := stages.columnType?_property parts distinct member unrelated named
    exact ⟨fun _ again => absurd again named, fun _ => Or.inl kept⟩

variable (identity : table.identity = Identity.of entity)

include identity

theorem identityType?_own_iff (checked : entity.Checked) (own : property ∈ entity.properties)
    (named : property.name = table.identity.name) :
    identityType? property.type.name = some table.identity.type ↔
      (identityType? property.type.name).isSome = true := by
  rw [identity] at named ⊢
  rw [Identity.of_eq_ofProperty checked own named, Identity.ofProperty]
  cases identityType? property.type.name <;> simp

theorem identity_of_flagged (checked : entity.Checked)
    (flagged : property ∈ flaggedIdentities entity.properties) :
    property.name = table.identity.name ∧ property.type.array = false ∧
      identityType? property.type.name = some table.identity.type := by
  obtain ⟨_, single, identifies⟩ := checked.identity property flagged
  have named : property.name = table.identity.name := by
    rw [identity, Identity.eq_name_iff checked]
    exact Or.inl ⟨property, flagged, rfl⟩
  have own : property ∈ entity.properties := (List.mem_filter.mp flagged).1
  exact ⟨named, single, (identityType?_own_iff identity checked own named).mpr identifies⟩

end Types

/-- The classes of a generated module declare the attributes of the table in their normal form, with
their types. -/
theorem TableSchema.typedOf_module {table : TableSchema} {module : Module}
    (written : ∀ column ∈ table.columns, ∃ type, column.type = .ofType type)
    (named : table.names.all isName = true) (made : table.module = .ok module) :
    module.typedOf (table.entity ++ "Base") ++ module.typedOf table.entity =
      table.typed.map fun entry => (identifier entry.1, entry.2) := by
  obtain ⟨same, success, base, own⟩ := module_classes named (identifier_entity named made)
  obtain rfl := Except.ok.inj (made.symm.trans success)
  have columns : module.typedOf (table.entity ++ "Base") =
      table.columns.map fun column => (identifier column.name, some column.type) := by
    rw [Module.typedOf, base]
    refine filterMap_orPass rfl fun column listed => ?_
    obtain ⟨type, same⟩ := written column listed
    have bare : column.type.withoutOptional = column.type := by
      rw [same, Expr.withoutOptional_ofType]
    unfold Column.declaration
    split
    · rfl
    · exact congrArg (fun type => some (identifier column.name, some type)) bare
  have others : module.typedOf table.entity =
      (identifier table.identity.name, some (.name table.identity.type.serverName)) ::
        table.relations.map fun relation => (identifier relation.name, none) := by
    have links : (table.relations.map (TableRelation.declaration identifier)).filterMap
        Statement.typed? = table.relations.map fun relation => (identifier relation.name, none) := by
      rw [List.filterMap_map, ← List.filterMap_eq_map]
      rfl
    rw [Module.typedOf, own]
    exact congrArg (_ :: ·) links
  rw [columns, others, typed, List.map_append, List.map_cons, List.map_map, List.map_map]
  rfl

private theorem lookup_normal {entries : List (String × Option Expr)} {name : String}
    (alone : ∀ entry ∈ entries, identifier entry.1 = name ↔ entry.1 = name) :
    (entries.map fun entry => (identifier entry.1, entry.2)).lookup name = entries.lookup name := by
  induction entries with
  | nil => rfl
  | cons entry entries ih =>
    obtain ⟨here, there⟩ := List.forall_mem_cons.mp alone
    rw [List.map_cons, List.lookup_cons, List.lookup_cons, ih there]
    by_cases same : name = entry.1
    · rw [beq_iff_eq.mpr same, beq_iff_eq.mpr (here.mpr same.symm).symm]
    · rw [beq_false_of_ne same, beq_false_of_ne fun formed => same (here.mp formed.symm).symm]

theorem TableSchema.columnType?_module {table : TableSchema} {module : Module}
    (written : ∀ column ∈ table.columns, ∃ type, column.type = .ofType type)
    (named : table.names.all isName = true) (made : table.module = .ok module) (name : String)
    (alone : ∀ other ∈ table.attributes, identifier other = name ↔ other = name) :
    module.columnType? table.entity name = table.columnType? name := by
  have names : table.typed.map Prod.fst = table.attributes := by
    simp [typed, attributes, Function.comp_def]
  rw [Module.columnType?, typedOf_module written named made, ← List.map_reverse, lookup_normal]
  · rfl
  · intro entry listed
    exact alone _ (names ▸ List.mem_map_of_mem (List.mem_reverse.mp listed))

/-- Where the schema of an entity is generated and all names of its table are names, an effective
property that is no relationship, and whose name is a normal form and that of no other attribute, keeps
its type iff, should it bear the name of the identity, it identifies records as the identity does; an
own property if it then identifies records at all, which a flagged one does. The identity, the one
column of the class itself, is the own property that is flagged, and if none is, it has the usual
name. -/
theorem columns_keep_types_iff {registry : Registry} {declared : Declared Entity}
    {schema : Produced} (vetted : registry.Vets declared) (named : Named registry declared.unit)
    (success : (generateSchema declared registry).outcome = .ok schema) :
    ∃ properties relationships table module text,
      Resolved registry declared.unit properties relationships ∧
      (tableSchema registry declared.unit).outcome = .ok table ∧ table.module = .ok module ∧
      module.render generatedHeader = .ok text ∧ schema = .text text ∧
      (∀ property ∈ properties, property.name ∉ relationships.map Relationship.name →
        KeepsName registry declared.unit properties relationships property →
        let keeps := KeepsType (module.columnType? declared.unit.name property.name)
          table.identity registry.entityNames property
        (keeps ↔
          (property.name = table.identity.name → property.type.array = false ∧
            identityType? property.type.name = some table.identity.type)) ∧
        (property ∈ declared.unit.properties →
          (keeps ↔
            (property.name = table.identity.name → property.type.array = false ∧
              (identityType? property.type.name).isSome = true))) ∧
        (property ∈ flaggedIdentities declared.unit.properties →
          property.name = table.identity.name ∧ keeps)) ∧
      module.columnsOf declared.unit.name = [identifier table.identity.name] ∧
      ∀ name, name = table.identity.name ↔
        (∃ property ∈ flaggedIdentities declared.unit.properties, property.name = name) ∨
          flaggedIdentities declared.unit.properties = [] ∧ name = "id" := by
  obtain ⟨properties, relationships, table, module, text, resolved, tabulated, parts, made,
    printed, given⟩ := exists_table_of_generateSchema success
  have checked := vetted.checked
  have stages := resolved.stages tabulated
  have distinct := parts.nodup_columns stages
    (nodup_effectiveProperties resolved.found checked.distinct)
  have allNames := named table tabulated
  refine ⟨properties, relationships, table, module, text, resolved, tabulated, made, printed, given,
    fun property member unrelated alone => ?_, ?_, fun name => ?_⟩
  · have held := TableSchema.columnType?_module stages.types allNames made _
      fun other listed => alone other ((parts.mem_attributes_iff resolved).mp listed)
    rw [parts.named] at held
    have kept := stages.keepsType_iff parts distinct member unrelated
    rw [← held] at kept
    refine ⟨kept, fun own => ?_, fun flagged => ?_⟩
    · rw [kept]
      exact forall_congr' fun named => and_congr_right fun _ =>
        identityType?_own_iff parts.identity checked own named
    · obtain ⟨named, fits⟩ := identity_of_flagged parts.identity checked flagged
      exact ⟨named, kept.mpr fun _ => fits⟩
  · obtain ⟨same, again, _, identity⟩ := TableSchema.module_columns allNames
      (TableSchema.identifier_entity allNames made)
    cases made.symm.trans again
    rwa [parts.named] at identity
  · rw [parts.identity]
    exact Identity.eq_name_iff checked

/-- An entity that is identified by a text, with a date by a mixin. -/
def page : Entity :=
  { offset := 0, name := "Page", mixins := ["Dated"]
    properties := [{ plain "slug" ⟨"string", false⟩ with options := { id := some true } }] }

/-- An entity that has its identity by a mixin. -/
def sheet : Entity := { offset := 0, name := "Sheet", mixins := ["Keyed"] }

def sheets : Registry where
  units := Registry.declare none false 0
    (stored ++ [.mixin { offset := 0, name := "Dated", properties := [plain "day" ⟨"date", false⟩] },
      .mixin { offset := 0, name := "Keyed", properties := [plain "id" ⟨"string", false⟩] },
      .entity page, .entity sheet])
  distinct := by decide

private theorem checked_page : page.Checked where
  distinct := by decide
  identity := by
    have flagged : flaggedIdentities page.properties = page.properties := rfl
    rw [flagged]
    exact List.forall_mem_singleton.mpr ⟨rfl, rfl, by decide⟩

private theorem checked_sheet : sheet.Checked where
  distinct := by decide
  identity := by
    have unflagged : flaggedIdentities sheet.properties = [] := rfl
    rw [unflagged]
    exact List.forall_mem_nil _

theorem columns_keep_types_iff_sheets : ∃ schema properties table module,
    (generateSchema ⟨page, false, none, 4⟩ sheets).outcome = .ok schema ∧
    (effectiveProperties sheets (.entity page)).outcome = .ok properties ∧
    (tableSchema sheets page).outcome = .ok table ∧ table.module = .ok module ∧
    properties.map Property.name = ["slug", "day"] ∧ table.identity.name = "slug" ∧
    ∀ property ∈ properties,
      KeepsType (module.columnType? "Page" property.name) table.identity sheets.entityNames
        property := by
  obtain ⟨schema, success⟩ : ∃ schema,
      (generateSchema ⟨page, false, none, 4⟩ sheets).outcome = .ok schema :=
    generateSchema_of_plain rfl rfl (by decide +kernel)
  have named : Named sheets page := by
    intro table made
    cases made
    decide
  obtain ⟨properties, relationships, table, module, _, resolved, tabulated, made, _, _, keep, _⟩ :=
    columns_keep_types_iff (.inl checked_page) named success
  obtain ⟨rfl, rfl⟩ : properties = page.properties ++ [plain "day" ⟨"date", false⟩] ∧
      relationships = [] := resolved.unique ⟨rfl, rfl⟩
  have identity : table.identity = Identity.of page := by
    cases tabulated
    rfl
  have attributes (name : String) (listed : IsAttribute sheets page
      (page.properties ++ [plain "day" ⟨"date", false⟩]) [] name) : identifier name = name := by
    obtain ⟨_, _, other, _, _, again, tabled, parts, _⟩ := exists_table_of_generateSchema success
    obtain ⟨rfl, rfl⟩ := resolved.unique again
    have shown : other.attributes = ["day", "slug"] := by
      cases tabled
      rfl
    have normal : ∀ name ∈ ["day", "slug"], identifier name = name := by decide
    exact normal name (shown ▸ (parts.mem_attributes_iff resolved).mpr listed)
  have apart (property : Property) : KeepsName sheets page
      (page.properties ++ [plain "day" ⟨"date", false⟩]) [] property :=
    fun name listed => by rw [attributes name listed]
  refine ⟨schema, _, table, module, success, resolved.found, tabulated, made, rfl,
    by rw [identity]; rfl, ?_⟩
  refine List.forall_mem_cons.mpr ⟨?_, List.forall_mem_singleton.mpr ?_⟩
  · exact ((keep _ List.mem_cons_self List.not_mem_nil (apart _)).2.2 List.mem_cons_self).2
  · refine (keep _ (List.mem_cons_of_mem _ List.mem_cons_self) List.not_mem_nil (apart _)).1.mpr ?_
    rw [identity]
    decide

/-- The identity that the mixin provides is a text, but in the class it is a number. -/
theorem mixin_identity_loses_type_sheets : sheet.Checked ∧
    (∃ source, sheets.dataSourceFor sheet = .ok (some source)) ∧
    (∃ schema, (generateSchema ⟨sheet, false, none, 5⟩ sheets).outcome = .ok schema) ∧
    ∃ property table module,
      (effectiveProperties sheets (.entity sheet)).outcome = .ok [property] ∧
      property.name = "id" ∧ property.type = ⟨"string", false⟩ ∧
      (tableSchema sheets sheet).outcome = .ok table ∧ table.module = .ok module ∧
      module.columnType? "Sheet" "id" = some (.name "int") ∧
      ¬ KeepsType (module.columnType? "Sheet" "id") table.identity sheets.entityNames property := by
  obtain ⟨schema, success⟩ : ∃ schema,
      (generateSchema ⟨sheet, false, none, 5⟩ sheets).outcome = .ok schema :=
    generateSchema_of_plain rfl rfl (by decide +kernel)
  obtain ⟨_, _, table, module, _, resolved, tabulated, parts, made, _⟩ :=
    exists_table_of_generateSchema success
  have stages := resolved.stages tabulated
  have shown : table.names.all isName = true ∧ table.attributes = ["id"] ∧
      table.identity = Identity.of sheet ∧ table.columnType? "id" = some (.name "int") := by
    cases tabulated
    exact ⟨by decide, rfl, rfl, rfl⟩
  obtain ⟨named, attributes, identity, type⟩ := shown
  have held : module.columnType? "Sheet" "id" = some (.name "int") := by
    refine Eq.trans ?_ type
    have whole := TableSchema.columnType?_module stages.types named made "id"
    rw [parts.named, attributes] at whole
    exact whole (List.forall_mem_singleton.mpr (by decide))
  refine ⟨checked_sheet, ⟨_, rfl⟩, ⟨schema, success⟩, plain "id" ⟨"string", false⟩, table, module,
    rfl, rfl, rfl, tabulated, made, held, ?_⟩
  rw [held, identity, show Expr.name "int" = .name (Identity.of sheet).type.serverName by rfl,
    keepsType_identity_iff rfl]
  decide

end Blueprint.Server
