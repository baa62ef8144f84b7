import Blueprint.Proofs.NormalForm
import Blueprint.Proofs.Server.Tables
import Blueprint.Proofs.ServerCode.Editing

namespace Blueprint.ServerCode

/-- The name of the column that a statement of a class declares. -/
def Statement.column? : Statement → Option String
  | .annotate (.name name) _ _ (some (.call (.name "Field") _ _)) => some name
  | _ => none

theorem readModule_cases (text : String) :
    (∃ body, readModule text = .ok body) ∨ readModule text = .error .unreadableCode := by
  unfold readModule readWhole
  simp only
  split
  · split
    · exact Or.inr rfl
    · exact Or.inl ⟨_, rfl⟩
  · exact Or.inr rfl

namespace Module

/-- The columns that a class of a module declares. -/
def columnsOf (module : Module) (name : String) : List String :=
  match module.findClass? name with
  | some found => (classBody found).filterMap Statement.column?
  | none => []

/-- Lines that cannot be put in are the only reason why a module is not printed. -/
theorem renderLines_cases (bodies : List String) (lines : List (List Char)) :
    (∃ rendered, lines.mapM (renderLine bodies) = .ok rendered) ∨
      lines.mapM (renderLine bodies) = .error .outOfRange := by
  induction lines with
  | nil => exact Or.inl ⟨[], rfl⟩
  | cons line lines ih =>
    have here : (∃ rendered, renderLine bodies line = .ok rendered) ∨
        renderLine bodies line = .error .outOfRange := by
      unfold renderLine
      split
      · exact Or.inl ⟨_, rfl⟩
      · split
        · exact Or.inl ⟨_, rfl⟩
        · exact Or.inr rfl
    rw [List.mapM_cons]
    rcases here with ⟨first, printed⟩ | missing
    · rcases ih with ⟨rest, success⟩ | failed
      · simp only [printed, success, ok_bind]
        exact Or.inl ⟨_, rfl⟩
      · simp only [printed, failed, ok_bind, error_bind]
        exact Or.inr trivial
    · simp only [missing, error_bind]
      exact Or.inr trivial

theorem render_cases (module : Module) (header : String) :
    (∃ text, module.render header = .ok text) ∨ module.render header = .error .outOfRange := by
  unfold render
  rcases renderLines_cases module.bodies (Text.linesOf (moduleText module.body).toList) with
    ⟨lines, success⟩ | failed
  · rw [success]
    exact Or.inl ⟨_, rfl⟩
  · rw [failed]
    exact Or.inr rfl

end Module

end Blueprint.ServerCode

namespace Blueprint.Server.TableSchema

open ServerCode

/-- The class of the entity is not in the code of a table: the entity's name is not in normal form, so
the class has another name; or the code has to be read because not everything is a name, and the class
is not in what is read. -/
def HidesClass (table : TableSchema) : Prop :=
  table.names.all isName = true ∧ identifier table.entity ≠ table.entity ∨
    table.names.all isName = false ∧ ∃ body,
      readModule (moduleText (table.statements id)) = .ok body ∧
        ∀ statement ∈ body, statement.className? ≠ some table.entity

/-- The module of a table from the statements that its code amounts to. -/
def complete (table : TableSchema) (body : List Statement) : Except Failure Module := do
  let module : Module := { name := table.entity, body }
  let _ ← module.getClass table.entity
  return (Text.sortedSet (table.imports.map (·.1))).foldl (fun module source =>
    module.mergeImport source ((table.imports.filter (·.1 == source)).map (·.2))) module

/-- Statements become the module of a table if the class of its entity is among them. -/
theorem complete_cases (table : TableSchema) (body : List Statement) :
    ((∃ statement ∈ body, statement.className? = some table.entity) ∧
      ∃ module, table.complete body = .ok module ∧
        Module.SameClasses { name := table.entity, body } module) ∨
    (∀ statement ∈ body, statement.className? ≠ some table.entity) ∧
      table.complete body = .error (.missingDeclaration table.entity ("class " ++ table.entity)) := by
  simp only [complete, Module.getClass]
  cases sought : Module.findClass? { name := table.entity, body } table.entity with
  | some found =>
    refine Or.inl ⟨⟨found, List.mem_of_find?_eq_some sought, ?_⟩, _, rfl, ?_⟩
    · simpa using List.find?_some sought
    · exact Module.foldl_same (fun module source => Module.mergeImport_same module source _) _ _
  | none =>
    refine Or.inr ⟨?_, rfl⟩
    simpa [Module.findClass?] using sought

theorem module_of_names {table : TableSchema} (named : table.names.all isName = true) :
    table.module = table.complete (table.statements identifier) := by
  unfold module
  rw [if_pos named]
  rfl

theorem module_of_code {table : TableSchema} (unnamed : table.names.all isName = false) :
    table.module = readModule (moduleText (table.statements id)) >>= table.complete := by
  unfold module
  rw [if_neg (by simp [unnamed])]
  rfl

/-- The classes of a table whose entity is named in normal form: the columns stand in the base class,
the identity and the associations in the class of the entity. -/
theorem findClass?_statements {table : TableSchema}
    (normal : identifier table.entity = table.entity) :
    (Module.findClass? { name := table.entity, body := table.statements identifier }
        (table.entity ++ "Base") =
      some (.classDef (table.entity ++ "Base") [.name "SQLModel"] [] []
        (orPass (table.columns.map (Column.declaration identifier))))) ∧
    Module.findClass? { name := table.entity, body := table.statements identifier } table.entity =
      some (.classDef table.entity [.name (table.entity ++ "Base")]
        [.named "table" (.constant (.bool true))] []
        (.bind "__tablename__" (.str (tableName table.entity)) ::
          table.identityDeclaration identifier ::
          table.relations.map (TableRelation.declaration identifier))) := by
  have base : identifier (table.entity ++ "Base") = table.entity ++ "Base" := by
    rw [identifier_append (by decide), normal]
  simp [Module.findClass?, statements, Statement.className?, Statement.documentation,
    Statement.importing, base, normal]

private theorem className?_statements_ne {table : TableSchema}
    (other : identifier table.entity ≠ table.entity) :
    ∀ statement ∈ table.statements identifier, statement.className? ≠ some table.entity := by
  have base := identifier_append_ne table.entity "Base" (by decide) (by decide)
  have create := identifier_append_ne table.entity "Create" (by decide) (by decide)
  have update := identifier_append_ne table.entity "Update" (by decide) (by decide)
  simp [statements, Statement.className?, Statement.documentation, Statement.importing, other, base,
    create, update]

/-- What is read off the statements of columns, if nothing is read off a class that has none. -/
theorem filterMap_orPass {α : Type} {columns : List Column} {read : Statement → Option α}
    {shown : Column → α} (nothing : read .pass = none)
    (each : ∀ column ∈ columns, read (column.declaration identifier) = some (shown column)) :
    (orPass (columns.map (Column.declaration identifier))).filterMap read = columns.map shown := by
  cases columns with
  | nil => exact List.filterMap_cons_none nothing
  | cons column columns =>
    rw [orPass, if_neg (by simp), List.filterMap_map, ← List.filterMap_eq_map]
    exact List.filterMap_congr each

/-- If everything that has to be a name is one and the entity's name is in normal form, there is a
module, with the classes of the table's statements. -/
theorem module_classes {table : TableSchema} (named : table.names.all isName = true)
    (normal : identifier table.entity = table.entity) :
    ∃ module, table.module = .ok module ∧
      module.findClass? (table.entity ++ "Base") =
        some (.classDef (table.entity ++ "Base") [.name "SQLModel"] [] []
          (orPass (table.columns.map (Column.declaration identifier)))) ∧
      module.findClass? table.entity =
        some (.classDef table.entity [.name (table.entity ++ "Base")]
          [.named "table" (.constant (.bool true))] []
          (.bind "__tablename__" (.str (tableName table.entity)) ::
            table.identityDeclaration identifier ::
            table.relations.map (TableRelation.declaration identifier))) := by
  obtain ⟨base, own⟩ := findClass?_statements normal
  rw [module_of_names named]
  rcases complete_cases table (table.statements identifier) with
    ⟨_, module, success, same⟩ | ⟨absent, _⟩
  · exact ⟨module, success, (same.classes _).trans base, (same.classes _).trans own⟩
  · exact absurd rfl (absent _ (List.mem_of_find?_eq_some own))

private theorem module_misses_entity {table : TableSchema} (named : table.names.all isName = true)
    (other : identifier table.entity ≠ table.entity) :
    table.module = .error (.missingDeclaration table.entity ("class " ++ table.entity)) := by
  rw [module_of_names named]
  rcases complete_cases table (table.statements identifier) with ⟨⟨_, member, mine⟩, _⟩ | ⟨_, failed⟩
  · exact absurd mine (className?_statements_ne other _ member)
  · exact failed

theorem identifier_entity {table : TableSchema} {module : Module}
    (named : table.names.all isName = true) (success : table.module = .ok module) :
    identifier table.entity = table.entity := by
  by_contra other
  cases success.symm.trans (module_misses_entity named other)

private theorem relations_declare_nothing (relations : List TableRelation) :
    (relations.map (TableRelation.declaration identifier)).filterMap Statement.column? = [] := by
  rw [List.filterMap_map, List.filterMap_eq_nil_iff]
  intro relation _
  rfl

/-- If everything that has to be a name is one and the entity's name is in normal form, there is a
module: its base class declares the columns, and its class the identity, all in normal form. -/
theorem module_columns {table : TableSchema} (named : table.names.all isName = true)
    (normal : identifier table.entity = table.entity) :
    ∃ module, table.module = .ok module ∧
      module.columnsOf (table.entity ++ "Base") =
        table.columns.map (fun column => identifier column.name) ∧
      module.columnsOf table.entity = [identifier table.identity.name] := by
  obtain ⟨module, success, base, own⟩ := module_classes named normal
  refine ⟨module, success, ?_, ?_⟩
  · rw [Module.columnsOf, base]
    exact filterMap_orPass rfl fun _ _ => rfl
  · rw [Module.columnsOf, own]
    exact congrArg (identifier table.identity.name :: ·) (relations_declare_nothing table.relations)

/-- The module of a table fails by a design error exactly if its code hides the class. -/
theorem isDesign_module_iff {table : TableSchema} :
    (∃ failure, table.module = .error failure ∧ failure.isDesign = true) ↔ table.HidesClass := by
  cases named : table.names.all isName with
  | true =>
    by_cases normal : identifier table.entity = table.entity
    · obtain ⟨module, success, _⟩ := module_columns named normal
      simp [HidesClass, named, normal, success]
    · have failed := module_misses_entity named normal
      simp [HidesClass, named, normal, failed, Failure.isDesign]
  | false =>
    rw [HidesClass, module_of_code named]
    rcases readModule_cases (moduleText (table.statements id)) with ⟨body, read⟩ | unread
    · rw [read, ok_bind]
      rcases complete_cases table body with
        ⟨⟨statement, member, mine⟩, module, success, _⟩ | ⟨absent, failed⟩
      · have present : ¬ ∀ statement ∈ body, statement.className? ≠ some table.entity :=
          fun absent => absent statement member mine
        simpa [named, success] using present
      · simpa [named, failed, Failure.isDesign] using absent
    · simp [named, unread, Failure.isDesign]

end Blueprint.Server.TableSchema

namespace Blueprint.Server

open Design Generation ServerCode Relationship

/-- Everything that the table of an entity names is a name. -/
def Named (registry : Registry) (entity : Entity) : Prop :=
  ∀ table, (tableSchema registry entity).outcome = .ok table → table.names.all isName = true

/-- The schema of an entity is the printed module of its table. -/
theorem generateSchema_outcome (declared : Declared Entity) (registry : Registry) :
    (generateSchema declared registry).outcome = do
      let table ← (tableSchema registry declared.unit).outcome
      let module ← table.module
      let text ← module.render generatedHeader
      return .text text := by
  simp only [generateSchema, Step.outcome_bind, Step.outcome_ofExcept, Step.outcome_debug, ok_bind]
  rfl

/-- A schema that is generated comes from a table and from the properties and associations that the
table was made of. -/
theorem exists_table_of_generateSchema {registry : Registry} {declared : Declared Entity}
    {schema : Produced} (success : (generateSchema declared registry).outcome = .ok schema) :
    ∃ properties relationships table module text,
      Resolved registry declared.unit properties relationships ∧
      (tableSchema registry declared.unit).outcome = .ok table ∧
      Tabulates registry declared.unit properties relationships table ∧
      table.module = .ok module ∧ module.render generatedHeader = .ok text ∧
      schema = .text text := by
  rw [generateSchema_outcome] at success
  obtain ⟨table, tabulated, success⟩ := bind_eq_ok_iff.mp success
  obtain ⟨module, made, success⟩ := bind_eq_ok_iff.mp success
  obtain ⟨text, printed, given⟩ := bind_eq_ok_iff.mp success
  have ended := tableOutcome registry declared.unit
  rw [tabulated] at ended
  cases ended with
  | made resolved _ _ parts =>
    exact ⟨_, _, table, module, text, resolved, tabulated, parts, made, printed,
      (Except.ok.inj given).symm⟩

/-- A schema is generated from a module whose lines show that it can be printed. -/
theorem generateSchema_of_plain {registry : Registry} {declared : Declared Entity}
    {table : TableSchema} {module : Module}
    (tabulated : (tableSchema registry declared.unit).outcome = .ok table)
    (made : table.module = .ok module) (plain : Module.isPrintable (.ok module) = true) :
    ∃ schema, (generateSchema declared registry).outcome = .ok schema := by
  rw [← made] at plain
  obtain ⟨_, text, again, printed⟩ := Module.exists_text_of_isPrintable generatedHeader plain
  simp only [generateSchema_outcome, tabulated, again, printed, ok_bind]
  exact ⟨_, rfl⟩

/-- A mixin of an entity or what one of its associations names is missing, or two of its
associations share a key. -/
def FailsAlone (registry : Registry) (entity : Entity) : Prop :=
  (∃ failure, (effectiveProperties registry (.entity entity)).outcome = .error failure ∧
    failure.isDesign = true) ∨
  ∃ properties failure, (effectiveProperties registry (.entity entity)).outcome = .ok properties ∧
    (resolve registry entity properties).outcome = .error failure ∧ failure.isDesign = true

/-- All is well with an entity itself, but an entity with a property of its type cannot resolve its
own associations. -/
def FailsByReferrer (registry : Registry) (entity : Entity) : Prop :=
  ∃ properties relationships, Resolved registry entity properties relationships ∧
    ReadsDefaults (scalarProperties (Identity.of entity) relationships properties) ∧
    ∃ source ∈ registry.entities, Mentions source.unit entity ∧
      ∃ failure, (resolveOwn registry source.unit).outcome = .error failure

/-- The table of an entity fails by a design error exactly if the entity fails alone or by a
referrer. -/
theorem isDesign_tableSchema_iff (registry : Registry) (entity : Entity) :
    (∃ failure, (tableSchema registry entity).outcome = .error failure ∧
      failure.isDesign = true) ↔
      FailsAlone registry entity ∨ FailsByReferrer registry entity := by
  have ended := tableOutcome registry entity
  generalize (tableSchema registry entity).outcome = outcome at ended ⊢
  cases ended with
  | mixins failed =>
    have apart : ¬ FailsByReferrer registry entity := by
      rintro ⟨_, _, resolved, _⟩
      exact absurd (resolved.found.symm.trans failed) (by simp)
    simp [FailsAlone, failed, apart]
  | associations found failed =>
    have apart : ¬ FailsByReferrer registry entity := by
      rintro ⟨_, _, resolved, _⟩
      cases resolved.found.symm.trans found
      exact absurd (resolved.linked.symm.trans failed) (by simp)
    simp [FailsAlone, found, failed, apart]
  | defaults resolved unread kind =>
    have apart : ¬ FailsByReferrer registry entity := by
      rintro ⟨_, _, again, read, _⟩
      obtain ⟨rfl, rfl⟩ := resolved.unique again
      exact unread read
    simp [FailsAlone, resolved.found, resolved.linked, apart, kind.noDesign]
  | referrer resolved read member mentions failed =>
    constructor
    · rintro -
      exact Or.inr ⟨_, _, resolved, read, _, member, mentions, _, failed⟩
    · rintro -
      exact ⟨_, rfl, isDesign_of_resolve failed⟩
  | made resolved read all parts =>
    constructor
    · rintro ⟨failure, failed, _⟩
      cases failed
    · rintro (alone | ⟨_, _, _, _, source, member, mentions, failure, failed⟩)
      · simp [FailsAlone, resolved.found, resolved.linked] at alone
      · obtain ⟨own, success⟩ := all source member mentions
        rw [success] at failed
        cases failed

/-- The schema of an entity fails by a design error exactly if the entity fails alone, if it fails by
a referrer, or if its table is made and the class is not in its code. -/
theorem generateSchema_fails_iff (registry : Registry) (declared : Declared Entity) :
    (∃ failure, (generateSchema declared registry).outcome = .error failure ∧
      failure.isDesign = true) ↔
      FailsAlone registry declared.unit ∨ FailsByReferrer registry declared.unit ∨
        ∃ table, (tableSchema registry declared.unit).outcome = .ok table ∧ table.HidesClass := by
  rw [← or_assoc, ← isDesign_tableSchema_iff, generateSchema_outcome]
  cases tabulated : (tableSchema registry declared.unit).outcome with
  | error failure => simp
  | ok table =>
    have hidden := table.isDesign_module_iff
    cases made : table.module with
    | error failure =>
      rw [made] at hidden
      simpa [made] using hidden
    | ok module =>
      rw [made] at hidden
      have shown : ¬ table.HidesClass := by simpa using hidden
      rcases module.render_cases generatedHeader with ⟨text, printed⟩ | failed
      · simp [made, printed, shown]
      · simp [made, failed, shown, Failure.isDesign]

def customer : Entity :=
  { offset := 0, name := "Customer", properties := [plain "name" ⟨"string", false⟩] }

/-- An entity with a property of a declared type and one of a type that nobody declares. -/
def stray : Entity :=
  { offset := 0, name := "Stray"
    properties := [plain "customer" ⟨"Customer", false⟩, plain "thing" ⟨"Missing", false⟩] }

def strays : Registry where
  units := Registry.declare none false 0 (stored ++ [.entity customer, .entity stray])
  distinct := by decide

/-- A stored entity with nothing missing has no schema because of what an entity that mentions it
lacks. -/
theorem missing_type_fails_mentioned_schema :
    (∃ source, strays.dataSourceFor customer = .ok (some source)) ∧
      ¬ FailsAlone strays customer ∧ ∃ failure,
        (generateSchema ⟨customer, false, none, 2⟩ strays).outcome = .error failure ∧
        failure.isDesign = true ∧
        failure.message = "Entity 'Missing' not found (referenced by 'Stray.thing')." := by
  have found : (effectiveProperties strays (.entity customer)).outcome = .ok customer.properties :=
    rfl
  have linked : (resolve strays customer customer.properties).outcome = .ok [] := rfl
  refine ⟨⟨_, rfl⟩, ?_, .unitNotFound .entity "Missing" (some "Stray.thing"), rfl, rfl, ?_⟩
  · simp [FailsAlone, found, linked]
  · decide

end Blueprint.Server
