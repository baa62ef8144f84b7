import Blueprint.Proofs.Design.Names
import Blueprint.Proofs.Generation.HeldFiles
import Blueprint.Proofs.Generation.ModulePaths

namespace Blueprint.Generation

open Design
open Text (Spelled)

/-- The packages of the server whose modules are generated. -/
def generatedPackages : List String :=
  ["app.schemas", "app.business_objects", "app.data_sources", "app.routes", "app.app_behaviors"]

/-- A module that is meant to be generated: it is of such a package, or its specifier is relative. -/
def isGenerated (module : String) : Bool :=
  module.toList.head? == some '.' || generatedPackages.any fun package =>
    (Text.after? package.toList module.toList).any fun rest =>
      rest.isEmpty || rest.head? == some '.'

/-- The files that a module may be, as the file at a path names it. -/
def importFiles (path module : String) : List String :=
  if module.toList.head? == some '.' then clientFiles path module else serverFiles module

/-- A file that is imported although it is not generated, or although it is generated under another
name: what is imported is the normal form of a name, and files keep names as they are written. -/
inductive Gap (registry : Registry) : String → Prop where
  | dataSource {source : Declared DataSource} (declared : source ∈ registry.dataSources)
      (unkept : source.unit.persistenceType = "") :
      Gap registry (Server.dataSourcePath source.unit.name)
  | sourceForm {source : Declared DataSource} (declared : source ∈ registry.dataSources)
      (other : ServerCode.identifier (snakeCase source.unit.name) ≠ snakeCase source.unit.name)
      {file : String} (listed : file ∈ serverFiles
        ("app.data_sources." ++ ServerCode.identifier (snakeCase source.unit.name))) :
      Gap registry file
  | behaviorForm {behavior : Declared Behavior} (declared : behavior ∈ registry.behaviors)
      (other : ServerCode.identifier (Server.appBehaviorModule behavior.unit.name) ≠
        Server.appBehaviorModule behavior.unit.name)
      {file : String} (listed : file ∈ serverFiles
        ("app.app_behaviors." ++
          ServerCode.identifier (Server.appBehaviorModule behavior.unit.name))) :
      Gap registry file
  | object {entity : Declared Entity} (declared : entity ∈ registry.entities)
      (isLibrary : entity.isLibrary = true) :
      Gap registry (Client.businessObjectPath entity.unit.name)
  | form {entity : Declared Entity} (declared : entity ∈ registry.entities)
      (isLibrary : entity.isLibrary = true) : Gap registry (Client.formGroupPath entity.unit.name)
  | root {component : Declared Component} (declared : component ∈ registry.components)
      (isRoot : ViewName.isAppComponent component.unit.name = true) :
      Gap registry (componentFile component.unit.name)

/-- A module is a file of the run, or a gap. -/
def Resolves (registry : Registry) (outcome : RunResult) (path module : String) : Prop :=
  ∃ file ∈ importFiles path module, outcome.Holds file ∨ Gap registry file

section Server

open Server

variable {registry : Registry} {targets : List String} {outcome : RunResult} {path : String}

private theorem importFiles_package {package : String} (front : package.toList.head? = some 'a')
    (path name : String) : importFiles path (package ++ name) = serverFiles (package ++ name) := by
  have head : (package ++ name).toList.head? = some 'a' := by
    rw [String.toList_append, List.head?_append, front]
    rfl
  rw [importFiles, head, if_neg (by decide)]

private theorem resolves_gap {package name : String} (front : package.toList.head? = some 'a')
    (gap : ∀ {file : String}, file ∈ serverFiles (package ++ name) → Gap registry file) :
    Resolves registry outcome path (package ++ name) := by
  obtain ⟨file, listed⟩ : ∃ file, file ∈ serverFiles (package ++ name) := ⟨_, List.mem_cons_self⟩
  refine ⟨file, ?_, Or.inr (gap listed)⟩
  rwa [importFiles_package front]

theorem resolves_server (package directory : String) (front : package.toList.head? = some 'a')
    (same : "server/" ++ String.ofList (dotsToSlashes package.toList) = directory) {name : String}
    (there : outcome.Holds (directory ++ snakeCase name ++ ".py") ∨
      Gap registry (directory ++ snakeCase name ++ ".py")) :
    Resolves registry outcome path (package ++ snakeCase name) := by
  refine ⟨directory ++ snakeCase name ++ ".py", ?_, there⟩
  rw [importFiles_package front]
  exact mem_serverFiles same name

/-- A data source that an entity of the main design is stored in gets a module. -/
theorem used_of_served {entity : Declared Entity} {store : Declared DataSource}
    (served : Served registry entity store) : store ∈ usedDataSources registry := by
  have stored := served.stored
  unfold Registry.dataSourceFor at stored
  simp only at stored
  split at stored
  · cases stored
  · split at stored
    · rename_i found
      cases stored
      have named := List.find?_some found
      rw [beq_iff_eq] at named
      refine List.mem_filter.mpr ⟨List.mem_of_find?_eq_some found, ?_⟩
      rw [usedByServer, Bool.or_eq_true, List.any_eq_true]
      refine Or.inr ⟨entity, List.mem_filter.mpr ⟨served.declared, ?_⟩, by rw [served.isMain]; rfl⟩
      rw [named]
      exact beq_self_eq_true _
    · cases stored

theorem exists_served {entity : Declared Entity} (declared : entity ∈ registry.entities)
    (isMain : entity.isLibrary = false) {source : Declared DataSource}
    (kept : source ∈ registry.dataSources) (some : source.unit.name ≠ "")
    (named : registry.dataSourceName entity.unit = source.unit.name) :
    ∃ store, Served registry entity store := by
  have found : (registry.dataSources.find? (·.unit.name == source.unit.name)).isSome = true :=
    List.find?_isSome.mpr ⟨source, kept, beq_self_eq_true _⟩
  obtain ⟨store, found⟩ := Option.isSome_iff_exists.mp found
  refine ⟨store, declared, isMain, ?_⟩
  have nonempty : source.unit.name.isEmpty = false := by simpa [String.isEmpty_iff] using some
  simp only [Registry.dataSourceFor, named, nonempty, found, Bool.false_eq_true, ↓reduceIte]

theorem served_of_serverEntity (wellNamed : WellNamed registry) {entity : Declared Entity}
    (listed : entity ∈ registry.serverEntities) : ∃ store, Served registry entity store := by
  obtain ⟨declared, accepted⟩ := List.mem_filter.mp listed
  rw [Bool.and_eq_true, Bool.not_eq_true'] at accepted
  obtain ⟨unit, found⟩ := Option.isSome_iff_exists.mp accepted.2
  have same := List.find?_some found
  rw [Bool.and_eq_true, beq_iff_eq, beq_iff_eq] at same
  obtain ⟨source, shown⟩ : ∃ source, unit.unit.dataSource? = some source := by
    have kind := same.1
    unfold Declared.kind at kind
    cases shape : unit.unit <;> simp_all [Unit.kind, Unit.dataSource?]
  have kept := mem_list (List.mem_of_find?_eq_some found) shown
  have some := (wellNamed.of_listed kept fun _ => name_of_dataSource?).1
  refine exists_served declared accepted.1 kept some ?_
  rw [← same.2, name_of_dataSource? shown]
  rfl

section Modules

variable (completes : Completes registry targets outcome)

include completes

theorem resolves_dataSource {store : Declared DataSource} (used : store ∈ usedDataSources registry) :
    Resolves registry outcome path
      ("app.data_sources." ++ ServerCode.identifier (snakeCase store.unit.name)) := by
  have declared := (List.mem_filter.mp used).1
  by_cases normal : ServerCode.identifier (snakeCase store.unit.name) = snakeCase store.unit.name
  · rw [normal]
    refine resolves_server "app.data_sources." "server/app/data_sources/" (by decide)
      (by decide) ?_
    by_cases kept : store.unit.persistenceType = ""
    · exact Or.inr (.dataSource declared kept)
    · exact Or.inl (completes.holds_dataSource used kept)
  · exact resolves_gap (by decide) (Gap.sourceForm declared normal)

variable {entity : Declared Entity} {store : Declared DataSource}

theorem identifier_served (served : Served registry entity store) :
    ServerCode.identifier (routeModule entity.unit.name) = routeModule entity.unit.name ∧
      ServerCode.identifier (snakeCase entity.unit.name) = snakeCase entity.unit.name := by
  obtain ⟨⟨_, built⟩, _⟩ := completes.holds_route served
  exact Router.identifier_of_router built

private theorem resolves_object (served : Served registry entity store) :
    Resolves registry outcome path (Server.businessObjectModule entity.unit.name) := by
  have normal := (identifier_served completes served).2
  have resolves : Resolves registry outcome path
      ("app.business_objects." ++ snakeCase entity.unit.name) :=
    resolves_server "app.business_objects." "server/app/business_objects/" (by decide)
      (by decide) (Or.inl (completes.holds_businessObject served))
  rwa [← normal] at resolves

private theorem resolves_schema (served : Served registry entity store) :
    Resolves registry outcome path ("app.schemas." ++ snakeCase entity.unit.name) :=
  resolves_server "app.schemas." "server/app/schemas/" (by decide) (by decide)
    (Or.inl (completes.holds_schema served))

private theorem resolves_route (served : Served registry entity store) :
    Resolves registry outcome path
      ("app.routes" ++ "." ++ ServerCode.identifier (routeModule entity.unit.name)) := by
  rw [(identifier_served completes served).1, show "app.routes" ++ "." = "app.routes." by decide]
  exact resolves_server "app.routes." "server/app/routes/" (by decide) (by decide)
    (Or.inl (completes.holds_route served).2)

theorem resolves_appBehavior {type : BehaviorType} {active : ActiveBehavior}
    (listed : active ∈ projectBehaviors registry type) :
    Resolves registry outcome path
      ("app.app_behaviors." ++ ServerCode.identifier (appBehaviorModule active.name)) := by
  obtain ⟨behavior, declared, isActive⟩ := List.mem_filterMap.mp (List.mem_filter.mp listed).1
  have named : active.name = behavior.unit.name := by
    unfold projectBehavior? at isActive
    split at isActive
    · split at isActive
      · cases isActive
        rfl
      · cases isActive
    · cases isActive
  rw [named]
  by_cases normal : ServerCode.identifier (appBehaviorModule behavior.unit.name) =
      appBehaviorModule behavior.unit.name
  · rw [normal]
    exact resolves_server "app.app_behaviors." "server/app/app_behaviors/" (by decide)
      (by decide) (Or.inl (completes.holds_appBehavior declared isActive))
  · exact resolves_gap (by decide) (Gap.behaviorForm declared normal)

end Modules

section Lines

/-- Whether letters may start a generated module: a dot, or those that the packages have in common and
the next of one of them. -/
def isLead (letters : List Char) : Bool :=
  letters.head? == some '.' ||
    ['a', 'p', 'p', '.'].isPrefixOf letters && letters[4]?.any ['s', 'b', 'd', 'r', 'a'].contains

theorem isLead_of_isGenerated {letters : List Char}
    (generated : isGenerated (String.ofList letters) = true) : isLead letters = true := by
  rw [isGenerated, String.toList_ofList, Bool.or_eq_true, List.any_eq_true] at generated
  rcases generated with dot | ⟨package, listed, inside⟩
  · rw [isLead, dot, Bool.true_or]
  · obtain ⟨rest, found, _⟩ := (Option.any_eq_true _ _).mp inside
    rw [Text.eq_append_of_after? found]
    simp only [generatedPackages, List.mem_cons, List.not_mem_nil, or_false] at listed
    rcases listed with rfl | rfl | rfl | rfl | rfl <;> simp [isLead]

/-- A module that is one of some that are not generated. -/
theorem not_generated {words : List (List Char)} {fixed : List String} (spelled : Spelled words fixed)
    (other : words.all (!isLead ·) = true) {module : String} (listed : module ∈ fixed) :
    ¬isGenerated module = true := by
  intro generated
  obtain ⟨letters, inside, rfl⟩ := spelled.exists_letters listed
  have lead := List.all_eq_true.mp other letters inside
  rw [isLead_of_isGenerated generated] at lead
  cases lead

/-- The letters of the module from which a line of server code imports, by the letters of the line. -/
def moduleLetters? (letters : List Char) : Option (List Char) :=
  ((Text.after? "from ".toList letters).or (Text.after? "import ".toList letters)).map
    fun rest => rest.takeWhile (· != ' ')

private theorem serverModule?_ofList (letters : List Char) :
    serverModule? (String.ofList letters) = (moduleLetters? letters).map String.ofList := by
  simp only [serverModule?, moduleLetters?, String.toList_ofList, Option.map_map, Function.comp_def]

private theorem serverModule?_written {line : String} {letters : List Char}
    (same : line = String.ofList letters) :
    serverModule? line = (moduleLetters? letters).map String.ofList := by
  rw [same, serverModule?_ofList]

/-- A line that starts with another letter than an import does imports nothing. -/
private theorem serverModule?_of_head {line : String}
    (quiet : line.toList.head? ≠ some 'f' ∧ line.toList.head? ≠ some 'i') :
    serverModule? line = none := by
  refine Option.eq_none_iff_forall_ne_some.mpr fun module read => ?_
  obtain ⟨rest, found, _⟩ := Option.map_eq_some_iff.mp read
  rcases Option.or_eq_some_iff.mp found with found | ⟨_, found⟩
  · exact quiet.1 (by rw [Text.eq_append_of_after? found]; rfl)
  · exact quiet.2 (by rw [Text.eq_append_of_after? found]; rfl)

private theorem serverModule?_from {module rest : String} (unbroken : ' ' ∉ module.toList) :
    serverModule? ("from " ++ module ++ (" import " ++ rest)) = some module := by
  have line : ("from " ++ module ++ (" import " ++ rest)).toList =
      "from ".toList ++ (module.toList ++ ' ' :: ("import " ++ rest).toList) := by
    simp
  have whole : ∀ c ∈ module.toList, (c != ' ') = true := by
    intro c listed
    rw [bne_iff_ne]
    exact fun same => unbroken (same ▸ listed)
  rw [serverModule?, line, Text.after?_append, Option.some_or, Option.map_some,
    List.takeWhile_append_of_pos whole, List.takeWhile_cons_of_neg (by simp), List.append_nil,
    String.ofList_toList]

private theorem serverModule?_table (entity : Entity) :
    serverModule? ("from app.schemas." ++ snakeCase entity.name ++ " import " ++ entity.name) =
      some ("app.schemas." ++ snakeCase entity.name) := by
  have unbroken : ' ' ∉ ("app.schemas." ++ snakeCase entity.name).toList := by
    simpa using blank_not_mem_snakeCase entity.name
  have line : "from app.schemas." ++ snakeCase entity.name ++ " import " ++ entity.name =
      "from " ++ ("app.schemas." ++ snakeCase entity.name) ++ (" import " ++ entity.name) := by
    simp [← String.toList_inj]
  rw [line, serverModule?_from unbroken]

/-- The module of a data source imports the settings, its base and the tables of its entities. -/
theorem modules_dataSourceLines (source : DataSource) (entities : List Entity) :
    (Code.serverLines (generatedHeader :: dataSourceLines source entities)).modules =
      ["app.core.config", "app.core.persistence"] ++
        entities.map fun entity => "app.schemas." ++ snakeCase entity.name := by
  have quiet (lines : List String)
      (other : ∀ line ∈ lines, line.toList.head? ≠ some 'f' ∧ line.toList.head? ≠ some 'i') :
      lines.filterMap serverModule? = [] :=
    List.filterMap_eq_nil_iff.mpr fun line listed => serverModule?_of_head (other line listed)
  have entries (value : Entity → String) :
      (entities.map fun entity => "        " ++ Text.quoted entity.name ++ ": " ++ value entity ++
        ",").filterMap serverModule? = [] := by
    refine quiet _ (List.forall_mem_map.mpr fun entity _ => ?_)
    rw [head?_sourceEntry]
    decide
  have tables : (entities.map fun entity =>
      "from app.schemas." ++ snakeCase entity.name ++ " import " ++ entity.name).filterMap
        serverModule? = entities.map fun entity => "app.schemas." ++ snakeCase entity.name := by
    rw [List.filterMap_map, ← List.filterMap_eq_map]
    refine List.filterMap_congr fun entity _ => ?_
    rw [Function.comp_apply, serverModule?_table, Function.comp_apply]
  have front : [generatedHeader, "\"\"\"" ++ source.name ++ " data source (" ++
      source.persistenceType ++ ").\"\"\"", "", "from app.core.config import settings",
      "from app.core.persistence import create_data_source"].filterMap serverModule? =
        ["app.core.config", "app.core.persistence"] := by
    have header : serverModule? generatedHeader = none := by
      refine serverModule?_of_head ?_
      rw [generatedHeader]
      simp (disch := rfl) only [Text.toList_of_eq, List.head?_cons]
      decide
    have documented : serverModule? ("\"\"\"" ++ source.name ++ " data source (" ++
        source.persistenceType ++ ").\"\"\"") = none :=
      serverModule?_of_head (by rw [head?_sourceHeading]; decide)
    have settings : serverModule? "from app.core.config import settings" = some "app.core.config" :=
      serverModule?_written rfl
    have base : serverModule? "from app.core.persistence import create_data_source" =
        some "app.core.persistence" := serverModule?_written rfl
    rw [List.filterMap_cons_none header, List.filterMap_cons_none documented,
      List.filterMap_cons_none (serverModule?_of_head (by decide)),
      List.filterMap_cons_some settings, List.filterMap_cons_some base, List.filterMap_nil]
  delta dataSourceLines
  rw [Code.modules]
  simp only [← List.cons_append, List.filterMap_append, front, tables, entries]
  rw [quiet ["", _, _, _, _, _] ?call, quiet ["    \x7d,", _] (by decide),
    quiet ["    \x7d,", _, _, _] ?ending]
  · simp only [List.append_nil]
  all_goals
    simp (disch := rfl) only [List.forall_mem_cons, String.toList_append, Text.toList_of_eq,
      List.append_assoc, List.cons_append, List.head?_cons]
    simp

end Lines

section Closed

/-- What the code at a path imports from what is generated is asked for, a file of the run, or a
gap. -/
def Closed (registry : Registry) (outcome : RunResult) (path : String) (code : Code)
    (asked : String → Prop) : Prop :=
  ∀ module ∈ code.modules, isGenerated module = true →
    asked module ∨ Resolves registry outcome path module

theorem closed_schema {entity : Entity} {table : TableSchema} {module : ServerCode.Module}
    (tabulated : (tableSchema registry entity).outcome = .ok table)
    (made : table.module = .ok module) :
    Closed registry outcome path (.tree module)
      fun _ => table.names.all ServerCode.isName = false := by
  intro name named generated
  cases isNamed : table.names.all ServerCode.isName with
  | false => exact Or.inl rfl
  | true =>
    have fixed := tableModule_modules tabulated isNamed made named
    exact absurd generated (not_generated (.cons (.cons (.cons (.cons .nil)))) rfl fixed)

/-- Lines from which no generated module is imported, by their letters. -/
def Quiet (lines : List String) : Prop :=
  ∃ words, Spelled words lines ∧
    (words.all fun letters => (moduleLetters? letters).all (!isLead ·)) = true

theorem quiet_of_runtime {lines : List String} {file : String}
    (listed : (file, lines) ∈ runtimeLines) : Quiet lines := by
  rcases List.mem_append.mp listed with empty | listed
  · obtain ⟨_, _, same⟩ := List.mem_map.mp empty
    cases same
    exact ⟨[], .nil, rfl⟩
  · simp only [List.mem_cons, List.not_mem_nil, or_false, Prod.mk.injEq] at listed
    rcases listed with ⟨_, rfl⟩ | ⟨_, rfl⟩ | ⟨_, rfl⟩ | ⟨_, rfl⟩
    all_goals
      apply Exists.intro
      apply And.intro
      · dsimp only [Runtime.settingsModule, Runtime.errorsModule, Runtime.loggingModule,
          Runtime.persistenceModule]
        repeat' constructor
      · decide

theorem closed_runtime {lines : List String} {file : String} (listed : (file, lines) ∈ runtimeLines) :
    Closed registry outcome path (.serverLines lines) fun _ => False := by
  intro module named generated
  obtain ⟨line, written, read⟩ := List.mem_filterMap.mp named
  obtain ⟨words, spelled, quiet⟩ := quiet_of_runtime listed
  obtain ⟨letters, inside, rfl⟩ := spelled.exists_letters written
  rw [serverModule?_ofList, Option.map_eq_some_iff] at read
  obtain ⟨name, read, rfl⟩ := read
  have other := List.all_eq_true.mp quiet letters inside
  rw [read, Option.all_some, isLead_of_isGenerated generated] at other
  cases other

variable (completes : Completes registry targets outcome)

include completes

theorem closed_businessObject {entity : Declared Entity} {store : Declared DataSource}
    {module : ServerCode.Module} (served : Served registry entity store)
    (built : (businessObject registry entity.unit store.unit.name).outcome = .ok module) :
    Closed registry outcome path (.tree module) fun name =>
      ∃ behaviors, (ActiveBehavior.ofEntity registry entity.unit).outcome = .ok behaviors ∧
        AuthorModule behaviors name := by
  intro name named generated
  rcases businessObject_modules built named with fixed | rfl | asked
  · exact absurd generated (not_generated (.cons (.cons .nil)) rfl fixed)
  · exact Or.inr (resolves_dataSource completes (used_of_served served))
  · exact Or.inl asked

theorem closed_router {entity : Declared Entity} {store : Declared DataSource}
    {module : ServerCode.Module} (served : Served registry entity store)
    (built : (router registry entity.unit).outcome = .ok module) :
    Closed registry outcome path (.tree module) fun _ => False := by
  intro name named generated
  rcases router_modules built named with fixed | rfl | rfl
  · exact absurd generated (not_generated (.cons (.cons (.cons .nil))) rfl fixed)
  · exact Or.inr (resolves_object completes served)
  · rw [(identifier_served completes served).2]
    exact Or.inr (resolves_schema completes served)

theorem closed_dataSource (wellNamed : WellNamed registry) {source : Declared DataSource}
    (declared : source ∈ registry.dataSources) :
    Closed registry outcome path (.serverLines (generatedHeader :: dataSourceLines source.unit
      (storedEntities registry source.unit))) fun _ => False := by
  intro name named generated
  rw [modules_dataSourceLines, List.mem_append] at named
  rcases named with fixed | table
  · exact absurd generated (not_generated (.cons (.cons .nil)) rfl fixed)
  · obtain ⟨_, stored, rfl⟩ := List.mem_map.mp table
    obtain ⟨entity, kept, rfl⟩ := List.mem_map.mp stored
    obtain ⟨listed, isMain⟩ := List.mem_filter.mp kept
    obtain ⟨listed, same⟩ := List.mem_filter.mp listed
    have some := (wellNamed.of_listed declared fun _ => name_of_dataSource?).1
    obtain ⟨_, served⟩ := exists_served listed (by simpa using isMain) declared some
      (by simpa using same)
    exact Or.inr (resolves_schema completes served)

omit completes in
theorem closed_appBehavior {active : ActiveBehavior} {module : ServerCode.Module}
    (built : (appBehavior registry active).outcome = .ok module) :
    Closed registry outcome path (.tree module) fun name =>
      AuthorModule [active] name ∨ ∃ used, usedBusinessObjects active none = .ok used ∧
        name ∈ used.map Server.businessObjectModule := by
  intro name named generated
  rcases appBehavior_modules built named with fixed | asked
  · exact absurd generated (not_generated (.cons (.cons .nil)) rfl fixed)
  · exact Or.inl asked

theorem closed_routesIndex (wellNamed : WellNamed registry) {module : ServerCode.Module}
    (made : routesIndex (entityRouters registry ++ appRouters registry) = .ok module) :
    Closed registry outcome path (.tree module) fun _ => False := by
  intro name named generated
  right
  rcases routesIndex_modules made named with rfl | listed
  · exact absurd generated (by decide)
  · rw [List.map_append, List.mem_append] at listed
    simp only [entityRouters, appRouters, List.map_map, List.mem_map, Function.comp_apply] at listed
    rcases listed with ⟨entity, kept, rfl⟩ | ⟨active, kept, rfl⟩
    · obtain ⟨_, served⟩ := served_of_serverEntity wellNamed kept
      exact resolves_route completes served
    · rw [show "app.app_behaviors" ++ "." = "app.app_behaviors." by decide]
      exact resolves_appBehavior completes kept

theorem closed_startup (main : registry.mainProject?.isSome = true) {module : ServerCode.Module}
    (made : Startup.module registry.projectName (connectedSources registry)
      (projectBehaviors registry .afterStart) = .ok module) :
    Closed registry outcome path (.tree module) fun _ => False := by
  intro name named generated
  right
  rcases startup_modules made named with fixed | rfl | source | behavior
  · exact absurd generated (not_generated (.cons (.cons (.cons (.cons (.cons (.cons (.cons (.cons .nil)))))))) rfl fixed)
  · refine ⟨"server/app/routes/__init__.py", ?_, Or.inl (completes.holds_routesIndex main)⟩
    exact List.mem_cons_of_mem _ (List.mem_singleton.mpr (by decide))
  · obtain ⟨_, listed, rfl⟩ := List.mem_map.mp source
    obtain ⟨store, connected, rfl⟩ := List.mem_map.mp listed
    exact resolves_dataSource completes (List.mem_filter.mp connected).1
  · obtain ⟨active, listed, rfl⟩ := List.mem_map.mp behavior
    exact resolves_appBehavior completes listed

end Closed

end Server

end Blueprint.Generation
