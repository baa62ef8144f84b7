import Blueprint.Generators
import Blueprint.Proofs.Client.EntityImports
import Blueprint.Proofs.Client.ViewImports
import Blueprint.Proofs.Generation.Completion
import Blueprint.Proofs.Registry
import Blueprint.Proofs.Server.ModuleImports

namespace Blueprint.Generation

open Design

/-- A file of code, by its ending. -/
def isCode (path : String) : Bool :=
  match path.toList.reverse with
  | 'y' :: 'p' :: '.' :: _ => true
  | 's' :: 't' :: '.' :: _ => true
  | _ => false

/-- A route that loads its page once it is opened. -/
structure LazyRoute where
  path : String
  module : String
  className : String

def LazyRoute.text (route : LazyRoute) : String :=
  ClientCode.objectText 1 [
    ("path", ClientCode.quoted route.path),
    ("loadComponent", "() => import('" ++ route.module ++ "').then((m) => m." ++ route.className ++
      ")"),
    ("pathMatch", ClientCode.quoted "full")]

/-- The code of a file. -/
inductive Code where
  | tree (module : ServerCode.Module)
  | source (source : ClientCode.Source)
  | serverLines (lines : List String)
  | clientLines (lines : List String)
  | routes (redirects : List String) (routes : List LazyRoute)

/-- The module that a line of server code imports. -/
def serverModule? (line : String) : Option String :=
  ((Text.after? "from ".toList line.toList).or (Text.after? "import ".toList line.toList)).map
    fun rest => String.ofList (rest.takeWhile (· != ' '))

/-- The specifier that ends a line of client code, if the line imports or gives on. -/
def specifier? (line : String) : Option String :=
  match (Text.after? "import ".toList line.toList).or (Text.after? "export ".toList line.toList),
    line.toList.reverse with
  | some _, ';' :: '\'' :: rest => some (String.ofList (rest.takeWhile (· != '\'')).reverse)
  | _, _ => none

namespace Code

/-- The text of a file. -/
def text : Code → Except Failure String
  | tree module => module.render Server.generatedHeader
  | source file => .ok file.render
  | serverLines lines => .ok (Text.unlines lines)
  | clientLines lines => .ok (Text.unlines lines)
  | routes redirects pages =>
    .ok ((ClientCode.Source.addImport { name := "app.routes" } "@angular/router"
      ["Routes"]).addStatement (Client.routesStatement (redirects ++ pages.map LazyRoute.text))).render

/-- The modules that a file imports. -/
def modules : Code → List String
  | tree module => module.modules
  | source file => file.modules
  | serverLines lines => lines.filterMap serverModule?
  | clientLines lines => lines.filterMap specifier?
  | routes _ pages => "@angular/router" :: pages.map LazyRoute.module

end Code

section DataSources

variable (name text : String)

theorem head?_sourceHeading :
    ("\"\"\"" ++ name ++ " data source (" ++ text ++ ").\"\"\"").toList.head? = some '"' := by
  simp (disch := rfl) only [String.toList_append, Text.toList_of_eq, List.append_assoc,
    List.cons_append, List.head?_cons]

theorem head?_tableImport :
    ("from app.schemas." ++ name ++ " import " ++ text).toList.head? = some 'f' := by
  simp (disch := rfl) only [String.toList_append, Text.toList_of_eq, List.append_assoc,
    List.cons_append, List.head?_cons]

theorem head?_sourceEntry :
    ("        " ++ Text.quoted name ++ ": " ++ text ++ ",").toList.head? = some ' ' := by
  simp (disch := rfl) only [String.toList_append, Text.toList_of_eq, List.append_assoc,
    List.cons_append, List.head?_cons]

end DataSources

/-- The modules of a server that do not depend on the design, by their paths. -/
def runtimeLines : List (String × List String) :=
  (Server.packages.map fun package => ("server/" ++ package ++ "/__init__.py", [])) ++
    [("server/app/core/config.py", Server.Runtime.settingsModule),
      ("server/app/core/errors.py", Server.Runtime.errorsModule),
      ("server/app/core/logging.py", Server.Runtime.loggingModule),
      ("server/app/core/persistence.py", Server.Runtime.persistenceModule)]

/-- The lines of the index of pages. -/
def indexLines (registry : Registry) : List String :=
  let pages := (registry.pages.map (·.unit)).mergeSort fun a b =>
    decide (ViewName.pageClass a.name ≤ ViewName.pageClass b.name)
  (if pages.isEmpty then ["export \x7b\x7d;"] else pages.map Client.pageExport) ++ [""]

/-- The route that loads a page. -/
def LazyRoute.of (page : Page) : LazyRoute where
  path := normalizeRoutePath page.path
  module := "./pages/" ++ ViewName.pageStem page.name ++ "/" ++ ViewName.pageStem page.name ++ ".page"
  className := ViewName.pageClass page.name

/-- The source file of a view. -/
def viewSource (view : Client.View) : ClientCode.Source :=
  { view.source with classes := [view.owner] }

/-- The entity has a data source and does not come from a library. -/
structure Served (registry : Registry) (entity : Declared Entity) (store : Declared DataSource) :
    Prop where
  declared : entity ∈ registry.entities
  isMain : entity.isLibrary = false
  stored : registry.dataSourceFor entity.unit = .ok (some store)

/-- The code at a path, with the modules for which authors ask there. A foreign key that is more than
a name may bring imports of its own into a table. -/
inductive Written (registry : Registry) : String → Code → (String → Prop) → Prop where
  | schema {entity : Declared Entity} {store : Declared DataSource} {table : Server.TableSchema}
      {module : ServerCode.Module} (served : Served registry entity store)
      (tabulated : (Server.tableSchema registry entity.unit).outcome = .ok table)
      (made : table.module = .ok module) :
      Written registry (Server.schemaPath entity.unit.name) (.tree module)
        fun _ => table.names.all ServerCode.isName = false
  | businessObject {entity : Declared Entity} {store : Declared DataSource} {module : ServerCode.Module}
      (served : Served registry entity store)
      (built : (Server.businessObject registry entity.unit store.unit.name).outcome = .ok module) :
      Written registry (Server.businessObjectPath entity.unit.name) (.tree module) fun name =>
        ∃ behaviors, (ActiveBehavior.ofEntity registry entity.unit).outcome = .ok behaviors ∧
          Server.AuthorModule behaviors name
  | router {entity : Declared Entity} {store : Declared DataSource} {module : ServerCode.Module}
      (served : Served registry entity store)
      (built : (Server.router registry entity.unit).outcome = .ok module) :
      Written registry (Server.routePath entity.unit.name) (.tree module) fun _ => False
  | dataSource {source : Declared DataSource} (declared : source ∈ registry.dataSources) :
      Written registry (Server.dataSourcePath source.unit.name)
        (.serverLines (Server.generatedHeader :: Server.dataSourceLines source.unit
          (Server.storedEntities registry source.unit))) fun _ => False
  | appBehavior {behavior : Declared Behavior} {active : ActiveBehavior}
      {module : ServerCode.Module} (declared : behavior ∈ registry.behaviors)
      (isActive : Server.projectBehavior? registry behavior = some active)
      (built : (Server.appBehavior registry active).outcome = .ok module) :
      Written registry (Server.appBehaviorPath behavior.unit.name) (.tree module) fun name =>
        Server.AuthorModule [active] name ∨ ∃ used, Server.usedBusinessObjects active none = .ok used ∧
          name ∈ used.map Server.businessObjectModule
  | routesIndex {module : ServerCode.Module}
      (made : Server.routesIndex (Server.entityRouters registry ++ Server.appRouters registry) =
        .ok module) :
      Written registry "server/app/routes/__init__.py" (.tree module) fun _ => False
  | startup {module : ServerCode.Module}
      (made : Server.Startup.module registry.projectName (Server.connectedSources registry)
        (Server.projectBehaviors registry .afterStart) = .ok module) :
      Written registry "server/app/main.py" (.tree module) fun _ => False
  | runtime {path : String} {lines : List String} (listed : (path, lines) ∈ runtimeLines) :
      Written registry path (.serverLines lines) fun _ => False
  | objectBase : Written registry (Client.businessObjectsDirectory ++ "/" ++ "base.ts")
      (.clientLines Client.Runtime.businessObjectBase) fun _ => False
  | formBase : Written registry (Client.businessObjectsDirectory ++ "/" ++ "persisted-form-group.ts")
      (.clientLines Client.Runtime.formBase) fun _ => False
  | clientObject {entity : Declared Entity} {properties : List Property}
      {relationships : List Relationship} {behaviors : List ActiveBehavior}
      (declared : entity ∈ registry.entities)
      (resolved : Server.Resolved registry entity.unit properties relationships)
      (attached : (ActiveBehavior.ofEntity registry entity.unit).outcome = .ok behaviors) :
      Written registry (Client.businessObjectPath entity.unit.name)
        (.source (Client.businessObjectSource entity.unit.name (Identity.of entity.unit)
          (Client.dataMembers (Identity.of entity.unit) properties relationships) relationships
          (Client.stubsOf behaviors))) fun _ => False
  | formGroup {entity : Declared Entity} {properties : List Property}
      {relationships : List Relationship} (declared : entity ∈ registry.entities)
      (isMain : entity.isLibrary = false)
      (resolved : Server.Resolved registry entity.unit properties relationships) :
      Written registry (Client.formGroupPath entity.unit.name)
        (.source (Client.formSource entity.unit.name (Identity.of entity.unit)
          (Client.controlsOf (Identity.of entity.unit) properties relationships) relationships))
        fun _ => False
  | component {component : Declared Component} {view : Client.View}
      (declared : component ∈ registry.components)
      (built : (Client.componentView registry component.unit).outcome = .ok view) :
      Written registry (Client.componentBase component.unit.name ++ ".ts") (.source (viewSource view))
        (Client.ViewAuthor registry (.ofComponent component.unit)
          (Client.componentLead (ViewName.isAppComponent component.unit.name))
          (Client.componentPlace (ViewName.isAppComponent component.unit.name)))
  | page {page : Declared Page} {view : Client.View} (declared : page ∈ registry.pages)
      (built : (Client.pageView registry page.unit).outcome = .ok view) :
      Written registry (Client.pageBase page.unit.name ++ ".ts") (.source (viewSource view))
        (Client.ViewAuthor registry (.ofPage page.unit) Client.pageLead Client.pagePlace)
  | pagesIndex : Written registry "client/src/app/pages/index.ts" (.clientLines (indexLines registry))
      fun _ => False
  | appRoutes {redirects : List String} : Written registry "client/src/app/app.routes.ts"
      (.routes redirects ((Client.routedPages registry).map LazyRoute.of)) fun _ => False
  | config : Written registry "client/src/app/app.config.ts" (.source (Client.configSource registry))
      fun _ => False

section Views

variable {declared : Declared Design.Unit}

theorem name_of_entity? {entity : Entity} (shown : declared.unit.entity? = some entity) :
    declared.name = entity.name :=
  entity?_shows.name_eq shown

theorem kind_of_entity? {entity : Entity} (shown : declared.unit.entity? = some entity) :
    declared.kind = .entity :=
  entity?_shows.kind_eq shown

theorem name_of_dataSource? {source : DataSource} (shown : declared.unit.dataSource? = some source) :
    declared.name = source.name :=
  dataSource?_shows.name_eq shown

theorem kind_of_dataSource? {source : DataSource} (shown : declared.unit.dataSource? = some source) :
    declared.kind = .dataSource :=
  dataSource?_shows.kind_eq shown

theorem name_of_behavior? {behavior : Behavior} (shown : declared.unit.behavior? = some behavior) :
    declared.name = behavior.name :=
  behavior?_shows.name_eq shown

theorem name_of_page? {page : Page} (shown : declared.unit.page? = some page) :
    declared.name = page.name :=
  page?_shows.name_eq shown

theorem name_of_component? {component : Component}
    (shown : declared.unit.component? = some component) : declared.name = component.name :=
  component?_shows.name_eq shown

end Views

section Generators

variable {registry : Registry}

/-- What a generator puts into files of code at a unit is written. -/
def WritesCode (registry : Registry) (generator : Generator) (unit : Option (Declared Design.Unit)) :
    Prop :=
  ∀ produced files, (generator.generate unit registry).outcome = .ok produced →
    generator.files unit produced = .ok files → ∀ file ∈ files, isCode file.1 = true →
      ∃ code asked, Written registry file.1 code asked ∧ code.text = .ok file.2

theorem writesCode_of_text {generator : Generator} {unit : Option (Declared Design.Unit)}
    {path : String} (announced : generator.outputs unit = .ok [path])
    (printed : ∀ produced, (generator.generate unit registry).outcome = .ok produced →
      ∃ text code asked, produced = .text text ∧ Written registry path code asked ∧
        code.text = .ok text) : WritesCode registry generator unit := by
  intro produced files success made file listed _
  obtain ⟨text, code, asked, rfl, written, same⟩ := printed produced success
  cases (files_text announced).symm.trans made
  rw [List.mem_singleton.mp listed]
  exact ⟨code, asked, written, same⟩

theorem writesCode_of_plain {generator : Generator} {unit : Option (Declared Design.Unit)}
    {paths : List String} (announced : generator.outputs unit = .ok paths)
    (plain : ∀ path ∈ paths, isCode path = false) : WritesCode registry generator unit := by
  intro produced files _ made file listed isCode
  obtain ⟨others, same, within⟩ := files_announced made
  cases announced.symm.trans same
  have never := plain file.1 (within file.1 (List.mem_map_of_mem listed))
  exact absurd (never.symm.trans isCode) Bool.false_ne_true

theorem mem_list {α : Type} {view : Design.Unit → Option α} {declared : Declared Design.Unit}
    (member : declared ∈ registry.units) {item : α} (shown : view declared.unit = some item) :
    declared.withUnit item ∈ registry.list view :=
  List.mem_filterMap.mpr ⟨declared, member, by rw [shown]; rfl⟩

section View

variable {α : Type} {view : Design.Unit → Option α} {run : Declared α → Registry → Step Produced}
  {generator : Generator} {declared : Declared Design.Unit}

/-- A generator of units writes its code if it does for the units that its view shows. -/
theorem writesCode_of_view (runs : generator.generate = onUnit view run)
    (step : ∀ item, view declared.unit = some item → ∀ produced files,
      (run (declared.withUnit item) registry).outcome = .ok produced →
      generator.files (some declared) produced = .ok files →
      ∀ file ∈ files, isCode file.1 = true →
        ∃ code asked, Written registry file.1 code asked ∧ code.text = .ok file.2) :
    WritesCode registry generator (some declared) := by
  intro produced files success made
  rw [runs, onUnit] at success
  split at success
  · rename_i shown found
    exact step shown found produced files success made
  · cases success
    obtain ⟨_, _, made⟩ := bind_eq_ok_iff.mp made
    cases made
    intro file listed
    cases listed

theorem writesCode_of_unit (runs : generator.generate = onUnit view run) {path : String}
    (announced : generator.outputs (some declared) = .ok [path])
    (printed : ∀ item, view declared.unit = some item → ∀ produced,
      (run (declared.withUnit item) registry).outcome = .ok produced →
      ∃ text code asked, produced = .text text ∧ Written registry path code asked ∧
        code.text = .ok text) : WritesCode registry generator (some declared) := by
  refine writesCode_of_view runs fun item shown produced files success made file listed _ => ?_
  obtain ⟨text, code, asked, rfl, written, same⟩ := printed item shown produced success
  cases (files_text announced).symm.trans made
  rw [List.mem_singleton.mp listed]
  exact ⟨code, asked, written, same⟩

end View

section Server

open Server

variable {declared : Declared Design.Unit} (member : declared ∈ registry.units)

include member

theorem served_of_accepted {entity : Entity} (shown : declared.unit.entity? = some entity)
    (accepted : serverEntity declared registry = .ok true) :
    ∃ store, Served registry (declared.withUnit entity) store := by
  have listed : declared.withUnit entity ∈ registry.entities := mem_list member shown
  unfold serverEntity at accepted
  split at accepted
  · cases accepted
  · rename_i isMain
    rw [shown] at accepted
    simp only at accepted
    cases searched : registry.dataSourceFor entity with
    | error failure =>
      rw [searched] at accepted
      cases accepted
    | ok found =>
      rw [searched] at accepted
      obtain ⟨store, rfl⟩ := Option.isSome_iff_exists.mp (Except.ok.inj accepted)
      exact ⟨store, listed, eq_false_of_ne_true isMain, searched⟩

private theorem writesCode_schema (accepted : serverEntity declared registry = .ok true) :
    WritesCode registry schemaGenerator (some declared) := by
  have announced : schemaGenerator.outputs (some declared) = .ok [schemaPath declared.name] := rfl
  refine writesCode_of_unit rfl announced fun entity shown produced success => ?_
  obtain ⟨store, served⟩ := served_of_accepted member shown accepted
  obtain ⟨_, _, table, module, text, _, tabulated, _, made, printed, rfl⟩ :=
    exists_table_of_generateSchema success
  rw [name_of_entity? shown]
  have written := Written.schema served tabulated made
  exact ⟨text, .tree module, _, rfl, written, printed⟩

theorem writesCode_businessObject (accepted : serverEntity declared registry = .ok true) :
    WritesCode registry businessObjectGenerator (some declared) := by
  have announced : businessObjectGenerator.outputs (some declared) = .ok [businessObjectPath declared.name] := rfl
  refine writesCode_of_unit rfl announced fun entity shown produced success => ?_
  obtain ⟨store, served⟩ := served_of_accepted member shown accepted
  obtain ⟨name, module, stored, built, text, printed, rfl⟩ := exists_businessObject_of_generate success
  obtain rfl : store.unit.name = name := by
    have found : (storeOf registry (declared.withUnit entity).unit).outcome = .ok store.unit.name := by
      unfold storeOf
      rw [Step.outcome_bind, Step.outcome_ofExcept, served.stored]
      rfl
    exact Except.ok.inj (found.symm.trans stored)
  rw [name_of_entity? shown]
  have written := Written.businessObject served built
  exact ⟨text, .tree module, _, rfl, written, printed⟩

private theorem writesCode_route (accepted : serverEntity declared registry = .ok true) :
    WritesCode registry routeGenerator (some declared) := by
  have announced : routeGenerator.outputs (some declared) = .ok [routePath declared.name] := rfl
  refine writesCode_of_unit rfl announced fun entity shown produced success => ?_
  obtain ⟨store, served⟩ := served_of_accepted member shown accepted
  obtain ⟨module, built, text, printed, rfl⟩ := exists_router_of_generate success
  rw [name_of_entity? shown]
  have written := Written.router served built
  exact ⟨text, .tree module, _, rfl, written, printed⟩

private theorem writesCode_dataSource : WritesCode registry dataSourceGenerator (some declared) := by
  have announced : dataSourceGenerator.outputs (some declared) = .ok [dataSourcePath declared.name] := rfl
  refine writesCode_of_unit rfl announced fun source shown produced success => ?_
  have kept : source.persistenceType ≠ "" := by
    intro unsaid
    have unkept : (declared.withUnit source).unit.persistenceType = "" := unsaid
    cases (generateDataSource_of_unkept registry unkept).symm.trans success
  cases (generateDataSource_of_kept registry kept).symm.trans success
  rw [name_of_dataSource? shown]
  have written := Written.dataSource (mem_list member shown)
  refine ⟨_, _, _, rfl, written, ?_⟩
  exact congrArg Except.ok (String.intercalate_cons_of_ne_nil (by simp [dataSourceLines]))

theorem writesCode_appBehavior (accepted : isAppBehavior declared registry = .ok true) :
    WritesCode registry appBehaviorGenerator (some declared) := by
  have announced : appBehaviorGenerator.outputs (some declared) = .ok [appBehaviorPath declared.name] := rfl
  refine writesCode_of_unit rfl announced fun behavior shown produced success => ?_
  have ofProject : isProjectBehavior (declared.withUnit behavior) registry = true := by
    unfold isAppBehavior at accepted
    rw [shown] at accepted
    exact Except.ok.inj accepted
  unfold generateAppBehavior at success
  split at success
  · rename_i type function typed written
    obtain ⟨module, built, success⟩ := Step.bind_eq_ok_iff.mp success
    obtain ⟨text, printed, success⟩ := Step.bind_eq_ok_iff.mp success
    cases success
    have active : projectBehavior? registry (declared.withUnit behavior) =
        some (behavior.active type function) := by
      unfold projectBehavior?
      rw [if_pos ofProject, typed, written]
      rfl
    rw [name_of_behavior? shown]
    have written := Written.appBehavior (mem_list member shown) active built
    exact ⟨text, .tree module, _, rfl, written, printed⟩
  · cases success

omit member

private theorem writesCode_routesIndex : WritesCode registry routesIndexGenerator none := by
  refine writesCode_of_text rfl fun produced success => ?_
  obtain ⟨module, made, success⟩ := Step.bind_eq_ok_iff.mp success
  obtain ⟨_, _, success⟩ := Step.bind_eq_ok_iff.mp success
  obtain ⟨text, printed, success⟩ := Step.bind_eq_ok_iff.mp success
  cases success
  exact ⟨text, .tree module, _, rfl, .routesIndex made, printed⟩

private theorem writesCode_startup : WritesCode registry startupGenerator none := by
  refine writesCode_of_text rfl fun produced success => ?_
  obtain ⟨module, made, success⟩ := Step.bind_eq_ok_iff.mp success
  obtain ⟨_, _, success⟩ := Step.bind_eq_ok_iff.mp success
  obtain ⟨text, printed, success⟩ := Step.bind_eq_ok_iff.mp success
  cases success
  exact ⟨text, .tree module, _, rfl, .startup made, printed⟩

private theorem scaffoldFiles_eq :
    scaffoldFiles = runtimeLines.map fun file => (file.1, Text.unlines file.2) := by
  simp only [scaffoldFiles, runtimeLines, runtimeFiles, List.map_append, List.map_map]
  rfl

private theorem writesCode_scaffold : WritesCode registry scaffoldGenerator none := by
  intro produced files success made file listed _
  cases success
  obtain ⟨_, announced, made⟩ := bind_eq_ok_iff.mp made
  simp only at made
  split at made
  · cases made
    have kept := OrderedMap.mem_of_mem_ofList listed
    rw [scaffoldFiles_eq] at kept
    obtain ⟨⟨path, lines⟩, inside, rfl⟩ := List.mem_map.mp kept
    exact ⟨.serverLines lines, _, .runtime inside, rfl⟩
  · cases made

end Server

section Client

open Client

private theorem pageRoute_eq (page : Page) : pageRoute page = (LazyRoute.of page).text := by
  have loader (stem className : String) :
      "() => import('./pages/" ++ stem ++ "/" ++ stem ++ ".page').then((m) => m." ++ className ++ ")" =
        "() => import('" ++ ("./pages/" ++ stem ++ "/" ++ stem ++ ".page") ++ "').then((m) => m." ++
          className ++ ")" := by
    simp [← String.toList_inj]
  delta pageRoute LazyRoute.text LazyRoute.of
  simp only [loader]

theorem writesCode_routes : WritesCode registry routesGenerator none := by
  refine writesCode_of_text rfl fun produced success => ?_
  obtain ⟨_, _, success⟩ := Step.bind_eq_ok_iff.mp success
  cases success
  have routes (default : String) (pages : List Page) : ∃ redirects : List String,
      routeTexts default pages = redirects ++ (pages.map LazyRoute.of).map LazyRoute.text := by
    have pageRoutes : pages.map pageRoute = (pages.map LazyRoute.of).map LazyRoute.text := by
      rw [List.map_map]
      exact List.map_congr_left fun page _ => pageRoute_eq page
    rw [← pageRoutes]
    exact ⟨_, rfl⟩
  obtain ⟨redirects, same⟩ := routes (defaultPath registry (routedPages registry))
    (routedPages registry)
  refine ⟨_, .routes redirects ((routedPages registry).map LazyRoute.of), _, rfl, .appRoutes, ?_⟩
  rw [same]
  rfl

theorem writesCode_pagesIndex : WritesCode registry pagesIndexGenerator none := by
  refine writesCode_of_text rfl fun produced success => ?_
  obtain ⟨_, _, success⟩ := Step.bind_eq_ok_iff.mp success
  cases success
  refine ⟨_, _, _, rfl, .pagesIndex, congrArg Except.ok ?_⟩
  have ended (lines : List String) (some : lines ≠ []) :
      Text.unlines (lines ++ [""]) = Text.unlines lines ++ "\n" := by
    induction lines with
    | nil => exact absurd rfl some
    | cons line lines ih =>
      cases lines with
      | nil => simp [Text.unlines]
      | cons next lines =>
        have later := ih (List.cons_ne_nil _ _)
        simp only [Text.unlines, List.cons_append, String.intercalate_cons_cons] at later ⊢
        rw [later, ← String.append_assoc]
  unfold indexLines
  simp only
  split
  · rfl
  · rename_i some
    exact ended _ (by simpa using some)

private theorem writesCode_config : WritesCode registry configGenerator none := by
  refine writesCode_of_text rfl fun produced success => ?_
  cases success
  exact ⟨_, .source _, _, rfl, .config, rfl⟩

private theorem writesCode_objectBase : WritesCode registry businessObjectBaseGenerator none := by
  refine writesCode_of_text rfl fun produced success => ?_
  cases success
  exact ⟨_, .clientLines _, _, rfl, .objectBase, rfl⟩

private theorem writesCode_formBase : WritesCode registry formBaseGenerator none := by
  refine writesCode_of_text rfl fun produced success => ?_
  cases success
  exact ⟨_, .clientLines _, _, rfl, .formBase, rfl⟩

variable {declared : Declared Design.Unit} (member : declared ∈ registry.units)

include member

private theorem writesCode_clientObject :
    WritesCode registry Client.businessObjectGenerator (some declared) := by
  have announced : Client.businessObjectGenerator.outputs (some declared) =
      .ok [Client.businessObjectPath declared.name] := rfl
  refine writesCode_of_unit rfl announced fun entity shown produced success => ?_
  obtain ⟨properties, relationships, behaviors, resolved, attached, rfl⟩ :=
    exists_source_of_generateBusinessObject success
  rw [name_of_entity? shown]
  have written := Written.clientObject (mem_list member shown) resolved attached
  exact ⟨_, _, _, rfl, written, rfl⟩

omit member in
theorem exists_source_of_generateFormGroup {entity : Declared Entity} {produced : Produced}
    (success : (generateFormGroup entity registry).outcome = .ok produced) :
    ∃ properties relationships, Server.Resolved registry entity.unit properties relationships ∧
      produced = .text (formSource entity.unit.name (Identity.of entity.unit)
        (controlsOf (Identity.of entity.unit) properties relationships) relationships).render := by
  simp only [generateFormGroup, formControls, Step.outcome_bind, Identity.resolve_outcome, ok_bind,
    Step.outcome_pure, Step.outcome_debug] at success
  obtain ⟨⟨controls, relationships⟩, resolving, given⟩ := bind_eq_ok_iff.mp success
  obtain ⟨properties, found, linking⟩ := bind_eq_ok_iff.mp resolving
  obtain ⟨others, linked, made⟩ := bind_eq_ok_iff.mp linking
  cases made
  exact ⟨properties, relationships, ⟨found, linked⟩, (Except.ok.inj given).symm⟩

private theorem writesCode_formGroup (accepted : notLibrary declared registry = .ok true) :
    WritesCode registry formGroupGenerator (some declared) := by
  have announced : formGroupGenerator.outputs (some declared) =
      .ok [formGroupPath declared.name] := rfl
  refine writesCode_of_unit rfl announced fun entity shown produced success => ?_
  obtain ⟨properties, relationships, resolved, rfl⟩ := exists_source_of_generateFormGroup success
  rw [name_of_entity? shown]
  have isMain : declared.isLibrary = false := by simpa [notLibrary] using accepted
  have written := Written.formGroup (mem_list member shown) isMain resolved
  exact ⟨_, _, _, rfl, written, rfl⟩

omit member in
/-- Of the files of a view, one is code. -/
theorem view_of_mem_files {generator : Generator} {unit : Option (Declared Design.Unit)}
    {view : View} {design : ViewDesign} {base : String} {files : List (String × String)}
    (made : generator.files unit (view.files design base) = .ok files) {file : String × String}
    (listed : file ∈ files) (code : isCode file.1 = true) :
    file = (base ++ ".ts", (viewSource view).render) := by
  obtain ⟨_, announced, made⟩ := bind_eq_ok_iff.mp made
  simp only [View.files] at made
  split at made
  · cases made
    have kept := OrderedMap.mem_of_mem_ofList listed
    simp only [List.mem_cons, List.not_mem_nil, or_false] at kept
    rcases kept with rfl | rfl | rfl
    · rfl
    · simp [isCode] at code
    · simp [isCode] at code
  · cases made

private theorem writesCode_component : WritesCode registry componentGenerator (some declared) := by
  refine writesCode_of_view rfl fun component shown produced files success made file listed code => ?_
  obtain ⟨view, built, success⟩ := Step.bind_eq_ok_iff.mp success
  cases success
  rw [view_of_mem_files made listed code]
  have written := Written.component (mem_list member shown) built
  exact ⟨_, _, written, rfl⟩

private theorem writesCode_page : WritesCode registry pageGenerator (some declared) := by
  refine writesCode_of_view rfl fun page shown produced files success made file listed code => ?_
  obtain ⟨view, built, success⟩ := Step.bind_eq_ok_iff.mp success
  cases success
  rw [view_of_mem_files made listed code]
  have written := Written.page (mem_list member shown) built
  exact ⟨_, _, written, rfl⟩

end Client

theorem accepts_of_single {place : Nat} {generator : Generator} {trigger : Trigger}
    {declared : Declared Design.Unit} (single : generator.triggers = [trigger])
    (accepted : Site.accepted registry ⟨place, generator, some declared⟩ = .ok true) :
    trigger.accepts declared registry = .ok true := by
  simp only [Site.accepted, Generator.triggerFor?, single, List.find?_singleton] at accepted
  split at accepted
  · rename_i found
    split at found
    · cases found
      exact accepted
    · cases found
  · cases accepted

theorem writesCode_of_aggregate {generator : Generator} (known : generator ∈ allGenerators)
    (aggregate : generator.isAggregate = true) : WritesCode registry generator none := by
  simp only [allGenerators, serverGenerators, clientGenerators, List.cons_append, List.nil_append,
    List.mem_cons, List.not_mem_nil, or_false] at known
  rcases known with rfl | rfl | rfl | rfl | rfl | rfl | rfl | rfl | rfl | rfl | rfl | rfl | rfl | rfl |
    rfl | rfl | rfl | rfl | rfl | rfl
  · cases aggregate
  · cases aggregate
  · cases aggregate
  · cases aggregate
  · cases aggregate
  · exact writesCode_routesIndex
  · exact writesCode_startup
  · exact writesCode_scaffold
  · exact writesCode_of_plain rfl (by decide)
  · exact writesCode_objectBase
  · cases aggregate
  · exact writesCode_formBase
  · cases aggregate
  · cases aggregate
  · cases aggregate
  · exact writesCode_pagesIndex
  · exact writesCode_routes
  · exact writesCode_config
  · exact writesCode_of_plain rfl (by decide)
  · exact writesCode_of_plain rfl (by decide)

theorem writesCode_of_accepted {place : Nat} {generator : Generator} {declared : Declared Design.Unit}
    (known : generator ∈ allGenerators) (separate : generator.isAggregate = false)
    (member : declared ∈ registry.units)
    (accepted : Site.accepted registry ⟨place, generator, some declared⟩ = .ok true) :
    WritesCode registry generator (some declared) := by
  simp only [allGenerators, serverGenerators, clientGenerators, List.cons_append, List.nil_append,
    List.mem_cons, List.not_mem_nil, or_false] at known
  rcases known with rfl | rfl | rfl | rfl | rfl | rfl | rfl | rfl | rfl | rfl | rfl | rfl | rfl | rfl |
    rfl | rfl | rfl | rfl | rfl | rfl
  · exact writesCode_schema member (accepts_of_single rfl accepted)
  · exact writesCode_businessObject member (accepts_of_single rfl accepted)
  · exact writesCode_route member (accepts_of_single rfl accepted)
  · exact writesCode_dataSource member
  · exact writesCode_appBehavior member (accepts_of_single rfl accepted)
  · cases separate
  · cases separate
  · cases separate
  · cases separate
  · cases separate
  · exact writesCode_clientObject member
  · cases separate
  · exact writesCode_formGroup member (accepts_of_single rfl accepted)
  · exact writesCode_component member
  · exact writesCode_page member
  · cases separate
  · cases separate
  · cases separate
  · cases separate
  · cases separate

/-- Every file of code that a site has is written. -/
theorem exists_written {targets : List String} {site : Site}
    (member : site ∈ sites registry allGenerators targets) {file : String × String}
    (listed : file ∈ (site.result registry).files) (code : isCode file.1 = true) :
    ∃ code asked, Written registry file.1 code asked ∧ code.text = .ok file.2 := by
  obtain ⟨produced, files, accepted, success, made, inside⟩ := Site.exists_produced_of_mem_files listed
  suffices writes : WritesCode registry site.generator site.unit from
    writes produced files success made file inside code
  obtain ⟨place, generator, unit⟩ := site
  obtain ⟨⟨placed, _⟩, triggered⟩ := mem_sites_iff.mp member
  have known := List.mem_of_getElem? placed
  cases unit with
  | none => exact writesCode_of_aggregate known triggered.1
  | some declared => exact writesCode_of_accepted known triggered.1 triggered.2.1 accepted

end Generators

end Blueprint.Generation
