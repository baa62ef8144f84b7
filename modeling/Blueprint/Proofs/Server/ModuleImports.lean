import Blueprint.Proofs.Server.Annotations
import Blueprint.Proofs.Server.Endpoints
import Blueprint.Proofs.Server.TableModule
import Blueprint.Server.Startup

namespace Blueprint.ServerCode

/-- The module that a binding comes from; dots in front count the packages above. -/
def Binding.module : Binding → String
  | ofName source level _ => String.ofList (List.replicate level '.') ++ source
  | ofModule imported => imported.name

/-- The modules from which the imports of a module bind names. -/
def Module.modules (module : Module) : List String := module.bindings.map Binding.module

theorem Module.ImportGrowth.mem_modules {before after : Module} {allowed : Binding → Prop}
    (growth : ImportGrowth before after allowed) {name : String} (named : name ∈ after.modules) :
    name ∈ before.modules ∨ ∃ binding, allowed binding ∧ binding.module = name := by
  obtain ⟨binding, bound, rfl⟩ := List.mem_map.mp named
  rcases growth.introduced binding bound with old | new
  · exact Or.inl (List.mem_map_of_mem old)
  · exact Or.inr ⟨binding, new, rfl⟩

theorem Module.module_of_fromModule {source : String} {names : List String} {binding : Binding}
    (named : FromModule source names binding) : binding.module = source := by
  obtain ⟨name, _, rfl⟩ := named
  exact String.empty_append

namespace Statement

/-- The modules that a statement imports. -/
def modules (statement : Statement) : List String := statement.bindings.map Binding.module

@[simp] theorem modules_importing (source : String) (names : List String) :
    (importing source names).modules = names.map fun _ => source := by
  simp [modules, importing, bindings, Function.comp_def, Binding.module]

@[simp] theorem modules_importingAs (source imported bound : String) :
    (importingAs source imported bound).modules = [source] := by
  simp [modules, importingAs, bindings, Binding.module]

@[simp] theorem modules_importingModule (source : String) :
    (importingModule source).modules = [source] := rfl

@[simp] theorem modules_expr (value : Expr) : (expr value).modules = [] := rfl

@[simp] theorem modules_documentation (text : String) : (documentation text).modules = [] := rfl

@[simp] theorem modules_bind (name : String) (value : Expr) : (bind name value).modules = [] := rfl

@[simp] theorem modules_classDef (name : String) (bases : List Expr) (keywords : List Keyword)
    (decorators : List Expr) (body : List Statement) :
    (classDef name bases keywords decorators body).modules = [] := rfl

@[simp] theorem modules_function (isAsync : Bool) (name : String) (params : Params)
    (returns : Option Expr) (decorators : List Expr) (body : List Statement) :
    (function isAsync name params returns decorators body).modules = [] := rfl

end Statement

theorem Module.modules_eq (module : Module) :
    module.modules = module.body.flatMap Statement.modules := List.map_flatMap

end Blueprint.ServerCode

namespace Blueprint.Server

open Design ServerCode Generation BusinessObject

/-- A module that some behaviors' authors ask for. -/
def AuthorModule (behaviors : List ActiveBehavior) (name : String) : Prop :=
  ∃ binding, ByAuthor behaviors binding ∧ binding.module = name

section Entity

variable {registry : Registry} {entity : Entity} {module : Module} {name : String}

/-- A business object imports its data source. -/
theorem businessObject_modules {dataSource : String}
    (success : (businessObject registry entity dataSource).outcome = .ok module)
    (named : name ∈ module.modules) :
    name ∈ ["typing", "app.core.errors"] ∨
      name = "app.data_sources." ++ identifier (snakeCase dataSource) ∨
      ∃ behaviors, (ActiveBehavior.ofEntity registry entity).outcome = .ok behaviors ∧
        AuthorModule behaviors name := by
  obtain ⟨behaviors, _, _, attached, _, growth⟩ := businessObject_methods success
  rcases growth.mem_modules named with own | asked
  · simp only [Module.modules_eq, skeleton, BusinessObject.classDef, List.flatMap_cons,
      Statement.modules_documentation, Statement.modules_importing, Statement.modules_importingAs,
      Statement.modules_classDef, List.flatMap_nil, List.map_cons, List.map_nil, List.nil_append,
      List.append_nil, List.cons_append, List.mem_cons, List.not_mem_nil, or_false] at own
    rcases own with rfl | rfl | rfl | rfl
    · simp
    · simp
    · simp
    · simp
  · exact Or.inr (Or.inr ⟨behaviors, attached, asked⟩)

theorem Endpoint.bindings_insertBefore (endpoint : Endpoint) (ahead : Option String) (owner : String)
    (idType : Expr) (module : Module) (binding : Binding) :
    binding ∈ ({ module with
      body := Module.insertBefore ahead (endpoint.statement owner idType) module.body } :
        Module).bindings ↔ binding ∈ module.bindings :=
  ((perm_insertBefore ahead (endpoint.statement owner idType) module.body).flatMap_right
    Statement.bindings).mem_iff

theorem addEndpoints_growth {idType : Expr} {behaviors : List ActiveBehavior} {changed : Module}
    {owner : String} (success : (addEndpoints owner idType behaviors module).outcome = .ok changed) :
    Module.ImportGrowth module changed fun binding => binding.module = "fastapi" := by
  induction behaviors generalizing module with
  | nil =>
    cases success
    exact .refl _ _
  | cons behavior behaviors ih =>
    unfold addEndpoints at success
    split at success
    · obtain ⟨extended, added, success⟩ := Step.bind_eq_ok_iff.mp success
      obtain ⟨_, _, success⟩ := Step.bind_eq_ok_iff.mp success
      obtain ⟨_, _, added⟩ := bind_eq_ok_iff.mp added
      cases added
      have merged := Module.mergeImport_growth module "fastapi" [(Endpoint.of behavior).needs]
      refine (merged.weaken fun binding => Module.module_of_fromModule).trans (.trans ?_ (ih success))
      have same := Endpoint.bindings_insertBefore (Endpoint.of behavior)
        (if (Endpoint.of behavior).onRecord then none else some ("get_" ++ snakeCase owner)) owner
        idType (module.mergeImport "fastapi" [(Endpoint.of behavior).needs])
      exact ⟨fun binding => (same binding).mpr, fun binding bound => Or.inl ((same binding).mp bound)⟩
    · exact ih success

/-- A router imports the business object and the shapes of requests. -/
theorem router_modules (success : (router registry entity).outcome = .ok module)
    (named : name ∈ module.modules) :
    name ∈ ["json", "typing", "fastapi"] ∨ name = businessObjectModule entity.name ∨
      name = "app.schemas." ++ identifier (snakeCase entity.name) := by
  unfold router at success
  obtain ⟨identity, _, success⟩ := Step.bind_eq_ok_iff.mp success
  obtain ⟨_, _, success⟩ := Step.bind_eq_ok_iff.mp success
  obtain ⟨_, _, success⟩ := Step.bind_eq_ok_iff.mp success
  obtain ⟨_, _, success⟩ := Step.bind_eq_ok_iff.mp success
  obtain ⟨_, _, success⟩ := Step.bind_eq_ok_iff.mp success
  obtain ⟨behaviors, _, success⟩ := Step.bind_eq_ok_iff.mp success
  rcases (addEndpoints_growth success).mem_modules named with own | ⟨_, same, rfl⟩
  · simp [Module.modules_eq, Router.skeleton, Router.parseFilter, Router.serialize, Router.endpoints,
      Router.endpoint] at own
    simpa [or_assoc] using own
  · simp [same]

/-- The modules that the types of columns need. -/
theorem module_of_columnImports {entities : List String} {property : Property}
    {source : String × String} (listed : source ∈ columnImports entities property) :
    source.1 ∈ ["datetime", "typing", "sqlalchemy"] := by
  rcases List.mem_append.mp listed with typed | stored
  · have given := Option.mem_toList.mp typed
    unfold ServerType.requiredImport? at given
    split at given
    · cases given
      decide
    · cases given
      decide
    · cases given
      decide
    · cases given
      decide
    · cases given
  · split at stored
    · rw [List.mem_singleton.mp stored]
      decide
    · cases stored

theorem module_of_tableSchema {table : TableSchema}
    (tabulated : (tableSchema registry entity).outcome = .ok table) {source : String × String}
    (listed : source ∈ table.imports) : source.1 ∈ ["datetime", "typing", "sqlalchemy"] := by
  unfold tableSchema at tabulated
  obtain ⟨identity, _, tabulated⟩ := Step.bind_eq_ok_iff.mp tabulated
  obtain ⟨properties, _, tabulated⟩ := Step.bind_eq_ok_iff.mp tabulated
  obtain ⟨relationships, _, tabulated⟩ := Step.bind_eq_ok_iff.mp tabulated
  obtain ⟨_, _, tabulated⟩ := Step.bind_eq_ok_iff.mp tabulated
  obtain ⟨_, _, tabulated⟩ := Step.bind_eq_ok_iff.mp tabulated
  obtain ⟨_, _, tabulated⟩ := Step.bind_eq_ok_iff.mp tabulated
  obtain ⟨_, _, tabulated⟩ := Step.bind_eq_ok_iff.mp tabulated
  cases tabulated
  obtain ⟨property, _, typed⟩ := List.mem_flatMap.mp listed
  exact module_of_columnImports typed

/-- A table whose names are names imports nothing that is generated. -/
theorem tableModule_modules {table : TableSchema}
    (tabulated : (tableSchema registry entity).outcome = .ok table)
    (isNamed : table.names.all isName = true) (made : table.module = .ok module)
    (named : name ∈ module.modules) : name ∈ ["typing", "sqlmodel", "datetime", "sqlalchemy"] := by
  rw [TableSchema.module_of_names isNamed] at made
  obtain ⟨_, _, made⟩ := bind_eq_ok_iff.mp made
  cases made
  have growth := Module.ImportGrowth.foldl (Text.sortedSet (table.imports.map (·.1)))
    (fun source (listed : source ∈ Text.sortedSet (table.imports.map (·.1))) module =>
      (Module.mergeImport_growth module source
        ((table.imports.filter (·.1 == source)).map (·.2))).weaken
        (fun binding bound => (Module.module_of_fromModule bound).symm ▸ listed))
    ({ name := table.entity, body := table.statements identifier } : Module)
  rcases growth.mem_modules named with own | ⟨_, listed, rfl⟩
  · simp [Module.modules_eq, TableSchema.statements] at own
    rcases own with rfl | rfl
    · simp
    · simp
  · obtain ⟨source, asked, same⟩ := List.mem_map.mp (Text.mem_sortedSet.mp listed)
    have fixed := module_of_tableSchema tabulated asked
    rw [same] at fixed
    revert fixed
    simp only [List.mem_cons, List.not_mem_nil, or_false]
    rintro (same | same | same)
    · simp [same]
    · simp [same]
    · simp [same]

end Entity

section Project

variable {registry : Registry} {behavior : ActiveBehavior} {module : Module} {name : String}

/-- A behavior of a project imports what its author asks for and the business objects it uses. -/
theorem appBehavior_modules (success : (appBehavior registry behavior).outcome = .ok module)
    (named : name ∈ module.modules) :
    name ∈ ["logging", "fastapi"] ∨ AuthorModule [behavior] name ∨
      ∃ used, usedBusinessObjects behavior none = .ok used ∧
        name ∈ used.map businessObjectModule := by
  obtain ⟨params, _, _, growth⟩ := appBehavior_module success
  rcases growth.mem_modules named with own | ⟨binding, asked, rfl⟩
  · obtain ⟨binding, bound, rfl⟩ := List.mem_map.mp own
    left
    rcases mem_bindings_appSkeleton bound with rfl | rfl
    · decide
    · decide
  · rcases asked with authored | ⟨used, uses, object, listed, rfl⟩ | rfl
    · exact Or.inr (Or.inl ⟨binding, authored, rfl⟩)
    · exact Or.inr (Or.inr ⟨used, uses, List.mem_map.mpr ⟨object, listed, by simp [Binding.module]⟩⟩)
    · simp [Binding.module]

/-- The index of routers imports all of them. -/
theorem routesIndex_modules {routers : List MountedRouter} (made : routesIndex routers = .ok module)
    (named : name ∈ module.modules) :
    name = "fastapi" ∨
      name ∈ routers.map fun router => router.package ++ "." ++ identifier router.module := by
  obtain ⟨_, _, made⟩ := bind_eq_ok_iff.mp made
  cases made
  simpa [Module.modules_eq, MountedRouter.importStatement, MountedRouter.mount, List.flatMap_map,
    eq_comm] using named

/-- The modules that every entry point imports, apart from the index of routers. -/
def startupModules : List String :=
  ["logging", "uuid", "contextlib", "fastapi", "fastapi.middleware.cors", "app.core.config",
    "app.core.errors", "app.core.logging"]

/-- The entry point imports the index of routers, data sources, and behaviors for the start. -/
theorem startup_modules {project : String} {sources : List String} {behaviors : List ActiveBehavior}
    (made : Startup.module project sources behaviors = .ok module) (named : name ∈ module.modules) :
    name ∈ startupModules ∨ name = "app.routes" ∨
      name ∈ sources.map (fun source => "app.data_sources." ++ identifier source) ∨
      name ∈ behaviors.map fun behavior =>
        "app.app_behaviors." ++ identifier (appBehaviorModule behavior.name) := by
  obtain ⟨_, _, made⟩ := bind_eq_ok_iff.mp made
  cases made
  simp only [Module.modules_eq, List.flatMap_append, List.mem_append, List.mem_flatMap,
    List.mem_map] at named
  rcases named with ((⟨statement, listed, named⟩ | ⟨_, ⟨source, listed, rfl⟩, named⟩) |
    ⟨_, ⟨behavior, listed, rfl⟩, named⟩) | ⟨statement, listed, named⟩
  · have fixed := List.mem_flatMap.mpr ⟨statement, listed, named⟩
    simp at fixed
    simpa [startupModules, or_assoc, or_left_comm] using Or.inl fixed
  · rw [Startup.importSource, Statement.modules_importingAs, List.mem_singleton] at named
    exact Or.inr (Or.inr (Or.inl (List.mem_map.mpr ⟨source, listed, named.symm⟩)))
  · have same := List.mem_singleton.mp (Statement.modules_importing _ _ ▸ named)
    exact Or.inr (Or.inr (Or.inr (List.mem_map.mpr ⟨behavior, listed, same.symm⟩)))
  · have none := List.mem_flatMap.mpr ⟨statement, listed, named⟩
    cases none

end Project

end Blueprint.Server
