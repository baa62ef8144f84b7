import Blueprint.Generation.Generator
import Blueprint.Server.Route

/-!
Behaviors of the main project. Each becomes a module with one function; those that clients may call
get an endpoint as well, the others run once the server has started. The index of routers mounts
those of all server entities and of the project's behaviors that clients may call.
-/

namespace Blueprint.Server

open Design ServerCode Generation

/-- The module of a project's behavior. -/
def appBehaviorModule (name : String) : String := snakeCase name

/-- A behavior of the main project that belongs to projects by its type. -/
def isProjectBehavior (behavior : Declared Behavior) (registry : Registry) : Bool :=
  (behavior.unit.type?.any (·.isOfProject)) && !behavior.isLibrary &&
    (registry.projects.find? (·.unit.name == behavior.unit.owner)).any (!·.isLibrary)

/-- A behavior of the main project as it is generated, if it has a function. -/
def projectBehavior? (registry : Registry) (behavior : Declared Behavior) :
    Option ActiveBehavior :=
  if isProjectBehavior behavior registry then
    match behavior.unit.type?, behavior.unit.function with
    | some type, some function => some (behavior.unit.active type function)
    | _, _ => none
  else none

/-- The behaviors of the main project of one type, in order. -/
def projectBehaviors (registry : Registry) (type : BehaviorType) : List ActiveBehavior :=
  (registry.behaviors.filterMap (projectBehavior? registry)).filter (·.type == type)

namespace AppBehavior

/-- The router of a behavior that clients may call. -/
def routerStatement : Statement :=
  .bind "router" (.call (.name "APIRouter") []
    [.named "prefix" (.str "/app"), .named "tags" (.list [.str "App"])])

/-- The logger of a generated module. -/
def loggerStatement (name : String) : Statement :=
  .bind "logger" (.apply (.dotted "logging" ["getLogger"]) [.str name])

/-- The statements ahead of the function. -/
def preamble (behavior : ActiveBehavior) : List Statement :=
  let isApp := behavior.type == .app
  [Statement.documentation (behavior.name ++ ": " ++ behavior.type.name ++ " behavior of " ++
      behavior.owner ++ "."),
    .importingModule "logging"] ++
  (if isApp then [Statement.importing "fastapi" ["APIRouter"]] else []) ++
  [loggerStatement ("ddsl.app_behaviors." ++ appBehaviorModule behavior.name)] ++
  (if isApp then [routerStatement] else [])

/-- The name of the function of an endpoint. -/
def endpointName (behavior : ActiveBehavior) : String :=
  snakeCase behavior.function.name ++ "_endpoint"

/-- The path of an endpoint. -/
def endpointPath (behavior : ActiveBehavior) : String := "/" ++ kebabCase behavior.function.name

/-- The function of an endpoint. -/
def endpoint (behavior : ActiveBehavior) : Statement :=
  let call :=
    Expr.call (.name (identifier behavior.function.name)) [] [.spread (.name "payload")]
  .function true (identifier (endpointName behavior))
    (.of [.typed "payload" (.name "dict")
      (some (.call (.name "Body") [] [.named "default_factory" (.name "dict")]))]) none
    [.apply (.dotted "router" [verbName behavior.httpMethod]) [.str (endpointPath behavior)]]
    [.give (if behavior.function.async then .await call else call)]

/-- The module with the function of a behavior, whose body is kept as it is. -/
def skeleton (behavior : ActiveBehavior) (params : List Param) (returns : Option Expr) : Module :=
  let function := .function behavior.function.async (identifier behavior.function.name)
    (.of params) returns [] [Module.placeholder 0]
  { name := behavior.name
    body := preamble behavior ++ [function]
    bodies := [behavior.function.body] }

/-- Adds an endpoint to the module of a behavior. -/
def addEndpoint (behavior : ActiveBehavior) (module : Module) : Except Failure Module := do
  checkNames [endpointName behavior]
  let imported := module.mergeImport "fastapi" ["Body"]
  return imported.insertFunction (endpoint behavior) none

end AppBehavior

/-- The edited module of a project's behavior. -/
def appBehavior (registry : Registry) (behavior : ActiveBehavior) : Step Module := do
  let entities := registry.entityNames
  let function := behavior.function
  let params ← Step.ofExcept (behaviorParams behavior.name entities false function.params)
  Step.ofExcept (checkNames (function.name :: function.params.map Parameter.name))
  let skeleton := AppBehavior.skeleton behavior params (returnsOf behavior entities)
  let _ ← Step.ofExcept (skeleton.getFunction function.name)
  let imports ← Step.ofExcept (otherImports behavior.imports)
  let module ← Step.ofExcept (skeleton.addImportStatements imports).result
  let used ← Step.ofExcept (usedBusinessObjects behavior none)
  let imports ← Step.ofExcept (used.mapM importBusinessObject)
  let module ← Step.ofExcept (module.addImportStatements imports).result
  if behavior.type == .app then
    let module ← Step.ofExcept (AppBehavior.addEndpoint behavior module)
    Step.debug (Text.upper behavior.httpMethod.name ++ " /app" ++ AppBehavior.endpointPath behavior)
    return module
  else return module

def appBehaviorPath (name : String) : String :=
  "server/app/app_behaviors/" ++ appBehaviorModule name ++ ".py"

/-- The file of a project's behavior. -/
def generateAppBehavior (declared : Declared Behavior) (registry : Registry) : Step Produced := do
  match declared.unit.type?, declared.unit.function with
  | some type, some function =>
    let module ← appBehavior registry (declared.unit.active type function)
    return .text (← Step.ofExcept (module.render generatedHeader))
  | _, _ => Step.fail (.skipped ("behavior " ++ declared.unit.name ++ " has no function"))

/-- Whether a unit is a behavior of the main project. -/
def isAppBehavior (unit : Declared Design.Unit) (registry : Registry) : Except Failure Bool :=
  match unit.unit.behavior? with
  | some behavior => .ok (isProjectBehavior (unit.withUnit behavior) registry)
  | none => .ok false

def appBehaviorGenerator : Generator where
  name := "app-behavior"
  target := "server"
  triggers := [⟨.behavior, isAppBehavior⟩]
  outputs := byName fun name => [appBehaviorPath name]
  generate := onUnit Unit.behavior? generateAppBehavior

/-- The generator runs for a project that is no library. -/
def mainProjectTrigger : Trigger := ⟨.project, notLibrary⟩

/-- A router that the index mounts: the package and the module that define it. -/
structure MountedRouter where
  package : String
  module : String
  deriving DecidableEq, Repr

namespace MountedRouter

/-- The name to which the index binds a router. -/
def bound (router : MountedRouter) : String := identifier (router.module ++ "_router")

/-- The import of a router. -/
def importStatement (router : MountedRouter) : Statement :=
  .importingAs (router.package ++ "." ++ identifier router.module) "router" router.bound

/-- Mounts a router. -/
def mount (router : MountedRouter) : Statement :=
  .expr (.apply (.dotted "router" ["include_router"]) [.name router.bound])

end MountedRouter

/-- The routers of all server entities, in order. -/
def entityRouters (registry : Registry) : List MountedRouter :=
  registry.serverEntities.map fun entity => ⟨"app.routes", routeModule entity.unit.name⟩

/-- The routers of the project's behaviors that clients may call, in order. -/
def appRouters (registry : Registry) : List MountedRouter :=
  (projectBehaviors registry .app).map fun behavior =>
    ⟨"app.app_behaviors", appBehaviorModule behavior.name⟩

/-- The index of some routers. -/
def routesIndex (routers : List MountedRouter) : Except Failure Module := do
  checkNames (routers.map MountedRouter.module)
  return { name := "routes"
           body := [
             .documentation "All generated routers, mounted under the API prefix by main.py.",
             .importing "fastapi" ["APIRouter"]] ++
             routers.map MountedRouter.importStatement ++
             [.bind "router" (.apply (.name "APIRouter") [])] ++
             routers.map MountedRouter.mount }

/-- The file of the index. -/
def generateRoutesIndex (registry : Registry) : Step Produced := do
  let ofEntities := entityRouters registry
  let ofProject := appRouters registry
  let module ← Step.ofExcept (routesIndex (ofEntities ++ ofProject))
  Step.debug (toString ofEntities.length ++ " entity router(s), " ++ toString ofProject.length ++
    " app behavior router(s)")
  return .text (← Step.ofExcept (module.render generatedHeader))

def routesIndexGenerator : Generator where
  name := "routes-index"
  target := "server"
  isAggregate := true
  triggers := [mainProjectTrigger]
  outputs := fun _ => .ok ["server/app/routes/__init__.py"]
  generate := fun _ registry => generateRoutesIndex registry

end Blueprint.Server
