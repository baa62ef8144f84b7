import Blueprint.Server.DataSource
import Blueprint.Server.AppBehavior

/-!
The entry point of the server. It connects the data sources, runs the project's behaviors for the
start and mounts the index of routers.
-/

namespace Blueprint.Server

open Design ServerCode Generation

namespace Startup

/-- The name to which the entry point binds a data source. -/
def boundSource (module : String) : String := identifier (module ++ "_data_source")

/-- The import of a data source. -/
def importSource (module : String) : Statement :=
  .importingAs ("app.data_sources." ++ identifier module) "data_source" (boundSource module)

/-- The import of a behavior that runs after the start. -/
def importBehavior (behavior : ActiveBehavior) : Statement :=
  .importing ("app.app_behaviors." ++ identifier (appBehaviorModule behavior.name))
    [identifier behavior.function.name]

/-- Runs a behavior; an error of it is logged and stops nothing. -/
def attempt (behavior : ActiveBehavior) : Statement :=
  let call := Expr.apply (.name (identifier behavior.function.name)) []
  let message := "[ERROR] After Start behavior " ++ behavior.function.name ++ " failed"
  .attempt false [.expr (if behavior.function.async then .await call else call)]
    [.mk (some (.name "Exception")) none
      [.expr (.apply (.dotted "logger" ["exception"]) [.str message])]] [] []

/-- Runs all behaviors for the start, in order. -/
def runAfterStart (behaviors : List ActiveBehavior) : Statement :=
  .function true "run_after_start" .empty (some .nothing) []
    (if behaviors.isEmpty then [.pass] else behaviors.map attempt)

/-- A setting of the server. -/
def setting (name : String) : Expr := .dotted "settings" [name]

/-- What the server does while it runs. -/
def lifespan : Statement :=
  .function true "lifespan" (.of [.typed "app" (.name "FastAPI") none]) none
    [.name "asynccontextmanager"]
    [.forLoop false (.name "data_source") (.name "DATA_SOURCES")
        [.expr (.await (.apply (.dotted "data_source" ["connect"]) []))] [],
      .expr (.apply (.dotted "logger" ["info"]) [.formatted [
        .text "[STARTUP] ", .value (setting "APP_NAME") none none,
        .text " listening on port ", .value (setting "SERVER_PORT") none none]]),
      .expr (.await (.apply (.name "run_after_start") [])),
      .expr (.yield none)]

/-- Gives every request an identity. -/
def requestIdentity : Statement :=
  let header := Expr.str "x-request-id"
  .function true "_rid_mw"
    (.of [.typed "request" (.name "Request") none, .plain "call_next"]) none
    [.apply (.dotted "app" ["middleware"]) [.str "http"]]
    [.bind "rid" (.logic .or [.apply (.dotted "request" ["headers", "get"]) [header],
        .attribute (.apply (.dotted "uuid" ["uuid4"]) []) "hex"]),
      .expr (.apply (.name "set_request_id") [.name "rid"]),
      .assign [.dotted "request" ["state", "request_id"]] (.name "rid"),
      .bind "response" (.await (.apply (.name "call_next") [.name "request"])),
      .assign [.subscript (.dotted "response" ["headers"]) header] (.name "rid"),
      .give (.name "response")]

/-- Makes the application. -/
def createApp : Statement :=
  let all := Expr.list [.str "*"]
  .function false "create_app" .empty (some (.name "FastAPI")) []
    [.bind "app" (.call (.name "FastAPI") [] [
        .named "title" (setting "APP_NAME"), .named "openapi_url" (setting "OPENAPI_URL"),
        .named "docs_url" (setting "DOCS_URL"), .named "lifespan" (.name "lifespan")]),
      .expr (.call (.dotted "app" ["add_middleware"]) [.name "CORSMiddleware"] [
        .named "allow_origins" (.apply (setting "cors_origins") []),
        .named "allow_credentials" (.constant (.bool true)),
        .named "allow_methods" all, .named "allow_headers" all]),
      requestIdentity,
      .expr (.apply (.name "register_error_handlers") [.name "app"]),
      .expr (.call (.dotted "app" ["include_router"]) [.name "router"]
        [.named "prefix" (setting "API_PREFIX")]),
      .function false "health" .empty none [.apply (.dotted "app" ["get"]) [.str "/healthz"]]
        [.give (.dict [.pair (.str "status") (.str "OK")])],
      .give (.name "app")]

/-- The entry point of a project with some data sources and behaviors. -/
def module (project : String) (sources : List String) (behaviors : List ActiveBehavior) :
    Except Failure Module := do
  checkNames (sources ++ behaviors.flatMap fun behavior =>
    [appBehaviorModule behavior.name, behavior.function.name])
  return { name := "main"
           body := [
             .documentation (project ++ " server."),
             .importingModule "logging",
             .importingModule "uuid",
             .importing "contextlib" ["asynccontextmanager"],
             .importing "fastapi" ["FastAPI", "Request"],
             .importing "fastapi.middleware.cors" ["CORSMiddleware"],
             .importing "app.core.config" ["settings"],
             .importing "app.core.errors" ["register_error_handlers"],
             .importing "app.core.logging" ["configure_logging", "set_request_id"],
             .importing "app.routes" ["router"]] ++
             sources.map importSource ++ behaviors.map importBehavior ++ [
             .expr (.call (.name "configure_logging") [] [.named "level" (setting "LOG_LEVEL")]),
             AppBehavior.loggerStatement "ddsl.main",
             .bind "DATA_SOURCES" (.list (sources.map fun source => .name (boundSource source))),
             runAfterStart behaviors,
             lifespan,
             createApp,
             .bind "app" (.apply (.name "create_app") [])] }

end Startup

/-- The modules of the data sources that the server connects, in order. -/
def connectedSources (registry : Registry) : List String :=
  ((usedDataSources registry).filter fun source => !source.unit.persistenceType.isEmpty).map
    fun source => snakeCase source.unit.name

/-- The file of the entry point. -/
def generateStartup (registry : Registry) : Step Produced := do
  let sources := connectedSources registry
  let behaviors := projectBehaviors registry .afterStart
  let module ← Step.ofExcept (Startup.module registry.projectName sources behaviors)
  Step.debug (toString sources.length ++ " data source(s), " ++ toString behaviors.length ++
    " After Start behavior(s)")
  return .text (← Step.ofExcept (module.render generatedHeader))

def startupGenerator : Generator where
  name := "server"
  target := "server"
  isAggregate := true
  triggers := [mainProjectTrigger]
  outputs := fun _ => .ok ["server/app/main.py"]
  generate := fun _ registry => generateStartup registry

end Blueprint.Server
