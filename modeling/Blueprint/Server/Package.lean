import Blueprint.Json.Basic
import Blueprint.Server.AppBehavior
import Blueprint.Verbatim.Server
import Blueprint.ServerCode.Literal

namespace Blueprint.Server

open Generation ServerCode

/-- A value as a quoted text of a package file. -/
def tomlText (value : Json) : String := Json.quote (Literal.ofJson value).plain

/-- A package with the versions that a selector allows. -/
def requirement (package selector : String) : String :=
  let version := Text.trim selector.toList
  match version with
  | [] | ['*'] => package
  | '^' :: rest => package ++ ">=" ++ String.ofList rest
  | '~' :: '=' :: _ => package ++ String.ofList version
  | '~' :: rest => package ++ "~=" ++ String.ofList rest
  | c :: _ =>
    if Text.isAnyDigit c then package ++ "==" ++ String.ofList version
    else package ++ String.ofList version

/-- What every server depends on. -/
def defaultDependencies : List (String × String) :=
  [("fastapi", ">=0.110"), ("uvicorn[standard]", ">=0.29"), ("sqlmodel", ">=0.0.16"),
    ("pydantic-settings", ">=2.0")]

/-- What the development of every server depends on. -/
def defaultDevDependencies : List (String × String) :=
  [("pytest", ">=8.0"), ("httpx", ">=0.27"), ("taskipy", ">=1.12")]

/-- The scripts of every server. -/
def defaultScripts : List (String × Json) :=
  [("start", .str "uvicorn app.main:app --host 0.0.0.0 --port 3000"),
    ("dev", .str "uvicorn app.main:app --reload --port 3000"),
    ("test", .str "pytest")]

/-- A package file. -/
structure PackageFile where
  name : String
  version : String
  description : String
  dependencies : List (String × String)
  devDependencies : List (String × String)
  scripts : List (String × Json)

/-- The package file of a design. -/
def packageFile (registry : Registry) : PackageFile :=
  let project := registry.mainProject?.map (·.unit)
  let field (view : Design.Project → String) (default : String) : String :=
    match project.map view with
    | some text => if text.isEmpty then default else text
    | none => default
  let (runtime, dev) := registry.dependencies .server
  { name := field (·.packageName) (kebabCase registry.projectName) ++ "-server"
    version := field (·.version) "0.0.1"
    description := field (·.description) ""
    dependencies := OrderedMap.putAll defaultDependencies runtime
    devDependencies := OrderedMap.putAll defaultDevDependencies dev
    scripts := OrderedMap.putAll defaultScripts (registry.settings .serverScripts) }

namespace PackageFile

/-- The lines of a list of dependencies. -/
def dependencyLines (dependencies : List (String × String)) : List String :=
  dependencies.map fun dependency =>
    "    " ++ Json.quote (requirement dependency.1 dependency.2) ++ ","

/-- The lines of a package file. -/
def lines (file : PackageFile) : List String :=
  [generatedHeader,
    "[build-system]",
    "requires = [\"setuptools>=68\", \"wheel\"]",
    "build-backend = \"setuptools.build_meta\"",
    "",
    "[project]",
    "name = \"" ++ file.name ++ "\"",
    "version = \"" ++ file.version ++ "\""] ++
  (if file.description.isEmpty then [] else ["description = " ++ Json.quote file.description]) ++
  ["requires-python = \">=3.10\"",
    "dependencies = ["] ++
  dependencyLines file.dependencies ++
  ["]",
    "",
    "[project.optional-dependencies]",
    "dev = ["] ++
  dependencyLines file.devDependencies ++
  ["]",
    "",
    "[tool.setuptools.packages.find]",
    "include = [\"app*\"]",
    "",
    "[tool.taskipy.tasks]"] ++
  (file.scripts.map fun script => Json.quote script.1 ++ " = " ++ tomlText script.2) ++
  [""]

end PackageFile

def packageGenerator : Generator where
  name := "server-package"
  target := "server"
  isAggregate := true
  triggers := [mainProjectTrigger]
  outputs := fun _ => .ok ["server/pyproject.toml"]
  generate := fun _ registry => do
    let file := packageFile registry
    Step.debug (toString file.dependencies.length ++ " dependencies, " ++
      toString file.devDependencies.length ++ " dev dependencies")
    return .text (Text.unlines file.lines)

/-- The packages of a server, apart from that of the routes, which has an index. -/
def packages : List String :=
  ["app", "app/core", "app/schemas", "app/business_objects", "app/data_sources",
    "app/app_behaviors"]

/-- The runtime modules by their paths. -/
def runtimeFiles : List (String × String) :=
  [("server/app/core/config.py", Runtime.settingsModule),
    ("server/app/core/errors.py", Runtime.errorsModule),
    ("server/app/core/logging.py", Runtime.loggingModule),
    ("server/app/core/persistence.py", Runtime.persistenceModule)].map fun file =>
      (file.1, Text.unlines file.2)

/-- All files that do not depend on the design. -/
def scaffoldFiles : List (String × String) :=
  (packages.map fun package => ("server/" ++ package ++ "/__init__.py", "")) ++ runtimeFiles

def scaffoldGenerator : Generator where
  name := "server-scaffold"
  target := "server"
  isAggregate := true
  triggers := [mainProjectTrigger]
  outputs := fun _ => .ok (scaffoldFiles.map (·.1))
  generate := fun _ _ => do
    Step.debug (toString scaffoldFiles.length ++ " scaffold file(s)")
    return .files scaffoldFiles

end Blueprint.Server
