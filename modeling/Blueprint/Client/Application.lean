import Blueprint.Client.Routes
import Blueprint.Verbatim.Client
import Blueprint.Json.Basic
import Blueprint.ServerCode.Literal

namespace Blueprint.Client

open Design ClientCode Generation

/-- The styles of projects, libraries in the order of their declaration before the main project. -/
def stylesText (registry : Registry) : String :=
  let projects := registry.libraryProjects ++ registry.mainProject?.toList
  let parts := projects.filterMap fun project =>
    let styles := Text.strip project.unit.styles
    if styles.isEmpty then none
    else some ("/* Styles from " ++ project.unit.name ++ " */\n" ++ styles)
  if parts.isEmpty then "/* Global application styles */\n" else "\n\n".intercalate parts ++ "\n"

def stylesGenerator : Generator where
  name := "client-styles"
  target := "client"
  isAggregate := true
  triggers := [mainProjectTrigger]
  outputs := fun _ => .ok ["client/src/styles.scss"]
  generate := fun _ registry => return .text (stylesText registry)

/-- The parameters that decide how fields of forms look, and the options they set. -/
def formFieldParameters : List (String × String) :=
  [("formFieldAppearance", "appearance"), ("formFieldSubscriptSizing", "subscriptSizing"),
    ("formFieldFloatLabel", "floatLabel")]

/-- The options of form fields that parameters set. -/
def formFieldOptions (parameters : List (String × Json)) : List (String × String) :=
  formFieldParameters.filterMap fun (name, option) =>
    ((parameters.lookup name).filter Json.isTruthy).map fun value =>
      (option, quoted (ServerCode.Literal.ofJson value).plain)

/-- What the application provides. -/
def providers (formField : List (String × String)) : List String :=
  ["provideRouter(routes)", "provideHttpClient()"] ++
  (if formField.isEmpty then [] else
    [objectText 2 [("provide", "MAT_FORM_FIELD_DEFAULT_OPTIONS"),
      ("useValue", objectText 3 formField)]]) ++
  [objectText 2 [("provide", "APP_INITIALIZER"),
    ("useFactory", Text.unlines ["() => \x7b",
      "      BusinessObjectBase.configure(inject(HttpClient));",
      "      return () => \x7b\x7d;",
      "    \x7d"]),
    ("multi", "true")]]

/-- The source file of the configuration. -/
def configSource (registry : Registry) : Source :=
  let formField := formFieldOptions registry.parameterValues
  let imports : List (String × List String) :=
    [(coreModule, ["APP_INITIALIZER", "ApplicationConfig", "inject"]),
      ("@angular/router", ["provideRouter"]),
      ("@angular/common/http", ["HttpClient", "provideHttpClient"]),
      ("./business-objects/base", ["BusinessObjectBase"]),
      ("./app.routes", ["routes"])] ++
    (if formField.isEmpty then [] else
      [("@angular/material/form-field", ["MAT_FORM_FIELD_DEFAULT_OPTIONS"])])
  let source := imports.foldl (fun source item => source.addImport item.1 item.2)
    ({ name := "app.config" } : Source)
  source.addStatement (Text.unlines [
    "export const appConfig: ApplicationConfig = \x7b",
    "  providers: [",
    ",\n".intercalate ((providers formField).map ("    " ++ ·)) ++ ",",
    "  ],",
    "\x7d;"])

def configGenerator : Generator where
  name := "client-app-config"
  target := "client"
  isAggregate := true
  triggers := [mainProjectTrigger]
  outputs := fun _ => .ok ["client/src/app/app.config.ts"]
  generate := fun _ registry => return .text (configSource registry).render

/-- What every client depends on. -/
def defaultDependencies : List (String × String) := [("debug", "^4.3.4")]

/-- What the development of every client depends on. -/
def defaultDevDependencies : List (String × String) := [("@types/debug", "^4.1.12")]

/-- A field of a package file for a text that is not empty. -/
def textField (key text : String) : List (String × Json) :=
  if text.isEmpty then [] else [(key, .str text)]

/-- A field of a package file for settings, if there are any. -/
def settingsField (key : String) (settings : List (String × Json)) : List (String × Json) :=
  if settings.isEmpty then [] else [(key, .obj settings)]

/-- The dependencies of a package file. -/
def dependencyFields (dependencies : List (String × String)) : Json :=
  .obj (dependencies.map fun dependency => (dependency.1, .str dependency.2))

/-- The package file of the client. -/
def packageJson (registry : Registry) : Json :=
  let project := registry.mainProject?.map (·.unit)
  let field (view : Project → String) : String := (project.map view).getD ""
  let orElse (text default : String) : String := if text.isEmpty then default else text
  let (runtime, dev) := registry.dependencies .client
  .obj ([("name", .str (orElse (field (·.packageName)) (kebabCase registry.projectName) ++
      "-client")),
    ("version", .str (orElse (field (·.version)) "0.0.1"))] ++
    textField "displayName" (field (·.displayName)) ++
    textField "description" (field (·.description)) ++
    settingsField "scripts" (registry.settings .clientScripts) ++
    [("dependencies", dependencyFields (OrderedMap.putAll defaultDependencies runtime)),
      ("devDependencies", dependencyFields (OrderedMap.putAll defaultDevDependencies dev))] ++
    settingsField "overrides" (registry.settings .overrides))

def packageGenerator : Generator where
  name := "client-package"
  target := "client"
  isAggregate := true
  triggers := [⟨.project, always⟩]
  outputs := fun _ => .ok ["client/package.json"]
  generate := fun _ registry => do
    Step.debug ("folded " ++ toString registry.foldProjects.length ++ " project(s)")
    return .text ((packageJson registry).pretty ++ "\n")

/-- A generator of a module that does not depend on the design. -/
def runtimeGenerator (name file : String) (lines : List String) : Generator where
  name := name
  target := "client"
  isAggregate := true
  triggers := [mainProjectTrigger]
  outputs := fun _ => .ok [businessObjectsDirectory ++ "/" ++ file]
  generate := fun _ _ => return .text (Text.unlines lines)

def businessObjectBaseGenerator : Generator :=
  runtimeGenerator "business-object-base" "base.ts" Runtime.businessObjectBase

def formBaseGenerator : Generator :=
  runtimeGenerator "persisted-form-group" "persisted-form-group.ts" Runtime.formBase

end Blueprint.Client
