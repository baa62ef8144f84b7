import Blueprint.ServerCode.Literal
import Blueprint.Validation

namespace Blueprint.Service

open Validation

/-- The settings of a server. -/
structure Settings where
  appName : String
  pathLead : String
  host : String
  port : Int
  logLevel : String
  /-- Addresses that replace those of data sources. -/
  urls : List (String × String)
  /-- The origins that may call the server, divided by commas. -/
  origins : String

/-- Reads a map of texts. -/
def textMap (field : String) : Json → Checked (List (String × String))
  | .obj fields =>
    let values := fields.map fun entry => (entry.1, checkAt [field, entry.1] text entry.2)
    match values.flatMap fun entry => issuesOf entry.2 with
    | [] => .ok (values.filterMap fun entry => match entry.2 with
      | .ok value => some (entry.1, value)
      | .error _ => none)
    | issues => .error issues
  | value => .error [⟨[field], .notMap, value⟩]

/-- Reads the settings of a server. -/
def Settings.load (environment : Environment) : Except SettingsFault Settings := do
  let value (name default : String) : String := (environment.value? name).getD default
  let urlsField := "DATA_SOURCE_URLS"
  let given ← environment.json? urlsField urlsField
  let port := match environment.value? "SERVER_PORT" with
    | some text => checkAt ["SERVER_PORT"] integer (.str text)
    | none => .ok 3000
  let urls := match given with
    | some given => textMap urlsField given
    | none => .ok []
  match port, urls with
  | .ok port, .ok urls =>
    return { appName := value "APP_NAME" "DDSL Server", pathLead := value "API_PREFIX" "/api"
             host := value "SERVER_HOST" "0.0.0.0", port, urls
             logLevel := value "LOG_LEVEL" "INFO"
             origins := value "BACKEND_CORS_RAW_ORIGINS" "http://localhost:4200" }
  | port, urls => .error (.invalid (issuesOf port ++ issuesOf urls))

/-- The origins that may call the server. -/
def Settings.originList (settings : Settings) : List String :=
  (((settings.origins.toList.splitOn ',').map Text.trim).filter (!·.isEmpty)).map String.ofList

/-- What goes wrong while a request is answered. -/
inductive RequestError where
  /-- No record of an entity has an identity; none if any record would have done. -/
  | notFound (entity : String) (identity : Json)
  /-- The body of a behavior rejects the request. -/
  | rejected (message : String) (status : Int)
  /-- The body of the request does not fit. -/
  | invalid (issues : List Issue)

/-- The status of a response to a rejected request that names none. -/
def rejectedStatus : Int := 400

/-- An issue in the body of a response. -/
def issueBody (issue : Issue) : Json :=
  let context : List (String × Json) := match issue.cause with
    | .notModel model => [("ctx", .obj [("class_name", .str model)])]
    | _ => []
  .obj ([("type", .str issue.cause.code), ("loc", .strings issue.place),
    ("msg", .str issue.cause.message), ("input", issue.input)] ++ context)

namespace RequestError

/-- The status of the response. -/
def status : RequestError → Int
  | notFound .. => 404
  | rejected _ status => status
  | invalid _ => 422

/-- The body of the response. -/
def body (error : RequestError) : Json :=
  let detail : Json := match error with
    | notFound entity .null => .str s!"{entity} not found"
    | notFound entity identity =>
      .str s!"{entity} {(ServerCode.Literal.ofJson identity).plain} not found"
    | rejected message _ => .str message
    | invalid issues => .arr (issues.map issueBody)
  .obj [("detail", detail)]

end RequestError

/-- Checks a body that has to be an object of a model with one integer field. -/
def checkCounted (model field : String) (body : Json) : Checked Int :=
  match body with
  | .obj _ =>
    match body.field? field with
    | some value => checkAt [field] integer value
    | none => .error [⟨[field], .missing, body⟩]
  | _ => .error [⟨[], .notModel model, body⟩]

end Blueprint.Service
