import Blueprint.Generation.Generator
import Blueprint.Server.BusinessObject

/-!
The router of an entity: endpoints for its records, and one for every instance or class behavior
with the behavior's verb. An endpoint that names no record stands ahead of the one that reads a
record, so that its path is not taken for an identity.
-/

namespace Blueprint.Server

open Design ServerCode Generation

/-- The verb of an endpoint as routers spell it. -/
def verbName (verb : HttpMethod) : String := Text.lower verb.name

/-- Arguments travel in the address and not in a body. -/
def takesQuery : HttpMethod → Bool
  | .get | .delete => true
  | .post | .put | .patch => false

/-- The endpoint of a behavior. -/
structure Endpoint where
  verb : HttpMethod
  /-- The behavior is called on a record, which the path names. -/
  onRecord : Bool
  function : String
  isAsync : Bool
  deriving DecidableEq, Repr

namespace Endpoint

/-- The endpoint of an instance or class behavior. -/
def of (behavior : ActiveBehavior) : Endpoint :=
  ⟨behavior.httpMethod, behavior.type == .ofInstance, behavior.function.name,
    behavior.function.async⟩

/-- The path of an endpoint below its router. -/
def path (endpoint : Endpoint) : String :=
  (if endpoint.onRecord then "/\x7bid\x7d/" else "/") ++ kebabCase endpoint.function

/-- The name of an endpoint's function. -/
def name (endpoint : Endpoint) (entity : String) : String :=
  snakeCase endpoint.function ++ "_" ++ snakeCase entity

/-- The name that an endpoint needs from the web framework. -/
def needs (endpoint : Endpoint) : String := if takesQuery endpoint.verb then "Request" else "Body"

/-- The parameter that carries the arguments. -/
def argumentParam (endpoint : Endpoint) : Param :=
  if takesQuery endpoint.verb then .typed "request" (.name "Request") none
  else .typed "payload" (.name "dict")
    (some (.call (.name "Body") [] [.named "default_factory" (.name "dict")]))

/-- What an endpoint does: it gathers the arguments, finds the record and calls the behavior. -/
def body (endpoint : Endpoint) (entity : String) : List Statement :=
  let gather := Statement.bind "payload" (.apply (.name "dict") [.dotted "request" ["query_params"]])
  let find := Statement.bind "record"
    (.await (.apply (.dotted (identifier entity) ["find_by_id"]) [.name "id"]))
  let receiver := if endpoint.onRecord then "record" else identifier entity
  let function := identifier endpoint.function
  let call := Expr.call (.dotted receiver [function]) [] [.spread (.name "payload")]
  (if takesQuery endpoint.verb then [gather] else []) ++
    (if endpoint.onRecord then [find] else []) ++
    [Statement.bind "result" (if endpoint.isAsync then .await call else call),
      .give (.apply (.name "serialize") [.name "result"])]

/-- The function of an endpoint. -/
def statement (endpoint : Endpoint) (entity : String) (idType : Expr) : Statement :=
  let id := if endpoint.onRecord then [Param.typed "id" idType none] else []
  .function true (identifier (endpoint.name entity)) (.of (id ++ [endpoint.argumentParam])) none
    [.apply (.dotted "router" [verbName endpoint.verb]) [.str endpoint.path]]
    (endpoint.body entity)

/-- Adds an endpoint to a router; one that names no record goes ahead of the one that reads a
record. -/
def addTo (endpoint : Endpoint) (entity : String) (idType : Expr) (module : Module) :
    Except Failure Module := do
  checkNames [endpoint.name entity, endpoint.function]
  let ahead := if endpoint.onRecord then none else some ("get_" ++ snakeCase entity)
  let imported := module.mergeImport "fastapi" [endpoint.needs]
  return imported.insertFunction (endpoint.statement entity idType) ahead

end Endpoint

/-- The module of an entity's router. -/
def routeModule (entity : String) : String := snakeCase (pluralize entity)

namespace Router

/-- A code of the web framework. -/
def statusCode (name : String) : Expr := .dotted "status" [name]

/-- Refuses a request with a reason. -/
def refuse (reason : Expr) : Statement :=
  .raise (some (.call (.name "HTTPException") []
    [.named "status_code" (.nat 400), .named "detail" reason])) none

/-- Reads the filter of a request. -/
def parseFilter : Statement :=
  let invalid := .formatted [.text "Invalid filter: ", .value (.dotted "e" ["msg"]) none none]
  .function false "parse_filter"
    (.of [.typed "text" (.optionalOf (.name "str")) none]) (some (.name "dict")) []
    [.branch (.unary .not (.name "text")) [.give (.dict [])] [],
      .attempt false [.bind "value" (.apply (.dotted "json" ["loads"]) [.name "text"])]
        [.mk (some (.dotted "json" ["JSONDecodeError"])) (some "e") [refuse invalid]] [] [],
      .branch (.unary .not (.apply (.name "isinstance") [.name "value", .name "dict"]))
        [refuse (.str "Invalid filter: expected an object")] [],
      .give (.name "value")]

/-- Makes what behaviors return fit for an answer. -/
def serialize (entity : String) : Statement :=
  let isOf (type : String) := Expr.apply (.name "isinstance") [.name "value", .name type]
  .function false "serialize" (.of [.plain "value"]) none []
    [.branch (isOf "list")
        [.give (.comprehension .list (.apply (.name "serialize") [.name "item"])
          [.mk false (.name "item") (.name "value") []])] [],
      .branch (isOf (identifier entity)) [.give (.apply (.dotted "value" ["to_dict"]) [])] [],
      .give (.name "value")]

/-- An endpoint over records. -/
def endpoint (verb path : String) (options : List Keyword) (name : String) (params : List Param)
    (returns : Expr) (body : List Statement) : Statement :=
  .function true (identifier name) (.of params) (some returns)
    [.call (.dotted "router" [verb]) [.str path] options] body

/-- Calls an operation of the business object and keeps its answer. -/
def ask (result entity operation : String) (arguments : List Expr) : Statement :=
  .bind result (.await (.apply (.dotted (identifier entity) [operation]) arguments))

/-- Gives back a result that is fit for an answer. -/
def answer (result : String) : Statement := .give (.apply (.name "serialize") [.name result])

def filterParam : Param := .typed "filter" (.optionalOf (.name "str")) (some .nothing)

/-- The filter of a request, read. -/
def filterValue : Expr := .apply (.name "parse_filter") [.name "filter"]

/-- The fields that a request gives. -/
def givenFields : Expr :=
  .call (.dotted "payload" ["model_dump"]) []
    [.named "exclude_unset" (.constant (.bool true))]

/-- The path of one record. -/
def recordPath : String := "/\x7bid\x7d"

variable (entity : String) (idType : Expr)

/-- The endpoints over an entity's records. -/
def endpoints : List Statement :=
  let single := snakeCase entity
  let id := Param.typed "id" idType none
  [endpoint "get" "" [] ("list_" ++ routeModule entity) [filterParam] (.listOf (.name "dict"))
      [ask "records" entity "find" [filterValue], answer "records"],
    endpoint "get" recordPath [] ("get_" ++ single) [id, filterParam] (.name "dict")
      [ask "record" entity "find_by_id" [.name "id", filterValue], answer "record"],
    endpoint "post" "" [.named "status_code" (statusCode "HTTP_201_CREATED")] ("create_" ++ single)
      [.typed "payload" (.name (identifier (entity ++ "Create"))) none] (.name "dict")
      [ask "record" entity "create" [givenFields], answer "record"],
    endpoint "patch" recordPath [] ("update_" ++ single)
      [id, .typed "payload" (.name (identifier (entity ++ "Update"))) none] (.name "dict")
      [ask "record" entity "update_by_id" [.name "id", givenFields], answer "record"],
    endpoint "delete" recordPath [.named "status_code" (statusCode "HTTP_204_NO_CONTENT")]
      ("delete_" ++ single) [id] (.name "Response")
      [.expr (.await (.apply (.dotted (identifier entity) ["delete_by_id"]) [.name "id"])),
        .give (.call (.name "Response") []
          [.named "status_code" (statusCode "HTTP_204_NO_CONTENT")])]]

/-- The router before behaviors are added. -/
def skeleton : Module where
  name := entity
  body := [
    .documentation ("Routes for " ++ entity ++ " records: /" ++ collectionPath entity ++ "."),
    .importingModule "json",
    .importing "typing" ["Optional"],
    .importing "fastapi" ["APIRouter", "HTTPException", "Response", "status"],
    .importing (businessObjectModule entity) [identifier entity],
    .importing ("app.schemas." ++ identifier (snakeCase entity))
      [identifier (entity ++ "Create"), identifier (entity ++ "Update")],
    .bind "router" (.call (.name "APIRouter") [] [
      .named "prefix" (.str ("/" ++ collectionPath entity)),
      .named "tags" (.list [.str entity])]),
    parseFilter,
    serialize entity] ++ endpoints entity idType

/-- Everything in the router that has to be a name. -/
def names : List String :=
  [entity, snakeCase entity, "list_" ++ routeModule entity, "get_" ++ snakeCase entity]

end Router

/-- Adds the endpoints of instance and class behaviors, in order. -/
def addEndpoints (entity : String) (idType : Expr) : List ActiveBehavior → Module → Step Module
  | [], module => return module
  | behavior :: rest, module =>
    if behavior.type.isMethod then do
      let endpoint := Endpoint.of behavior
      let module ← Step.ofExcept (endpoint.addTo entity idType module)
      Step.debug (Text.upper behavior.httpMethod.name ++ " " ++ endpoint.path ++ " -> " ++
        behavior.function.name)
      addEndpoints entity idType rest module
    else addEndpoints entity idType rest module

/-- The edited module of an entity's router. Its own functions are looked for by their names; a name and
its plural are in normal form together, so where the first function is found, the second is too. -/
def router (registry : Registry) (entity : Entity) : Step Module := do
  let identity ← Identity.resolve entity
  let _ ← resolveAssociations registry entity
  let idType := Expr.name identity.type.serverName
  Step.ofExcept (checkNames (Router.names entity.name))
  let skeleton := Router.skeleton entity.name idType
  let _ ← Step.ofExcept (skeleton.getFunction ("list_" ++ routeModule entity.name))
  let _ ← Step.ofExcept (skeleton.getFunction ("get_" ++ snakeCase entity.name))
  let behaviors ← ActiveBehavior.ofEntity registry entity
  addEndpoints entity.name idType behaviors skeleton

def routePath (name : String) : String := "server/app/routes/" ++ routeModule name ++ ".py"

/-- The file of an entity's router. -/
def generateRoute (declared : Declared Entity) (registry : Registry) : Step Produced := do
  let module ← router registry declared.unit
  return .text (← Step.ofExcept (module.render generatedHeader))

def routeGenerator : Generator where
  name := "business-object-route"
  target := "server"
  triggers := [⟨.entity, serverEntity⟩]
  outputs := byName fun name => [routePath name]
  generate := onUnit Unit.entity? generateRoute

end Blueprint.Server
