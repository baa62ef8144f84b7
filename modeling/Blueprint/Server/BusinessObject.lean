import Blueprint.Generation.Generator
import Blueprint.Resolve.Mixin
import Blueprint.Resolve.Relationship
import Blueprint.Server.Behavior

/-!
Business objects: the class of an entity with operations over its data source. Instance and class
behaviors become methods of the class; lifecycle behaviors are spliced in around the statement of an
operation that touches the data source.
-/

namespace Blueprint.Server

open Design ServerCode Generation

namespace BusinessObject

/-- The name of the entity, as an operation sees it. -/
def entityName : Expr := .dotted "cls" ["entity_name"]

/-- The name of the identity, as an operation sees it. -/
def idField : Expr := .dotted "cls" ["id_field"]

/-- An operation over records: what it does before and after it touches the data source. -/
structure Operation where
  name : String
  params : List Param
  returns : Expr
  before : List Statement
  store : Statement
  after : List Statement

/-- The statements of an operation. -/
def Operation.body (operation : Operation) : List Statement :=
  operation.before ++ operation.store :: operation.after

/-- A method of the class itself that may be waited for. -/
def classMethod (name : String) (params : List Param) (returns : Expr) (body : List Statement) :
    Statement :=
  .function true name (.of (.plain "cls" :: params)) (some returns) [.name "classmethod"] body

def Operation.method (operation : Operation) : Statement :=
  classMethod operation.name operation.params operation.returns operation.body

/-- Asks the data source and keeps its answer. -/
def storeCall (result request : String) (arguments : List Expr) : Statement :=
  .bind result (.await (.apply (.dotted "cls" ["data_source", request]) (entityName :: arguments)))

/-- A dictionary with the identity of a record. -/
def idCondition : Expr := .dict [.pair idField (.name "id")]

/-- A value, or an empty dictionary in its place. -/
def orEmpty (name : String) : Expr := .logic .or [.name name, .dict []]

/-- Every record as an object. -/
def allRecords : Statement :=
  .give (.comprehension .list (.call (.name "cls") [] [.spread (.name "record")])
    [.mk false (.name "record") (.name "records") []])

/-- The first record as an object. -/
def firstRecord : Statement :=
  .give (.call (.name "cls") [] [.spread (.subscript (.name "records") (.nat 0))])

/-- Reports that no record was found if an answer is empty. -/
def failWithout (answer : String) : Statement :=
  .branch (.unary .not (.name answer))
    [.raise (some (.apply (.name "NotFoundError") [entityName, .name "id"])) none] []

def dictParam (name : String) : Param := .typed name (.name "dict") none

def optionalDictParam (name : String) : Param :=
  .typed name (.optionalOf (.name "dict")) (some .nothing)

variable (entity : String) (idType : Expr)

def idParam : Param := .typed "id" idType none

/-- A list of objects of the class. -/
def objects : Expr := .listOf (.str entity)

def find : Operation where
  name := "find"
  params := [optionalDictParam "query_filter"]
  returns := objects entity
  before := [.bind "query_filter" (.apply (.name "dict") [orEmpty "query_filter"])]
  store := storeCall "records" "find" [.name "query_filter"]
  after := [allRecords]

def findById : Operation where
  name := "find_by_id"
  params := [idParam idType, optionalDictParam "query_filter"]
  returns := .str entity
  before := [.bind "query_filter" (.dict [.spread (orEmpty "query_filter"),
    .pair (.str "where") idCondition, .pair (.str "limit") (.nat 1)])]
  store := storeCall "records" "find" [.name "query_filter"]
  after := [failWithout "records", firstRecord]

def create : Operation where
  name := "create"
  params := [dictParam "data"]
  returns := .str entity
  before := [.bind "data_items" (.list [.name "data"])]
  store := storeCall "records" "create" [.name "data_items"]
  after := [firstRecord]

def createMany : Operation where
  name := "create_many"
  params := [.typed "data" (.listOf (.name "dict")) none]
  returns := objects entity
  before := [.bind "data_items" (.name "data")]
  store := storeCall "records" "create" [.name "data_items"]
  after := [allRecords]

def update : Operation where
  name := "update"
  params := [dictParam "where", dictParam "data"]
  returns := objects entity
  before := [.bind "updates" (.name "data")]
  store := storeCall "records" "update" [.name "where", .name "updates"]
  after := [allRecords]

def updateById : Operation where
  name := "update_by_id"
  params := [idParam idType, dictParam "data"]
  returns := .str entity
  before := [.bind "where" idCondition, .bind "updates" (.name "data")]
  store := storeCall "records" "update" [.name "where", .name "updates"]
  after := [failWithout "records", firstRecord]

def delete : Operation where
  name := "delete"
  params := [dictParam "where"]
  returns := .name "int"
  before := []
  store := storeCall "deleted" "delete" [.name "where"]
  after := [.give (.name "deleted")]

def deleteById : Operation where
  name := "delete_by_id"
  params := [idParam idType]
  returns := .name "int"
  before := [.bind "where" idCondition]
  store := storeCall "deleted" "delete" [.name "where"]
  after := [failWithout "deleted", .give (.name "deleted")]

/-- Makes an object from its fields. -/
def initMethod : Statement :=
  .function false "__init__"
    (.mk [] [.plain "self"] none [] (some (.typed "data" (.name "Any") none))) none []
    [.expr (.apply (.dotted "self" ["__dict__", "update"]) [.name "data"])]

/-- The fields of an object. -/
def toDictMethod : Statement :=
  .function false "to_dict" (.of [.plain "self"]) (some (.name "dict")) []
    [.give (.apply (.name "dict") [.dotted "self" ["__dict__"]])]

/-- The first record that a filter finds. -/
def findOneMethod : Statement :=
  classMethod "find_one" [optionalDictParam "query_filter"] (.optionalOf (.str entity))
    [.bind "results" (.await (.apply (.dotted "cls" ["find"])
      [.dict [.spread (orEmpty "query_filter"), .pair (.str "limit") (.nat 1)]])),
      .give (.conditional (.subscript (.name "results") (.nat 0)) (.name "results") .nothing)]

/-- Looks for a record under a condition. -/
def lookFor : Statement :=
  .bind "existing" (.await (.apply (.dotted "cls" ["find_one"])
    [.dict [.pair (.str "where") (.name "where")]]))

/-- A record that meets a condition, made if there is none. -/
def findOrCreateMethod : Statement :=
  classMethod "find_or_create" [dictParam "where", optionalDictParam "defaults"] (.str entity)
    [lookFor,
      .branch (.compare (.name "existing") [.mk .notSame .nothing]) [.give (.name "existing")] [],
      .give (.await (.apply (.dotted "cls" ["create"])
        [.dict [.spread (orEmpty "defaults"), .spread (.name "where")]]))]

/-- How many records meet a condition. -/
def countMethod : Statement :=
  classMethod "count" [optionalDictParam "where"] (.name "int")
    [.give (.await (.apply (.dotted "cls" ["data_source", "count"]) [entityName, orEmpty "where"]))]

/-- Changes a record that meets a condition, or makes one. -/
def upsertMethod : Statement :=
  classMethod "upsert" [dictParam "where", dictParam "data"] (.str entity)
    [lookFor,
      .branch (.compare (.name "existing") [.mk .same .nothing])
        [.give (.await (.apply (.dotted "cls" ["create"])
          [.dict [.spread (.name "where"), .spread (.name "data")]]))] [],
      .give (.await (.apply (.dotted "cls" ["update_by_id"])
        [.apply (.name "getattr") [.name "existing", idField], .name "data"]))]

/-- Stores the fields of an object. -/
def saveMethod : Statement :=
  .function true "save" (.of [.plain "self"]) (some (.str entity)) []
    [.documentation "Persist the current field values of this record.",
      .bind "updated" (.await (.apply
        (.attribute (.apply (.name "type") [.name "self"]) "update_by_id")
        [.apply (.name "getattr") [.name "self", .dotted "self" ["id_field"]],
          .apply (.dotted "self" ["to_dict"]) []])),
      .expr (.apply (.dotted "self" ["__dict__", "update"])
        [.apply (.dotted "updated" ["to_dict"]) []]),
      .give (.name "self")]

/-- The methods of the class before behaviors are added. -/
def methods : List Statement :=
  [initMethod, toDictMethod, (find entity).method, findOneMethod entity,
    (findById entity idType).method, findOrCreateMethod entity, countMethod,
    (create entity).method, (createMany entity).method, (update entity).method,
    (updateById entity idType).method, upsertMethod entity, delete.method,
    (deleteById idType).method, saveMethod entity]

/-- What stands ahead of the methods of the class. -/
def attributes (idField : String) : List Statement :=
  [.documentation ("Records of " ++ entity ++ " with CRUD operations over its data source."),
    .bind "entity_name" (.str entity),
    .bind "id_field" (.str idField),
    .bind "data_source" (.name "_data_source")]

/-- The class before behaviors are added. -/
def classDef (idField : String) : Statement :=
  .classDef (identifier entity) [] [] [] (attributes entity idField ++ methods entity idType)

/-- The module before behaviors are added. -/
def skeleton (idField dataSource : String) : Module where
  name := entity
  body := [
    .documentation (entity ++ " business object."),
    .importing "typing" ["Any", "Optional"],
    .importing "app.core.errors" ["NotFoundError"],
    .importingAs ("app.data_sources." ++ identifier dataSource) "data_source" "_data_source",
    classDef entity idType idField]

end BusinessObject

/-- The operations that a lifecycle behavior is spliced into, and where. -/
def splicePlaces : BehaviorType → Option (List String × SplicePosition)
  | .beforeCreate => some (["create", "create_many"], .before)
  | .afterCreate => some (["create", "create_many"], .after)
  | .beforeUpdate => some (["update", "update_by_id"], .before)
  | .afterUpdate => some (["update", "update_by_id"], .after)
  | .beforeDelete => some (["delete", "delete_by_id"], .before)
  | .afterDelete => some (["delete", "delete_by_id"], .after)
  | .beforeRead => some (["find", "find_by_id"], .before)
  | .afterRead => some (["find", "find_by_id"], .after)
  | _ => none

/-- The method that an instance or class behavior becomes, up to its body: parameters are checked,
and what it uses is imported inside. An instance behavior names its first parameter for the
object. -/
def behaviorMethod (className : String) (behavior : ActiveBehavior) (entities : List String) :
    Except Failure (List Statement → Statement) := do
  let used ← usedBusinessObjects behavior (some className)
  let isInstance := behavior.type == .ofInstance
  let given := if isInstance then behavior.function.params.drop 1 else behavior.function.params
  let params ← behaviorParams behavior.name entities false given
  checkNames (behavior.function.name :: given.map Parameter.name)
  let imports ← used.mapM importBusinessObject
  let receiver := if isInstance then behavior.function.params.head?.map Parameter.name else none
  checkNames receiver.toList
  let lead := receiver.toList.map fun name => Statement.bind (identifier name) (.name "self")
  let self := if isInstance then "self" else "cls"
  let decorators := if isInstance then [] else [Expr.name "classmethod"]
  return fun body => .function behavior.function.async (identifier behavior.function.name)
    (.of (.plain self :: params)) (returnsOf behavior entities) decorators (imports ++ lead ++ body)

/-- Adds the method of an instance or class behavior. -/
def addBehaviorMethod (module : Module) (className : String) (behavior : ActiveBehavior)
    (entities : List String) : Except Failure Module := do
  let method ← behaviorMethod className behavior entities
  let (kept, placeholder) := module.keepBody behavior.function.body
  return kept.appendMethod className (method [placeholder])

/-- The body of a lifecycle behavior after the imports of what it uses. -/
def lifecycleBody (className : String) (behavior : ActiveBehavior) : Except Failure String := do
  let used ← usedBusinessObjects behavior (some className)
  return Text.unlines (used.map businessObjectImport ++ [behavior.function.body])

/-- Splices a body into some operations. -/
def spliceInto (className : String) (position : SplicePosition) (body : String) :
    List String → Module → Except Failure Module
  | [], module => .ok module
  | method :: rest, module => do
    let changed ← module.spliceStatements className method position
      [.bind "model" (.name "cls")] body
    spliceInto className position body rest changed

/-- Adds a behavior to the class of an entity. -/
def addBehavior (className : String) (entities : List String) (module : Module)
    (behavior : ActiveBehavior) : Step Module := do
  let imports ← Step.ofExcept (otherImports behavior.imports)
  let module ← Step.ofExcept (module.addImportStatements imports).result
  if behavior.type.isMethod then
    let module ← Step.ofExcept (addBehaviorMethod module className behavior entities)
    Step.debug (Text.lower behavior.type.name ++ " method " ++ behavior.function.name)
    return module
  else match splicePlaces behavior.type with
    | some (methods, position) =>
      let body ← Step.ofExcept (lifecycleBody className behavior)
      let module ← Step.ofExcept (spliceInto className position body methods module)
      Step.debug (behavior.type.name ++ " spliced from " ++ behavior.name)
      return module
    | none => return module

/-- Adds behaviors in order. -/
def addBehaviors (className : String) (entities : List String) :
    List ActiveBehavior → Module → Step Module
  | [], module => return module
  | behavior :: rest, module => do
    let module ← addBehavior className entities module behavior
    addBehaviors className entities rest module

/-- The edited module of an entity's business object. -/
def businessObject (registry : Registry) (entity : Entity) (dataSource : String) : Step Module := do
  let identity ← Identity.resolve entity
  let source := snakeCase dataSource
  Step.ofExcept (checkNames [entity.name, source])
  let skeleton := BusinessObject.skeleton entity.name (.name identity.type.serverName)
    identity.name source
  let _ ← Step.ofExcept (skeleton.getClass entity.name)
  let behaviors ← ActiveBehavior.ofEntity registry entity
  addBehaviors entity.name registry.entityNames behaviors skeleton

/-- The associations of an entity over its own and its mixins' properties; both have to resolve. -/
def resolveAssociations (registry : Registry) (entity : Entity) : Step (List Relationship) := do
  let properties ← (effectiveProperties registry (.entity entity)).silently
  Relationship.resolve registry entity properties

/-- The data source of an entity that has one. -/
def storeOf (registry : Registry) (entity : Entity) : Step String := do
  match ← Step.ofExcept (registry.dataSourceFor entity) with
  | some source => return source.unit.name
  | none => Step.fail (.unitNotFound .dataSource "" (some entity.name))

def businessObjectPath (name : String) : String :=
  "server/app/business_objects/" ++ snakeCase name ++ ".py"

/-- The file of an entity's business object. -/
def generateBusinessObject (declared : Declared Entity) (registry : Registry) : Step Produced := do
  let entity := declared.unit
  let dataSource ← storeOf registry entity
  Step.debug ("data source " ++ dataSource)
  let _ ← resolveAssociations registry entity
  let module ← businessObject registry entity dataSource
  return .text (← Step.ofExcept (module.render generatedHeader))

def businessObjectGenerator : Generator where
  name := "business-object"
  target := "server"
  triggers := [⟨.entity, serverEntity⟩]
  outputs := byName fun name => [businessObjectPath name]
  generate := onUnit Unit.entity? generateBusinessObject

end Blueprint.Server
