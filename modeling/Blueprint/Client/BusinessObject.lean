import Blueprint.ClientCode.Source
import Blueprint.Generation.Generator
import Blueprint.Resolve.Mixin
import Blueprint.Resolve.Relationship

/-!
Business objects of the client: the class of an entity whose operations ask the server, with a stub
for every instance or class behavior, and the interface of a record's fields.
-/

namespace Blueprint.Client

open Design ClientCode Generation

/-- The directory of business objects. -/
def businessObjectsDirectory : String := "client/src/app/business-objects"

/-- A field of a record. -/
structure DataMember where
  name : String
  type : String
  optional : Bool := true
  readonly : Bool := false
  /-- The field holds records of an associated entity. -/
  isRelation : Bool := false
  deriving DecidableEq, Repr

def DataMember.line (member : DataMember) : String :=
  "  " ++ (if member.readonly then "readonly " else "") ++ member.name ++
    (if member.optional then "?" else "") ++ ": " ++ member.type ++ ";"

/-- The client type of a property. -/
def typeOf (type : TypeRef) : String := clientType type.name type.array

/-- The fields of properties; those that are declared or associations are left out. -/
def propertyMembers (related : List String) (declared : List String) :
    List Design.Property → List DataMember
  | [] => []
  | property :: rest =>
    if declared.contains property.name || related.contains property.name then
      propertyMembers related declared rest
    else
      { name := property.name, type := typeOf property.type
        optional := property.optional || !property.options.required.getD false } ::
        propertyMembers related (property.name :: declared) rest

/-- The fields of associations: a foreign key, unless it is declared, and the associated records. -/
def relationshipMembers (declared : List String) : List Relationship → List DataMember
  | [] => []
  | relationship :: rest =>
    let key := relationship.foreignKey
    let isNew := relationship.kind.isOwnerSide && !declared.contains key
    let keys : List DataMember :=
      if isNew then [{ name := key, type := relationship.foreignKeyType.name }] else []
    let suffix := if relationship.kind == .hasMany then "[]" else ""
    keys ++
      { name := relationship.name, type := relationship.target ++ suffix, isRelation := true } ::
      relationshipMembers (if isNew then key :: declared else declared) rest

/-- The fields of a record. -/
def dataMembers (identity : Identity) (properties : List Design.Property)
    (relationships : List Relationship) : List DataMember :=
  let first : DataMember :=
    { name := identity.name, type := identity.type.name, optional := false, readonly := true }
  let scalars := propertyMembers (relationships.map Relationship.name) [identity.name] properties
  first :: scalars ++
    relationshipMembers (identity.name :: scalars.map DataMember.name) relationships

/-- The interface of a record's fields. -/
def dataInterface (entity : String) (members : List DataMember) : String :=
  Text.unlines (("export interface " ++ entity ++ "Data \x7b") :: members.map DataMember.line ++
    ["\x7d"])

/-- The call of the base class for a verb, and whether its arguments travel in the address. -/
def helperOf : HttpMethod → String × Bool
  | .post => ("post", false)
  | .put => ("put", false)
  | .patch => ("patch", false)
  | .get => ("get", true)
  | .delete => ("del", true)

/-- The stub of a behavior. -/
structure Stub where
  verb : HttpMethod
  /-- The behavior is called on a record. -/
  onRecord : Bool
  function : String
  /-- The parameters that are sent. -/
  params : List Parameter
  returns : String

namespace Stub

/-- The stub of an instance or class behavior. The first parameter of an instance behavior is the
record itself. -/
def of (behavior : ActiveBehavior) : Stub :=
  let onRecord := behavior.type == .ofInstance
  let params := behavior.function.params
  { verb := behavior.httpMethod, onRecord, function := behavior.function.name
    params := if onRecord then params.drop 1 else params
    returns := (behavior.returnType?.map typeOf).getD "any" }

/-- The address that a stub asks, below that of its entity's records. -/
def path (stub : Stub) (idField : String) : String :=
  (if stub.onRecord then "/$\x7bthis." ++ idField ++ "\x7d/" else "/") ++ kebabCase stub.function

/-- The object of the arguments that are sent. -/
def values (stub : Stub) : String :=
  if stub.params.isEmpty then "\x7b\x7d"
  else "\x7b " ++ ", ".intercalate (stub.params.map Parameter.name) ++ " \x7d"

/-- A parameter with its type. -/
def paramText (param : Parameter) : String :=
  param.name ++ (if param.optional then "?" else "") ++ ": " ++ (param.type.map typeOf).getD "any"

/-- The method of a stub. -/
def method (stub : Stub) (entity idField : String) : ClientCode.Method :=
  let (helper, asQuery) := helperOf stub.verb
  let argument := if asQuery then entity ++ ".queryParams(" ++ stub.values ++ ")" else stub.values
  let url := "`$\x7b" ++ entity ++ ".collectionUrl()\x7d" ++ stub.path idField ++ "`"
  { name := stub.function
    params := stub.params.map paramText
    returns := some ("Promise<" ++ stub.returns ++ ">")
    body := "return " ++ entity ++ "." ++ helper ++ "<" ++ stub.returns ++ ">(" ++ url ++ ", " ++
      argument ++ ");"
    isAsync := true
    modifiers := if stub.onRecord then [] else ["static"] }

end Stub

/-- An operation of the class itself that may be waited for. -/
def operation (name : String) (params : List String) (result : String) (body : List String) :
    Member :=
  .method { name, params, returns := some ("Promise<" ++ result ++ ">"), body := Text.unlines body
            isAsync := true, modifiers := ["static"] }

/-- The operations over records. -/
def operations (entity idType : String) : List Member :=
  let data := entity ++ "Data"
  let id := "id: " ++ idType
  let filter := "filter?: QueryFilter"
  let fields := "data: Partial<" ++ data ++ ">"
  let record := "`$\x7bthis.collectionUrl()\x7d/$\x7bid\x7d`"
  let wrap := "return new " ++ entity ++ "(item);"
  [operation "find" [filter] (entity ++ "[]")
      ["const results = await this.get<" ++ data ++
        "[]>(this.collectionUrl(), this.filterParams(filter));",
        "return results.map((item) => new " ++ entity ++ "(item));"],
    operation "findOne" [filter] (entity ++ " | undefined")
      ["const results = await " ++ entity ++ ".find(\x7b ...filter, limit: 1 \x7d);",
        "return results[0];"],
    operation "findById" [id, filter] entity
      ["const item = await this.get<" ++ data ++ ">(" ++ record ++ ", this.filterParams(filter));",
        wrap],
    operation "create" [fields] entity
      ["const item = await this.post<" ++ data ++ ">(this.collectionUrl(), data);", wrap],
    operation "updateById" [id, fields] entity
      ["const item = await this.patch<" ++ data ++ ">(" ++ record ++ ", data);", wrap],
    operation "deleteById" [id] "boolean"
      ["try \x7b",
        "  await this.del<void>(" ++ record ++ ");",
        "  return true;",
        "\x7d catch \x7b",
        "  return false;",
        "\x7d"]]

/-- A field of the class itself that replaces one of its base. -/
def classField (name value : String) : Member :=
  .property { name, initial := some (quoted value), modifiers := ["static", "override"] }

/-- The class of an entity. -/
def businessObjectClass (entity : String) (identity : Identity) (stubs : List Stub) : ClassDecl :=
  { name := entity
    base := some "BusinessObjectBase"
    members := [classField "entityName" entity, classField "plural" (collectionPath entity),
      classField "idField" identity.name] ++
      operations entity identity.type.name ++
      stubs.map fun stub => .method (stub.method entity identity.name) }

/-- The source file of an entity's business object. -/
def businessObjectSource (entity : String) (identity : Identity) (members : List DataMember)
    (relationships : List Relationship) (stubs : List Stub) : Source :=
  let start := Source.addImport { name := entity } "./base" ["BusinessObjectBase", "QueryFilter"]
  let imported := (relationships.filter (·.target != entity)).foldl
    (fun source relationship =>
      source.addImport ("./" ++ kebabCase relationship.target) [relationship.target]) start
  let stated := (imported.addStatement (dataInterface entity members)).addStatement
    ("export interface " ++ entity ++ " extends " ++ entity ++ "Data \x7b\x7d")
  { stated with classes := [businessObjectClass entity identity stubs] }

def businessObjectPath (name : String) : String :=
  businessObjectsDirectory ++ "/" ++ kebabCase name ++ ".ts"

/-- The file of an entity's business object. -/
def generateBusinessObject (declared : Declared Entity) (registry : Registry) : Step Produced := do
  let entity := declared.unit
  let identity ← Identity.resolve entity
  let properties ← effectiveProperties registry (.entity entity)
  let relationships ← Relationship.resolve registry entity properties
  let members := dataMembers identity properties relationships
  let behaviors ← ActiveBehavior.ofEntity registry entity
  let stubs := (behaviors.filter (·.type.isMethod)).map Stub.of
  return .text (businessObjectSource entity.name identity members relationships stubs).render

def businessObjectGenerator : Generator where
  name := "business-object-client"
  target := "client"
  triggers := [⟨.entity, notLibrary⟩]
  outputs := byName fun name => [businessObjectPath name]
  generate := onUnit Unit.entity? generateBusinessObject

end Blueprint.Client
