import Blueprint.Text.Case

/-!
The scalar types of a design and the types that stand for them in generated code. Names are read
without regard to case. A type that is no scalar is an entity, given as a forward reference on the
server, or something the generator knows nothing about.
-/

namespace Blueprint

/-- What can identify a record. -/
inductive IdentityType where
  | number
  | string
  deriving DecidableEq, Repr

/-- The name of an identity type in a design. -/
def IdentityType.name : IdentityType → String
  | .number => "number"
  | .string => "string"

/-- The server type of an identity. -/
def IdentityType.serverName : IdentityType → String
  | .number => "int"
  | .string => "str"

/-- The scalar types an author may write. -/
inductive Scalar where
  | string | text | uuid | email
  | number | integer | serial
  | boolean | date | datetime | any | object | json | void
  deriving DecidableEq, Repr

namespace Scalar

/-- Every scalar with the name it is written by. -/
def table : List (String × Scalar) :=
  [("string", string), ("text", text), ("uuid", uuid), ("email", email), ("number", number),
    ("integer", integer), ("serial", serial), ("boolean", boolean), ("date", date),
    ("datetime", datetime), ("any", any), ("object", object), ("json", json), ("void", void)]

/-- The scalar of a name, whatever its case. -/
def ofName? (name : String) : Option Scalar := table.lookup (Text.lower name)

/-- The identity a scalar can hold. -/
def identity? : Scalar → Option IdentityType
  | string | text | uuid | email => some .string
  | number | integer | serial => some .number
  | _ => none

/-- The type of client code. -/
def clientType : Scalar → String
  | string | text | uuid | email => "string"
  | number | integer | serial => "number"
  | boolean => "boolean"
  | date | datetime => "Date"
  | any => "any"
  | object | json => "Record<string, any>"
  | void => "void"

end Scalar

/-- A type of server code. -/
inductive ServerType where
  /-- A type known by one name. -/
  | named (name : String)
  /-- A dictionary of anything by text. -/
  | dictionary
  /-- An entity, quoted because its class may be defined later. -/
  | forward (entity : String)
  | list (item : ServerType)
  deriving DecidableEq, Repr

namespace ServerType

/-- The type of anything. -/
def any : ServerType := named "Any"

/-- A type as it is written in an annotation. -/
def text : ServerType → String
  | named name => name
  | dictionary => "dict[str, Any]"
  | forward entity => "\"" ++ entity ++ "\""
  | list item => "list[" ++ item.text ++ "]"

/-- The server type of a scalar. -/
def ofScalar : Scalar → ServerType
  | .string | .text | .uuid | .email => named "str"
  | .number => named "float"
  | .integer | .serial => named "int"
  | .boolean => named "bool"
  | .date => named "date"
  | .datetime => named "datetime"
  | .any => any
  | .object | .json => dictionary
  | .void => named "None"

/-- The server type of a design type. Entities are forward references; a name that is neither
scalar nor entity may be anything. -/
def ofName (entities : List String) (name : String) (array : Bool) : ServerType :=
  let item := match Scalar.ofName? name with
    | some scalar => ofScalar scalar
    | none => if entities.contains name then forward name else any
  if array then list item else item

/-- The type of the items of a list, else the type itself. -/
def item : ServerType → ServerType
  | list inner => inner
  | type => type

/-- The module and the name to import for a type. -/
def requiredImport? (type : ServerType) : Option (String × String) :=
  match type.item with
  | named "date" => some ("datetime", "date")
  | named "datetime" => some ("datetime", "datetime")
  | named "Any" | dictionary => some ("typing", "Any")
  | _ => none

/-- Lists, dictionaries and values of any type are stored as JSON. -/
def isJson : ServerType → Bool
  | list _ => true
  | type => type == any || type == dictionary

end ServerType

/-- A name that is a scalar type. -/
def isScalar (name : String) : Bool := (Scalar.ofName? name).isSome

/-- The identity a design type can hold. -/
def identityType? (name : String) : Option IdentityType :=
  (Scalar.ofName? name).bind Scalar.identity?

/-- The client type of a design type; names that are no scalars pass through. -/
def clientType (name : String) (array : Bool) : String :=
  let item := match Scalar.ofName? name with
    | some scalar => scalar.clientType
    | none => if name.isEmpty then "any" else name
  if array then item ++ "[]" else item

end Blueprint
