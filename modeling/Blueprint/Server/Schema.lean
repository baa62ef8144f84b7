import Blueprint.Generation.Generator
import Blueprint.Resolve.Mixin
import Blueprint.Resolve.Relationship
import Blueprint.Server.Behavior
import Blueprint.ServerCode.Literal
import Blueprint.Text.Lines

/-!
The table of an entity and the shapes of the requests that make and change its records. Scalar
properties become columns with what is known about how they are presented; associations become
foreign keys and relations; associations of other entities may put foreign keys here as well.
-/

namespace Blueprint.Server

open Design ServerCode Generation

/-- A column of a table. -/
structure Column where
  name : String
  type : Expr
  /-- Records may leave it out. -/
  optional : Bool
  /-- What is said about the column. -/
  arguments : List Keyword

/-- An association in the code of a table. -/
structure TableRelation where
  name : String
  type : Expr
  /-- How the other table is found. -/
  options : List (String × Literal)

/-- The table of an entity. -/
structure TableSchema where
  entity : String
  identity : Identity
  /-- The columns of the entity's own and of its mixins' properties. -/
  scalars : List Column
  /-- The foreign keys of the entity's associations that no property declares. -/
  ownKeys : List Column
  /-- The foreign keys that associations of other entities put here. -/
  incomingKeys : List Column
  relations : List TableRelation
  /-- What the types of the columns need, by module and name. -/
  imports : List (String × String)

namespace TableSchema

/-- All columns but the identity, in order. -/
def columns (table : TableSchema) : List Column :=
  table.scalars ++ table.ownKeys ++ table.incomingKeys

end TableSchema

/-- The name of an entity's table. -/
def tableName (entity : String) : String := snakeCase entity

/-- The column options that are kept, and the arguments they become. -/
def columnArguments : List (String × String) :=
  [("unique", "unique"), ("index", "index"), ("length", "max_length"), ("maxLength", "max_length"),
    ("nullable", "nullable")]

/-- An argument that is a literal. -/
def literalArgument (name : String) (value : Literal) : Keyword := .named name value.toExpr

/-- A rule as a dictionary. -/
def ruleLiteral (rule : ConditionalRule) : Literal :=
  .dict ((.text "condition", .text rule.condition) ::
    (rule.message.map fun text => (Literal.text "message", Literal.text text)).toList)

/-- An entry of a dictionary for a text that is not empty. -/
def textEntry (key : String) (text : Option String) : List (Literal × Literal) :=
  match Relationship.nonEmpty? text with
  | some text => [(.text key, .text text)]
  | none => []

/-- An entry of a dictionary for a flag that is set. -/
def flagEntry (key : String) (flag : Option Bool) : List (Literal × Literal) :=
  if flag.getD false then [(.text key, .bool true)] else []

/-- An entry of a dictionary for a rule. -/
def ruleEntry (key : String) (rule : Option ConditionalRule) : List (Literal × Literal) :=
  (rule.map fun rule => (Literal.text key, ruleLiteral rule)).toList

/-- What clients are told about how a property is presented. -/
def presentation (options : PropertyOptions) : List (Literal × Literal) :=
  flagEntry "hidden" options.hidden ++ flagEntry "disabled" options.disabled ++
    textEntry "placeholder" options.placeholder ++ textEntry "presentAs" options.presentAs ++
    ruleEntry "requiredWhen" options.requiredWhen ++ ruleEntry "excludeWhen" options.excludeWhen ++
    ruleEntry "disabledWhen" options.disabledWhen

/-- The default value that an initializer gives, as far as it can be written; none for an initializer
that is no literal. -/
def initialValue (initializer : String) : Except Failure (Option Literal) :=
  if initializer.isEmpty then .ok none
  else do
    match ← Literal.ofText initializer with
    | none | some .none => return none
    | some value =>
      let _ ← value.written
      return some value

/-- An argument for a text that is not empty. -/
def textArgument (name : String) (text : Option String) : List Keyword :=
  ((Relationship.nonEmpty? text).map fun text => literalArgument name (.text text)).toList

/-- The arguments of a property's column. -/
def fieldArguments (property : Property) (type : ServerType) (required : Bool) :
    Except Failure (List Keyword) := do
  let options := property.options
  let default := match ← initialValue property.initializer with
    | some value => [literalArgument "default" value]
    | none => if required then [] else [literalArgument "default" .none]
  let column := (options.column.getD []).filterMap fun (key, value) =>
    (columnArguments.lookup key).map fun name => literalArgument name (Literal.ofJson value)
  let json := if type.isJson then [Keyword.named "sa_type" (.name "JSON")] else []
  let extra := presentation options
  let extra :=
    if extra.isEmpty then []
    else [literalArgument "schema_extra" (.dict [(.text "json_schema_extra", .dict extra)])]
  return default ++ textArgument "title" options.displayName ++
    textArgument "description" options.helpText ++ column ++ json ++ extra

/-- The type of a property in server code. -/
def propertyType (entities : List String) (property : Property) : ServerType :=
  ServerType.ofName entities property.type.name property.type.array

/-- A property has to be given. -/
def isRequired (property : Property) : Bool :=
  property.options.required.getD false || !property.optional

/-- The column of a property. -/
def scalarColumn (entities : List String) (property : Property) : Except Failure Column := do
  let type := propertyType entities property
  let arguments ← fieldArguments property type (isRequired property)
  return ⟨property.name, .ofType type, !isRequired property, arguments⟩

/-- What the type of a property needs. -/
def columnImports (entities : List String) (property : Property) : List (String × String) :=
  let type := propertyType entities property
  type.requiredImport?.toList ++ (if type.isJson then [("sqlalchemy", "JSON")] else [])

/-- A column that holds the identity of a record of another table. -/
def foreignKeyColumn (name : String) (type : IdentityType) (target : Entity) : Column :=
  let key := tableName target.name ++ "." ++ (Identity.of target).name
  ⟨name, .name type.serverName, true,
    [literalArgument "default" .none, literalArgument "foreign_key" (.text key)]⟩

/-- The foreign keys of associations, those that are declared already left out. -/
def ownKeyColumns (registry : Registry) (entity : String) (declared : List String) :
    List Relationship → Except Failure (List Column)
  | [] => .ok []
  | relationship :: rest => do
    match registry.findEntity? relationship.target with
    | none => throw (.unitNotFound .entity relationship.target (some entity))
    | some target =>
      let key := relationship.foreignKey
      if !relationship.kind.isOwnerSide || declared.contains key then
        ownKeyColumns registry entity declared rest
      else
        let others ← ownKeyColumns registry entity (key :: declared) rest
        return foreignKeyColumn key relationship.foreignKeyType target.unit :: others

/-- An association in the code of its entity's table. -/
def relationOf (entity : String) (identity : Identity) (relationship : Relationship) :
    TableRelation :=
  let target := relationship.target
  let holder := if relationship.kind.isOwnerSide then entity else target
  let key := ("foreign_keys", Literal.text ("[" ++ holder ++ "." ++ relationship.foreignKey ++ "]"))
  let single := Expr.optionalOf (.str target)
  match relationship.kind with
  | .belongsTo | .references =>
    let remote :=
      if target == entity then [("remote_side", Literal.text (entity ++ "." ++ identity.name))]
      else []
    ⟨relationship.name, single, key :: remote⟩
  | .hasOne => ⟨relationship.name, single, [key, ("uselist", .bool false)]⟩
  | .hasMany => ⟨relationship.name, .listOf (.str target), [key]⟩

/-- The foreign keys that associations of other entities put on an entity. -/
def incomingKeyColumns (registry : Registry) (keys : List IncomingKey) :
    Except Failure (List Column) :=
  keys.mapM fun key =>
    match registry.findEntity? key.source with
    | some source => .ok (foreignKeyColumn key.name key.type source.unit)
    | none => .error (.unitNotFound .entity key.source none)

/-- The properties that become columns: neither associations nor the identity. -/
def scalarProperties (identity : Identity) (relationships : List Relationship)
    (properties : List Property) : List Property :=
  properties.filter fun property =>
    !(relationships.map Relationship.name).contains property.name && property.name != identity.name

/-- The table of an entity. -/
def tableSchema (registry : Registry) (entity : Entity) : Step TableSchema := do
  let identity ← Identity.resolve entity
  let properties ← effectiveProperties registry (.entity entity)
  let relationships ← Relationship.resolve registry entity properties
  let entities := registry.entityNames
  let columns := scalarProperties identity relationships properties
  let scalars ← Step.ofExcept (columns.mapM (scalarColumn entities))
  let ownKeys ← Step.ofExcept
    (ownKeyColumns registry entity.name (scalars.map Column.name) relationships)
  let incoming ← Relationship.incoming registry entity ((scalars ++ ownKeys).map Column.name)
  let incomingKeys ← Step.ofExcept (incomingKeyColumns registry incoming)
  return { entity := entity.name, identity, scalars, ownKeys, incomingKeys
           relations := relationships.map (relationOf entity.name identity)
           imports := columns.flatMap (columnImports entities) }

section Declarations

-- How a word is spelled as a name: as it is written, or in its normal form.
variable (spell : String → String)

/-- The statement of a column in a table. -/
def Column.declaration (column : Column) : Statement :=
  let type := if column.optional then Expr.optionalOf column.type else column.type
  .annotate (.name (spell column.name)) false type
    (some (.call (.name "Field") [] column.arguments))

/-- The statement of a column in a request that changes a record. -/
def Column.change (column : Column) : Statement :=
  .annotate (.name (spell column.name)) false (.optionalOf column.type) (some .nothing)

/-- The statement of an association. -/
def TableRelation.declaration (relation : TableRelation) : Statement :=
  let options := relation.options.map fun option => (Literal.text option.1, option.2)
  .annotate (.name (spell relation.name)) false relation.type
    (some (.call (.name "Relationship") []
      [literalArgument "sa_relationship_kwargs" (.dict options)]))

namespace TableSchema

/-- The statement of the identity. -/
def identityDeclaration (table : TableSchema) : Statement :=
  .annotate (.name (spell table.identity.name)) false
    (.optionalOf (.name table.identity.type.serverName))
    (some (.call (.name "Field") []
      [literalArgument "default" .none, literalArgument "primary_key" (.bool true)]))

/-- The statements of a class, which has at least one. -/
def orPass (body : List Statement) : List Statement := if body.isEmpty then [.pass] else body

/-- The statements of a table's module, without what its columns need. -/
def statements (table : TableSchema) : List Statement :=
  let entity := table.entity
  let base := spell (entity ++ "Base")
  [.documentation (entity ++ " table and request schemas."),
    .importing "typing" ["Optional"],
    .importing "sqlmodel" ["Field", "Relationship", "SQLModel"],
    .classDef base [.name "SQLModel"] [] []
      (orPass (table.columns.map (Column.declaration spell))),
    .classDef (spell entity) [.name base] [.named "table" (.constant (.bool true))] []
      (.bind "__tablename__" (.str (tableName entity)) :: table.identityDeclaration spell ::
        table.relations.map (TableRelation.declaration spell)),
    .classDef (spell (entity ++ "Create")) [.name base] [] [] [.pass],
    .classDef (spell (entity ++ "Update")) [.name "SQLModel"] [] []
      (orPass (table.columns.map (Column.change spell)))]

end TableSchema

end Declarations

namespace TableSchema

/-- Everything that has to be a name. -/
def names (table : TableSchema) : List String :=
  table.entity :: table.identity.name ::
    (table.columns.map Column.name ++ table.relations.map TableRelation.name)

/-- The module of a table. Foreign keys are written by authors and may be more than names: then the
code as it is written says what the module is. -/
def module (table : TableSchema) : Except Failure Module := do
  let body ←
    if table.names.all isName then pure (table.statements identifier)
    else readModule (moduleText (table.statements id))
  let module : Module := { name := table.entity, body }
  let _ ← module.getClass table.entity
  let sources := Text.sortedSet (table.imports.map (·.1))
  return sources.foldl (fun module source =>
    module.mergeImport source ((table.imports.filter (·.1 == source)).map (·.2))) module

end TableSchema

def schemaPath (name : String) : String := "server/app/schemas/" ++ snakeCase name ++ ".py"

/-- The file of an entity's table. -/
def generateSchema (declared : Declared Entity) (registry : Registry) : Step Produced := do
  let table ← tableSchema registry declared.unit
  let module ← Step.ofExcept table.module
  Step.debug (toString table.columns.length ++ " column(s), " ++
    toString table.relations.length ++ " relationship(s)")
  return .text (← Step.ofExcept (module.render generatedHeader))

def schemaGenerator : Generator where
  name := "business-object-schema"
  target := "server"
  triggers := [⟨.entity, serverEntity⟩]
  outputs := byName fun name => [schemaPath name]
  generate := onUnit Unit.entity? generateSchema

end Blueprint.Server
