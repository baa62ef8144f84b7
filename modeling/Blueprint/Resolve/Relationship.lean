import Blueprint.Naming
import Blueprint.Registry
import Blueprint.ScalarType
import Blueprint.Step
import Blueprint.Text.CharTables

/-!
The identity of an entity and its relationships to others. The identity is the property flagged
`id`, else the one named `id`, else a number that is counted up and that no property declares. A
property typed by an entity is an association; its foreign key is a column of the owner or of the
target, according to the kind of the relationship.
-/

namespace Blueprint

open Design

/-- The identity of an entity. -/
structure Identity where
  name : String
  type : IdentityType
  autoIncrement : Bool
  column : List (String × Json) := []
  implicit : Bool := false

namespace Identity

/-- The identity of an entity that declares none. -/
def default : Identity := ⟨"id", .number, true, [], true⟩

/-- The types whose identities are counted up. -/
def countedTypes : List String := ["number", "integer", "serial"]

/-- The property that identifies the records of an entity. -/
def property? (properties : List Property) : Option Property :=
  (properties.find? fun property => property.options.id.getD false).or
    (properties.find? fun property => property.name == "id")

/-- An identity is counted up unless its column says otherwise. -/
def countsUp (property : Property) (column : List (String × Json)) : Bool :=
  countedTypes.contains (Text.lower property.type.name) &&
    match column.lookup "autoIncrement" with
    | some (.bool false) => false
    | _ => true

/-- The identity that a property gives. -/
def ofProperty (property : Property) : Identity :=
  let column := property.options.column.getD []
  { name := property.name
    type := (identityType? property.type.name).getD .number
    autoIncrement := countsUp property column
    column }

/-- The identity of an entity. -/
def of (entity : Entity) : Identity :=
  match property? entity.properties with
  | some property => ofProperty property
  | none => default

/-- The identity of an entity; an undeclared one is noted. -/
def resolve (entity : Entity) : Step Identity := do
  if (property? entity.properties).isNone then
    Step.debug s!"implicit identity 'id: number' for {entity.name}"
  return of entity

theorem resolve_outcome (entity : Entity) : (resolve entity).outcome = .ok (of entity) := by
  unfold resolve
  split <;> rfl

end Identity

/-- The kinds of relationships. -/
inductive RelationshipKind where
  | belongsTo | hasMany | hasOne | references
  deriving DecidableEq, Repr

namespace RelationshipKind

def name : RelationshipKind → String
  | belongsTo => "Belongs To"
  | hasMany => "Has Many"
  | hasOne => "Has One"
  | references => "References"

/-- The foreign key is a column of the owner. -/
def isOwnerSide : RelationshipKind → Bool
  | belongsTo | references => true
  | hasMany | hasOne => false

/-- The kind that a property's type and markers say. -/
def of (property : Property) : RelationshipKind :=
  if property.type.array then hasMany
  else if property.options.references.getD false then references
  else if property.options.hasOne.getD false then hasOne
  else belongsTo

end RelationshipKind

/-- An association of an entity. -/
structure Relationship where
  kind : RelationshipKind
  name : String
  foreignKey : String
  foreignKeyType : IdentityType
  target : String
  optional : Bool
  deriving DecidableEq, Repr

/-- A column that an association of another entity puts on an entity. -/
structure IncomingKey where
  name : String
  type : IdentityType
  source : String
  relationship : String
  deriving DecidableEq, Repr

namespace Relationship

/-- A capital and word characters: a name that has to be a unit's. -/
def isUnitName (name : String) : Bool :=
  match name.toList with
  | c :: rest => Naming.isCapital c && rest.all Text.isWord
  | [] => false

/-- A property that has to name an entity although it does not. -/
def isDangling (property : Property) : Bool :=
  !property.options.markers.isEmpty ||
    (!isScalar property.type.name && isUnitName property.type.name)

/-- A text that is given and not empty. -/
def nonEmpty? (text : Option String) : Option String := text.filter (!·.isEmpty)

/-- The association of a property with a target, and the entity whose column the key is. -/
def ofProperty (owner : Entity) (property : Property) (target : Entity) : String × Relationship :=
  let kind := RelationshipKind.of property
  let key := nonEmpty? property.options.foreignKey
  if kind.isOwnerSide then
    (owner.name,
      { kind, name := property.name, foreignKey := key.getD (property.name ++ "Id")
        foreignKeyType := (Identity.of target).type, target := target.name
        optional := property.optional })
  else
    (target.name,
      { kind, name := property.name, foreignKey := key.getD (lowerFirst owner.name ++ "Id")
        foreignKeyType := (Identity.of owner).type, target := target.name
        optional := property.optional })

/-- The associations of properties; `taken` holds the columns in use and the properties they
serve. -/
def resolveFrom (registry : Registry) (owner : Entity) (taken : List ((String × String) × String)) :
    List Property → Step (List Relationship)
  | [] => return []
  | property :: rest =>
    match registry.findEntity? property.type.name with
    | none =>
      if isDangling property then
        Step.fail (.unitNotFound .entity property.type.name (some s!"{owner.name}.{property.name}"))
      else resolveFrom registry owner taken rest
    | some target => do
      let (holder, relationship) := ofProperty owner property target.unit
      match taken.lookup (holder, relationship.foreignKey) with
      | some earlier =>
        Step.fail (.repeatedForeignKey owner.name relationship.foreignKey earlier property.name)
      | none =>
        let key := relationship.foreignKey
        let type := relationship.foreignKeyType.name
        let link := relationship.kind.name ++ " " ++ owner.name ++ "." ++ property.name
        Step.debug (link ++ " -> " ++ target.unit.name ++ " via " ++ key ++ ": " ++ type)
        let others ← resolveFrom registry owner (((holder, key), property.name) :: taken) rest
        return relationship :: others

/-- The associations of an entity over a list of properties, in their order. -/
def resolve (registry : Registry) (owner : Entity) (properties : List Property) :
    Step (List Relationship) :=
  resolveFrom registry owner [] properties

/-- The associations of an entity's own properties. -/
def resolveOwn (registry : Registry) (owner : Entity) : Step (List Relationship) :=
  resolve registry owner owner.properties

/-- The association of an entity by the name of its property. -/
def find? (registry : Registry) (owner : Entity) (name : String) :
    Except Failure (Option Relationship) :=
  (resolveOwn registry owner).outcome.map fun list => list.find? (·.name == name)

/-- The keys that the associations of one entity put on another, those taken already left out. -/
def incomingOf (target : Entity) (source : String) (taken : List String) :
    List Relationship → Step (List IncomingKey)
  | [] => return []
  | relationship :: rest =>
    if relationship.kind.isOwnerSide || relationship.target != target.name ||
        taken.contains relationship.foreignKey then
      incomingOf target source taken rest
    else do
      let key := relationship.foreignKey
      Step.debug s!"incoming key {target.name}.{key} from {source}.{relationship.name}"
      let others ← incomingOf target source (key :: taken) rest
      return ⟨key, relationship.foreignKeyType, source, relationship.name⟩ :: others

/-- The keys that the associations of some entities put on an entity. -/
def incomingFrom (registry : Registry) (target : Entity) (taken : List String) :
    List (Declared Entity) → Step (List IncomingKey)
  | [] => return []
  | source :: rest =>
    if source.unit.properties.any (·.type.name == target.name) then do
      let relationships ← (resolveOwn registry source.unit).silently
      let found ← incomingOf target source.unit.name taken relationships
      let others ← incomingFrom registry target (found.map IncomingKey.name ++ taken) rest
      return found ++ others
    else incomingFrom registry target taken rest

/-- The keys that associations of all entities put on an entity. Keys that are declared or name a
property are left out, and each key comes once. -/
def incoming (registry : Registry) (target : Entity) (declared : List String) :
    Step (List IncomingKey) :=
  incomingFrom registry target (declared ++ target.properties.map Property.name) registry.entities

end Relationship

end Blueprint
