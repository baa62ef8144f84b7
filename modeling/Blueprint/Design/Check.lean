import Blueprint.Design.Grammar
import Blueprint.Design.Options
import Blueprint.RoutePath
import Blueprint.ScalarType

/-!
What a readable design has to satisfy. The parts of each unit are checked first, unit by unit; then
the design as a whole: names, members, identities, page paths and method options, in this order. The
first fault is reported with the offset of what is at fault. A text is a design if it can be read and
has no fault.
-/

namespace Blueprint.Design

/-- What has options. -/
inductive OptionOwner where
  | property
  | method
  deriving DecidableEq, Repr

/-- The word for an owner of options. -/
def OptionOwner.name : OptionOwner → String
  | .property => "property"
  | .method => "method"

/-- What is wrong with a design that can be read. -/
inductive Fault where
  | repeatedOption (key owner : String)
  | invalidOptions (kind : OptionOwner) (owner : String) (problems : List OptionProblem)
  | manyWithoutArray (property : String)
  | conflictingMarkers (property : String) (markers : List String)
  | unknownBehaviorType (behavior type : String)
  | repeatedUnit (kind : UnitKind) (name : String)
  | repeatedMember (kind : UnitKind) (unit : String) (member : OptionOwner) (name : String)
  | severalIdentities (entity : String) (properties : List String)
  | invalidIdentity (entity property type : String)
  | unknownPathParameter (page param : String)
  | callAfterLoadOfPage (page method : String)
  | callOnLoadOfComponent (component method : String)
  deriving DecidableEq, Repr

/-- A fault and where it lies. -/
structure Problem where
  fault : Fault
  offset : Nat
  deriving DecidableEq, Repr

/-- When the function of a behavior runs. -/
inductive BehaviorType where
  | ofInstance | ofClass
  | beforeCreate | afterCreate | beforeUpdate | afterUpdate
  | beforeDelete | afterDelete | beforeRead | afterRead
  | afterStart | app
  deriving DecidableEq, Repr

namespace BehaviorType

def name : BehaviorType → String
  | ofInstance => "Instance"
  | ofClass => "Class"
  | beforeCreate => "Before Create"
  | afterCreate => "After Create"
  | beforeUpdate => "Before Update"
  | afterUpdate => "After Update"
  | beforeDelete => "Before Delete"
  | afterDelete => "After Delete"
  | beforeRead => "Before Read"
  | afterRead => "After Read"
  | afterStart => "After Start"
  | app => "App"

/-- All types of behaviors. -/
def all : List BehaviorType :=
  [ofInstance, ofClass, beforeCreate, afterCreate, beforeUpdate, afterUpdate, beforeDelete,
    afterDelete, beforeRead, afterRead, afterStart, app]

def ofName? (name : String) : Option BehaviorType := all.find? (·.name == name)

end BehaviorType

/-- The wording of a fault. -/
def Fault.message : Fault → String
  | .repeatedOption key owner => s!"Option '{key}' is given more than once on '{owner}'."
  | .invalidOptions kind owner problems =>
    let list := "; ".intercalate (problems.map OptionProblem.message)
    s!"Invalid options on {kind.name} '{owner}': {list}"
  | .manyWithoutArray property =>
    s!"Property '{property}' is marked hasMany but its type is not an array."
  | .conflictingMarkers property markers =>
    let list := ", ".intercalate markers
    s!"Property '{property}' has conflicting association markers: {list}."
  | .unknownBehaviorType behavior type =>
    let list := ", ".intercalate (BehaviorType.all.map BehaviorType.name)
    s!"Behavior '{behavior}' has unknown type '{type}'. Expected one of: {list}."
  | .repeatedUnit kind name => s!"{kind.name} with name '{name}' already exists."
  | .repeatedMember kind unit member name =>
    s!"{kind.name} '{unit}' {member.name} with name '{name}' already exists."
  | .severalIdentities entity properties =>
    let list := ", ".intercalate properties
    s!"Entity '{entity}' declares more than one identity property: {list}."
  | .invalidIdentity entity property type =>
    s!"Identity property '{entity}.{property}' must be a number or string, not '{type}'."
  | .unknownPathParameter page param =>
    s!"Page '{page}' path parameter ':{param}' does not match a page property."
  | .callAfterLoadOfPage page method =>
    s!"Page method '{page}.{method}' cannot use callAfterLoad; use callOnLoad."
  | .callOnLoadOfComponent component method =>
    s!"Component method '{component}.{method}' cannot use callOnLoad; use callAfterLoad."

/-- The first value whose name has occurred before. -/
def firstRepeated? {α : Type} (nameOf : α → String) (seen : List String) : List α → Option α
  | [] => none
  | value :: rest =>
    if seen.contains (nameOf value) then some value
    else firstRepeated? nameOf (nameOf value :: seen) rest

/-- The written options as a bag, if no key is repeated. -/
def bagOf (owner : String) (written : List WrittenOption) :
    Except Problem (List (String × Json)) :=
  match firstRepeated? WrittenOption.key [] written with
  | some option => .error ⟨.repeatedOption option.key owner, option.offset⟩
  | none => .ok (written.map fun option => (option.key, option.value))

/-- A property with its options checked. -/
def Property.check (property : Property) : Except Problem Property := do
  let bag ← bagOf property.name property.written
  match PropertyOptions.check bag with
  | .error problems =>
    throw ⟨.invalidOptions .property property.name problems, property.offset⟩
  | .ok options =>
    if options.hasMany.getD false && !property.type.array then
      throw ⟨.manyWithoutArray property.name, property.offset⟩
    if options.markers.length > 1 then
      throw ⟨.conflictingMarkers property.name options.markers, property.offset⟩
    return { property with options }

/-- A method with its options checked. -/
def Method.check (method : Method) : Except Problem Method := do
  let bag ← bagOf method.name method.written
  match MethodOptions.check bag with
  | .error problems => throw ⟨.invalidOptions .method method.name problems, method.offset⟩
  | .ok options => return { method with options }

/-- A behavior has a known type or none. -/
def Behavior.check (behavior : Behavior) : Except Problem Behavior :=
  match behavior.type with
  | none | some "" => .ok behavior
  | some type =>
    if (BehaviorType.ofName? type).isSome then .ok behavior
    else .error ⟨.unknownBehaviorType behavior.name type, behavior.offset⟩

/-- A unit with its parts checked: properties before methods. -/
def Unit.check : Unit → Except Problem Unit
  | .entity unit => do return .entity { unit with properties := ← unit.properties.mapM (·.check) }
  | .mixin unit => do return .mixin { unit with properties := ← unit.properties.mapM (·.check) }
  | .behavior unit => do return .behavior (← unit.check)
  | .page unit => do
    let properties ← unit.properties.mapM (·.check)
    let methods ← unit.methods.mapM (·.check)
    return .page { unit with properties, methods }
  | .component unit => do
    let properties ← unit.properties.mapM (·.check)
    let methods ← unit.methods.mapM (·.check)
    return .component { unit with properties, methods }
  | unit => .ok unit

/-- The units of one kind. -/
def ofKind (kind : UnitKind) (units : List Unit) : List Unit := units.filter (·.kind == kind)

/-- The problem at hand, if there is one. -/
def report : Option Problem → Except Problem PUnit
  | some problem => .error problem
  | none => .ok ⟨⟩

/-- A unit whose kind and name have occurred before; kinds in their order. -/
def repeatedUnit? (units : List Unit) : Option Problem :=
  UnitKind.all.findSome? fun kind =>
    (firstRepeated? Unit.name [] (ofKind kind units)).map fun unit =>
      ⟨.repeatedUnit kind unit.name, unit.offset⟩

/-- A property or method whose name has occurred before in its unit. -/
def repeatedMember? (units : List Unit) : Option Problem :=
  [UnitKind.entity, .mixin, .page, .component].findSome? fun kind =>
    (ofKind kind units).findSome? fun unit =>
      ((firstRepeated? Property.name [] unit.properties).map fun property =>
        ⟨.repeatedMember kind unit.name .property property.name, property.offset⟩).or
      ((firstRepeated? Method.name [] unit.methods).map fun method =>
        ⟨.repeatedMember kind unit.name .method method.name, method.offset⟩)

/-- The properties flagged as identity. -/
def flaggedIdentities (properties : List Property) : List Property :=
  properties.filter fun property => property.options.id.getD false

/-- An identity of an entity that is one too many or of a type that cannot identify. -/
def invalidIdentity? (units : List Unit) : Option Problem :=
  (ofKind .entity units).findSome? fun entity =>
    match flaggedIdentities entity.properties with
    | [] => none
    | [property] =>
      if property.type.array || (identityType? property.type.name).isNone then
        some ⟨.invalidIdentity entity.name property.name property.type.name, property.offset⟩
      else none
    | flagged@(_ :: second :: _) =>
      some ⟨.severalIdentities entity.name (flagged.map Property.name), second.offset⟩

/-- A dotted parameter of a page path that names no property of the page. -/
def invalidPath? (units : List Unit) : Option Problem :=
  units.findSome? fun
    | .page page =>
      (routeParams page.path).findSome? fun param =>
        match routeParamProperty param with
        | (property, some _) =>
          if page.properties.any (·.name == property) then none
          else some ⟨.unknownPathParameter page.name param, page.offset⟩
        | (_, none) => none
    | _ => none

/-- A method called at a time that its unit does not have; pages come before components. -/
def invalidCall? (units : List Unit) : Option Problem :=
  ((ofKind .page units).findSome? fun page =>
    (page.methods.find? fun method => method.options.callAfterLoad.getD false).map fun method =>
      ⟨.callAfterLoadOfPage page.name method.name, method.offset⟩).or
  ((ofKind .component units).findSome? fun component =>
    (component.methods.find? fun method => method.options.callOnLoad.getD false).map fun method =>
      ⟨.callOnLoadOfComponent component.name method.name, method.offset⟩)

/-- Checks a design as a whole. -/
def checkWhole (units : List Unit) : Except Problem PUnit := do
  report (repeatedUnit? units)
  report (repeatedMember? units)
  report (invalidIdentity? units)
  report (invalidPath? units)
  report (invalidCall? units)

/-- The units with their parts checked, if the design has no fault. -/
def checkUnits (units : List Unit) : Except Problem (List Unit) := do
  let units ← units.mapM (·.check)
  checkWhole units
  return units

/-- A line and a column of a text, both counted from one. -/
structure Position where
  line : Nat
  column : Nat
  deriving DecidableEq, Repr

/-- The position of an offset in a text; only line feeds end lines. -/
def Position.ofOffset (text : List Char) (offset : Nat) : Position :=
  let before := text.take offset
  ⟨before.count '\n' + 1, (before.reverse.takeWhile (· != '\n')).length + 1⟩

/-- Why a text is no design. -/
inductive ParseError where
  /-- No unit can be read past this position. -/
  | unreadable (position : Position)
  /-- The text can be read, but the part at this position has a fault. -/
  | invalid (fault : Fault) (position : Position)
  deriving DecidableEq, Repr

/-- The checked units of a design. -/
def parseChars (text : List Char) : Except ParseError (List Unit) :=
  match readUnits text with
  | .error offset => .error (.unreadable (Position.ofOffset text offset))
  | .ok units =>
    match checkUnits units with
    | .error problem => .error (.invalid problem.fault (Position.ofOffset text problem.offset))
    | .ok units => .ok units

/-- The checked units of a design. -/
def parse (text : String) : Except ParseError (List Unit) := parseChars text.toList

end Blueprint.Design
