import Blueprint.Json.Basic
import Blueprint.OrderedMap

/-!
The units of a design. A design is a flat list of units; units refer to each other by name. Parts
that can be reported on keep the offset at which they start in their text. A bag lists the options
that were given, by the names under which a design writes them, with the values that they were read
as.
-/

namespace Blueprint.Design

/-- The kinds of units. -/
inductive UnitKind where
  | project | dataSource | entity | mixin | behavior | page | component | selectorInterface
  deriving DecidableEq, Repr

/-- The name of a kind of unit. -/
def UnitKind.name : UnitKind → String
  | .project => "Project"
  | .dataSource => "DataSource"
  | .entity => "Entity"
  | .mixin => "Mixin"
  | .behavior => "Behavior"
  | .page => "Page"
  | .component => "Component"
  | .selectorInterface => "SelectorInterface"

/-- All kinds of units. -/
def UnitKind.all : List UnitKind :=
  [.project, .dataSource, .entity, .mixin, .behavior, .page, .component, .selectorInterface]

/-- The kind of a name. -/
def UnitKind.ofName? (name : String) : Option UnitKind := UnitKind.all.find? (·.name == name)

/-- The type of a property, parameter or result. -/
structure TypeRef where
  name : String
  array : Bool := false
  deriving DecidableEq, Repr, Inhabited

/-- A key with a value. -/
structure Setting where
  key : String
  value : Json

/-- A package that generated code depends on. -/
structure Dependency where
  package : String
  version : String
  dev : Bool

/-- An option as it is written: a flag without a value stands for yes. -/
structure WrittenOption where
  offset : Nat
  key : String
  value : Json

/-- A rule that holds when a condition does. -/
structure ConditionalRule where
  condition : String
  message : Option String := none
  deriving DecidableEq, Repr

/-- When a value is read or saved. -/
inductive ReadMode where
  | automatically
  | onDemand
  deriving DecidableEq, Repr

/-- The name of a read mode. -/
def ReadMode.name : ReadMode → String
  | .automatically => "Automatically"
  | .onDemand => "On Demand"

/-- The checked options of a property; an option that is not given is absent. -/
structure PropertyOptions where
  id : Option Bool := none
  required : Option Bool := none
  column : Option (List (String × Json)) := none
  hidden : Option Bool := none
  disabled : Option Bool := none
  displayName : Option String := none
  placeholder : Option String := none
  helpText : Option String := none
  presentAs : Option String := none
  requiredWhen : Option ConditionalRule := none
  excludeWhen : Option ConditionalRule := none
  disabledWhen : Option ConditionalRule := none
  belongsTo : Option Bool := none
  hasMany : Option Bool := none
  hasOne : Option Bool := none
  references : Option Bool := none
  foreignKey : Option String := none
  input : Option Bool := none
  read : Option ReadMode := none
  save : Option ReadMode := none
  onChangeCall : Option String := none
  afterReadCall : Option String := none
  included : Option String := none
  order : Option String := none

/-- The association markers that are set, by name. -/
def PropertyOptions.markers (options : PropertyOptions) : List String :=
  [("belongsTo", options.belongsTo), ("hasMany", options.hasMany), ("hasOne", options.hasOne),
    ("references", options.references)].filterMap fun marker =>
      if marker.2.getD false then some marker.1 else none

/-- Who may call a method. -/
inductive Scope where
  | anyone
  | itself
  | subclasses
  deriving DecidableEq, Repr

/-- The name of a scope. -/
def Scope.name : Scope → String
  | .anyone => "public"
  | .itself => "private"
  | .subclasses => "protected"

/-- The checked options of a method. -/
structure MethodOptions where
  callOnLoad : Option Bool := none
  callAfterLoad : Option Bool := none
  scope : Option Scope := none

/-- A property of an entity, mixin, page or component. -/
structure Property where
  offset : Nat
  name : String
  optional : Bool
  type : TypeRef
  written : List WrittenOption
  initializer : String
  options : PropertyOptions := {}

/-- A parameter of a function or method. -/
structure Parameter where
  name : String
  optional : Bool
  type : Option TypeRef
  deriving DecidableEq, Repr

/-- A method of a page or component. -/
structure Method where
  offset : Nat
  name : String
  async : Bool
  params : List Parameter
  returns : Option TypeRef
  written : List WrittenOption
  body : String
  options : MethodOptions := {}

/-- The function of a behavior. -/
structure Function where
  name : String
  async : Bool
  params : List Parameter
  returns : Option TypeRef
  body : String

/-- Names imported from a module. -/
structure ImportSpec where
  names : List String
  module : String

/-- The verb of a behavior's endpoint. -/
inductive HttpMethod where
  | post | put | patch | get | delete
  deriving DecidableEq, Repr

/-- The name of a verb in a design. -/
def HttpMethod.name : HttpMethod → String
  | .post => "Post"
  | .put => "Put"
  | .patch => "Patch"
  | .get => "Get"
  | .delete => "Delete"

/-- All verbs, in the order in which they are tried. -/
def HttpMethod.all : List HttpMethod := [.post, .put, .patch, .get, .delete]

/-- What a selector interface declares. -/
inductive InterfaceKind where
  | element | directive | pipe
  deriving DecidableEq, Repr

/-- The name of a kind of interface. -/
def InterfaceKind.name : InterfaceKind → String
  | .element => "Element"
  | .directive => "Directive"
  | .pipe => "Pipe"

/-- All kinds of interfaces. -/
def InterfaceKind.all : List InterfaceKind := [.element, .directive, .pipe]

structure Project where
  offset : Nat
  name : String
  displayName : String := ""
  description : String := ""
  packageName : String := ""
  version : String := ""
  isLibrary : Bool := false
  defaultDataSource : String := ""
  defaultPage : String := ""
  parameters : List Setting := []
  serverDependencies : List Dependency := []
  serverScripts : List Setting := []
  clientDependencies : List Dependency := []
  clientScripts : List Setting := []
  overrides : List Setting := []
  styles : String := ""

structure DataSource where
  offset : Nat
  name : String
  persistenceType : String := ""
  url : String := ""
  settings : List Setting := []

structure Entity where
  offset : Nat
  name : String
  description : String := ""
  dataSource : String := ""
  mixins : List String := []
  properties : List Property := []

structure Mixin where
  offset : Nat
  name : String
  description : String := ""
  properties : List Property := []

structure Behavior where
  offset : Nat
  name : String
  owner : String
  description : String := ""
  type : Option String := none
  httpMethod : Option HttpMethod := none
  uses : List String := []
  imports : String := ""
  function : Option Function := none

structure Page where
  offset : Nat
  name : String
  description : String := ""
  path : String := ""
  selector : String := ""
  imports : List ImportSpec := []
  preamble : String := ""
  properties : List Property := []
  methods : List Method := []
  template : String := ""
  styles : String := ""

structure Component where
  offset : Nat
  name : String
  description : String := ""
  selector : String := ""
  mixins : List String := []
  imports : List ImportSpec := []
  preamble : String := ""
  properties : List Property := []
  methods : List Method := []
  template : String := ""
  styles : String := ""

structure SelectorInterface where
  offset : Nat
  kind : InterfaceKind
  name : String
  description : String := ""
  selector : String := ""
  imports : List ImportSpec := []

/-- A unit of a design. -/
inductive Unit where
  | project (unit : Project)
  | dataSource (unit : DataSource)
  | entity (unit : Entity)
  | mixin (unit : Mixin)
  | behavior (unit : Behavior)
  | page (unit : Page)
  | component (unit : Component)
  | selectorInterface (unit : SelectorInterface)

namespace Unit

def kind : Unit → UnitKind
  | project _ => .project
  | dataSource _ => .dataSource
  | entity _ => .entity
  | mixin _ => .mixin
  | behavior _ => .behavior
  | page _ => .page
  | component _ => .component
  | selectorInterface _ => .selectorInterface

def name : Unit → String
  | project unit => unit.name
  | dataSource unit => unit.name
  | entity unit => unit.name
  | mixin unit => unit.name
  | behavior unit => unit.name
  | page unit => unit.name
  | component unit => unit.name
  | selectorInterface unit => unit.name

def offset : Unit → Nat
  | project unit => unit.offset
  | dataSource unit => unit.offset
  | entity unit => unit.offset
  | mixin unit => unit.offset
  | behavior unit => unit.offset
  | page unit => unit.offset
  | component unit => unit.offset
  | selectorInterface unit => unit.offset

/-- The properties of a unit; nothing for kinds that have none. -/
def properties : Unit → List Property
  | entity unit => unit.properties
  | mixin unit => unit.properties
  | page unit => unit.properties
  | component unit => unit.properties
  | _ => []

/-- The methods of a unit; nothing for kinds that have none. -/
def methods : Unit → List Method
  | page unit => unit.methods
  | component unit => unit.methods
  | _ => []

/-- The names of the mixins that a unit applies. -/
def mixins : Unit → List String
  | entity unit => unit.mixins
  | component unit => unit.mixins
  | _ => []

end Unit

/-- The entries of a bag that have a value. -/
def givenEntries (entries : List (String × Option Json)) : Json :=
  .obj (entries.filterMap fun entry => entry.2.map (entry.1, ·))

/-- A rule as a bag. -/
def ConditionalRule.bag (rule : ConditionalRule) : Json :=
  givenEntries [("condition", some (.str rule.condition)), ("message", rule.message.map .str)]

/-- The given options of a property. -/
def PropertyOptions.bag (o : PropertyOptions) : Json :=
  givenEntries
    [("id", o.id.map .bool), ("required", o.required.map .bool), ("column", o.column.map .obj),
      ("hidden", o.hidden.map .bool), ("disabled", o.disabled.map .bool),
      ("displayName", o.displayName.map .str), ("placeholder", o.placeholder.map .str),
      ("helpText", o.helpText.map .str), ("presentAs", o.presentAs.map .str),
      ("requiredWhen", o.requiredWhen.map ConditionalRule.bag),
      ("excludeWhen", o.excludeWhen.map ConditionalRule.bag),
      ("disabledWhen", o.disabledWhen.map ConditionalRule.bag),
      ("belongsTo", o.belongsTo.map .bool), ("hasMany", o.hasMany.map .bool),
      ("hasOne", o.hasOne.map .bool), ("references", o.references.map .bool),
      ("foreignKey", o.foreignKey.map .str), ("input", o.input.map .bool),
      ("read", o.read.map fun mode => .str mode.name),
      ("save", o.save.map fun mode => .str mode.name), ("onChangeCall", o.onChangeCall.map .str),
      ("afterReadCall", o.afterReadCall.map .str), ("include", o.included.map .str),
      ("order", o.order.map .str)]

/-- The given options of a method. -/
def MethodOptions.bag (o : MethodOptions) : Json :=
  givenEntries
    [("callOnLoad", o.callOnLoad.map .bool), ("callAfterLoad", o.callAfterLoad.map .bool),
      ("scope", o.scope.map fun scope => .str scope.name)]

end Blueprint.Design
