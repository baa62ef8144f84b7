import Blueprint.Design.Check
import Blueprint.Step

/-!
The registry of a run: every unit of the main design and of its libraries, libraries first, in the
order of their declaration. A kind and a name belong to at most one unit. Designs are loaded from
their texts, the main design after its libraries.
-/

namespace Blueprint

open Design

/-- Something declared in a design, with what is known about its declaration. -/
structure Declared (α : Type) where
  unit : α
  isLibrary : Bool
  source : Option String
  order : Nat

namespace Declared

/-- The same declaration seen as another type. -/
def withUnit {α β : Type} (declared : Declared α) (unit : β) : Declared β :=
  { unit, isLibrary := declared.isLibrary, source := declared.source, order := declared.order }

/-- The kind and the name of a declared unit. -/
def key (declared : Declared Design.Unit) : UnitKind × String :=
  (declared.unit.kind, declared.unit.name)

def kind (declared : Declared Design.Unit) : UnitKind := declared.unit.kind

def name (declared : Declared Design.Unit) : String := declared.unit.name

end Declared

/-- The units of a run. -/
structure Registry where
  units : List (Declared Design.Unit)
  distinct : (units.map Declared.key).Nodup

namespace Registry

/-- No units. -/
def empty : Registry := ⟨[], by simp⟩

/-- Adds a unit behind the others. -/
def add (registry : Registry) (declared : Declared Design.Unit) : Except Failure Registry :=
  if taken : declared.key ∈ registry.units.map Declared.key then
    .error (.repeatedUnit declared.kind declared.name)
  else
    .ok ⟨registry.units ++ [declared], by
      rw [List.map_append, List.nodup_append]
      refine ⟨registry.distinct, by simp, ?_⟩
      intro earlier member later single
      simp only [List.map_cons, List.map_nil, List.mem_singleton] at single
      subst single
      exact fun same => taken (same ▸ member)⟩

/-- The registry of some declarations. -/
def ofUnits (units : List (Declared Design.Unit)) : Except Failure Registry :=
  units.foldlM add empty

/-- A project that calls itself a library is one wherever it is declared. -/
def isLibraryUnit : Design.Unit → Bool
  | .project project => project.isLibrary
  | _ => false

/-- Declares units in order, numbered from `start`. -/
def declare (source : Option String) (inLibrary : Bool) (start : Nat) :
    List Design.Unit → List (Declared Design.Unit)
  | [] => []
  | unit :: rest =>
    ⟨unit, inLibrary || isLibraryUnit unit, source, start⟩ ::
      declare source inLibrary (start + 1) rest

/-- A design file: its path, if it has one, whether it belongs to a library, and its units. -/
structure Source where
  path : Option String := none
  inLibrary : Bool := false
  units : List Design.Unit

/-- The declarations of some sources, numbered throughout. -/
def declareAll (done : List (Declared Design.Unit)) : List Source → List (Declared Design.Unit)
  | [] => done
  | source :: rest =>
    declareAll (done ++ declare source.path source.inLibrary done.length source.units) rest

/-- The registry of some sources. -/
def ofSources (sources : List Source) : Except Failure Registry := ofUnits (declareAll [] sources)

def size (registry : Registry) : Nat := registry.units.length

/-- The unit of a kind and a name. -/
def find? (registry : Registry) (kind : UnitKind) (name : String) : Option (Declared Design.Unit) :=
  registry.units.find? fun declared => declared.kind == kind && declared.name == name

/-- A unit of this kind and name is declared. -/
def has (registry : Registry) (kind : UnitKind) (name : String) : Bool :=
  (registry.find? kind name).isSome

/-- The unit of a kind and a name that something refers to. -/
def get (registry : Registry) (kind : UnitKind) (name : String) (referrer : Option String) :
    Except Failure (Declared Design.Unit) :=
  match registry.find? kind name with
  | some declared => .ok declared
  | none => .error (.unitNotFound kind name referrer)

/-- The units of one kind, in order. -/
def ofKind (registry : Registry) (kind : UnitKind) : List (Declared Design.Unit) :=
  registry.units.filter (·.kind == kind)

/-- The units that a view of units shows, in order. -/
def list {α : Type} (registry : Registry) (view : Design.Unit → Option α) : List (Declared α) :=
  registry.units.filterMap fun declared => (view declared.unit).map declared.withUnit

end Registry

/-- A unit as an entity, and so on for the other kinds. -/
def Design.Unit.entity? : Design.Unit → Option Entity
  | .entity unit => some unit
  | _ => none

def Design.Unit.mixin? : Design.Unit → Option Mixin
  | .mixin unit => some unit
  | _ => none

def Design.Unit.behavior? : Design.Unit → Option Behavior
  | .behavior unit => some unit
  | _ => none

def Design.Unit.project? : Design.Unit → Option Project
  | .project unit => some unit
  | _ => none

def Design.Unit.dataSource? : Design.Unit → Option DataSource
  | .dataSource unit => some unit
  | _ => none

def Design.Unit.page? : Design.Unit → Option Page
  | .page unit => some unit
  | _ => none

def Design.Unit.component? : Design.Unit → Option Component
  | .component unit => some unit
  | _ => none

def Design.Unit.selectorInterface? : Design.Unit → Option SelectorInterface
  | .selectorInterface unit => some unit
  | _ => none

namespace Registry

def entities (registry : Registry) : List (Declared Entity) := registry.list Unit.entity?
def behaviors (registry : Registry) : List (Declared Behavior) := registry.list Unit.behavior?
def projects (registry : Registry) : List (Declared Project) := registry.list Unit.project?
def dataSources (registry : Registry) : List (Declared DataSource) := registry.list Unit.dataSource?
def pages (registry : Registry) : List (Declared Page) := registry.list Unit.page?
def components (registry : Registry) : List (Declared Component) := registry.list Unit.component?

/-- The entity of a name. -/
def findEntity? (registry : Registry) (name : String) : Option (Declared Entity) :=
  registry.entities.find? (·.unit.name == name)

/-- The mixin of a name. -/
def findMixin? (registry : Registry) (name : String) : Option (Declared Mixin) :=
  (registry.list Unit.mixin?).find? (·.unit.name == name)

/-- The names of all entities, in order. -/
def entityNames (registry : Registry) : List String := registry.entities.map (·.unit.name)

/-- The selector interfaces of one kind, in order. -/
def interfaces (registry : Registry) (kind : InterfaceKind) : List (Declared SelectorInterface) :=
  (registry.list Unit.selectorInterface?).filter (·.unit.kind == kind)

/-- The first project that is no library. -/
def mainProject? (registry : Registry) : Option (Declared Project) :=
  registry.projects.find? (!·.isLibrary)

/-- The projects that are libraries, in order. -/
def libraryProjects (registry : Registry) : List (Declared Project) :=
  registry.projects.filter (·.isLibrary)

/-- The name of the main project. -/
def projectName (registry : Registry) : String :=
  match registry.mainProject? with
  | some project => project.unit.name
  | none => "App"

/-- The projects in the order in which their values are merged: libraries from the last to the
first, then the main project, so that the main project wins. -/
def foldProjects (registry : Registry) : List (Declared Project) :=
  registry.libraryProjects.reverse ++ registry.mainProject?.toList

end Registry

/-- The settings of a project that are merged over projects. -/
inductive SettingsGroup where
  | parameters | serverScripts | clientScripts | overrides
  deriving DecidableEq, Repr

/-- The name of a group of settings. -/
def SettingsGroup.name : SettingsGroup → String
  | .parameters => "parameters"
  | .serverScripts => "serverScripts"
  | .clientScripts => "clientScripts"
  | .overrides => "overrides"

/-- The settings of a project in a group. -/
def SettingsGroup.of (group : SettingsGroup) (project : Project) : List Setting :=
  match group with
  | .parameters => project.parameters
  | .serverScripts => project.serverScripts
  | .clientScripts => project.clientScripts
  | .overrides => project.overrides

/-- The dependencies of a project that are merged over projects. -/
inductive DependencyGroup where
  | server | client
  deriving DecidableEq, Repr

/-- The dependencies of a project in a group. -/
def DependencyGroup.of (group : DependencyGroup) (project : Project) : List Dependency :=
  match group with
  | .server => project.serverDependencies
  | .client => project.clientDependencies

namespace Registry

/-- The parameters of all projects; the main project wins. -/
def parameterValues (registry : Registry) : List (String × Json) :=
  registry.foldProjects.foldl
    (fun values project => project.unit.parameters.foldl
      (fun values setting => OrderedMap.put setting.key setting.value values) values) []

/-- The merged settings of a group. -/
def settings (registry : Registry) (group : SettingsGroup) : List (String × Json) :=
  OrderedMap.merge (registry.foldProjects.map fun project =>
    OrderedMap.ofList ((group.of project.unit).map fun setting => (setting.key, setting.value)))

/-- The merged dependencies of a group: those needed to run and those for development. -/
def dependencies (registry : Registry) (group : DependencyGroup) :
    List (String × String) × List (String × String) :=
  let merged (dev : Bool) := OrderedMap.merge (registry.foldProjects.map fun project =>
    OrderedMap.ofList (((group.of project.unit).filter (·.dev == dev)).map
      fun dependency => (dependency.package, dependency.version)))
  (merged false, merged true)

/-- The data source that an entity names, else the main project's default; empty when there is
neither. -/
def dataSourceName (registry : Registry) (entity : Entity) : String :=
  if entity.dataSource.isEmpty then
    match registry.mainProject? with
    | some project => project.unit.defaultDataSource
    | none => ""
  else entity.dataSource

/-- The data source of an entity, if it has one. -/
def dataSourceFor (registry : Registry) (entity : Entity) :
    Except Failure (Option (Declared DataSource)) :=
  let name := registry.dataSourceName entity
  if name.isEmpty then .ok none
  else match registry.dataSources.find? (·.unit.name == name) with
    | some source => .ok (some source)
    | none => .error (.unitNotFound .dataSource name (some entity.name))

/-- The entities stored in a data source, by its name. -/
def entitiesFor (registry : Registry) (source : String) : List (Declared Entity) :=
  registry.entities.filter fun entity => registry.dataSourceName entity.unit == source

/-- The entities that get server code: those of the main design whose data source is declared. -/
def serverEntities (registry : Registry) : List (Declared Entity) :=
  registry.entities.filter fun entity =>
    !entity.isLibrary && registry.has .dataSource (registry.dataSourceName entity.unit)

end Registry

/-- Why designs cannot be loaded. -/
inductive LoadError where
  | parse (error : Design.ParseError)
  | registry (failure : Failure)

/-- The sources of some texts, parsed in order. -/
def parseSources (inLibrary : Bool) : List String → Except Design.ParseError (List Registry.Source)
  | [] => .ok []
  | text :: rest => do
    let units ← Design.parse text
    let others ← parseSources inLibrary rest
    return { inLibrary, units } :: others

/-- The registry of a main design and its libraries. -/
def loadTexts (main : String) (libraries : List String) : Except LoadError Registry := do
  let sources ← (do
    let fromLibraries ← parseSources true libraries
    let fromMain ← parseSources false [main]
    return fromLibraries ++ fromMain).mapError LoadError.parse
  (Registry.ofSources sources).mapError LoadError.registry

end Blueprint
