import Blueprint.Client.View

namespace Blueprint.Client

open Design ClientCode Generation

/-- The paths of a component's files up to their endings. -/
def componentBase (name : String) : String :=
  if ViewName.isAppComponent name then "client/src/app/app.component"
  else
    let stem := ViewName.componentStem name
    "client/src/app/components/" ++ stem ++ "/" ++ stem ++ ".component"

/-- Where a component lies. -/
def componentPlace (isRoot : Bool) : Place :=
  if isRoot then ⟨"./components/", "./pages"⟩ else ⟨"../", "../../pages"⟩

/-- The way from a component to the business objects. -/
def componentLead (isRoot : Bool) : String :=
  if isRoot then "./business-objects/" else "../../business-objects/"

/-- The field that holds the components between the tags. -/
def queryName (property : String) : String := "_" ++ property ++ "Components"

/-- The component that an array property holds. -/
def childOf? (registry : Registry) (property : Design.Property) : Option Component :=
  if property.type.array then
    (registry.components.find? (·.unit.name == property.type.name)).map (·.unit)
  else none

/-- Adds a property that shows components between the tags. -/
def addChildren (owner : String) (place : Place) (view : View) (property : Design.Property)
    (child : Component) : View :=
  let childClass := ViewName.componentClass child.name
  let core := view.addImport coreModule ["ContentChildren", "QueryList", "AfterContentInit"]
  let filled := core.addMembers [
    .property { name := queryName property.name, type := some ("QueryList<" ++ childClass ++ ">")
                decorators := [⟨"ContentChildren", [childClass]⟩], definite := true },
    .property { name := property.name, type := some (childClass ++ "[]"), initial := some "[]" }]
  if child.name == owner then filled
  else filled.addImport (place.module (Markup.componentModule child.name)) [childClass]

/-- Adds a property that is set like any other; one that is an input may be set in templates. -/
def addField (registry : Registry) (lead : String) (view : View) (property : Design.Property) :
    View :=
  let view := view.importType registry lead property
  let field := View.fieldOf property
  if property.options.input.getD false then
    (view.addImport coreModule ["Input"]).addMember
      (.property { field with decorators := [⟨"Input", []⟩] })
  else view.addMember (.property field)

/-- Adds a property. -/
def addProperty (registry : Registry) (owner : String) (isRoot : Bool) (view : View)
    (property : Design.Property) : View :=
  match childOf? registry property with
  | some child => addChildren owner (componentPlace isRoot) view property child
  | none => addField registry (componentLead isRoot) view property

/-- The lines that keep a property in step with the components between the tags. -/
def syncLines (property : String) : List String :=
  let query := "this." ++ queryName property
  let copy := "this." ++ property ++ " = " ++ query ++ ".toArray();"
  [copy, query ++ ".changes.subscribe(() => \x7b", "  " ++ copy, "\x7d);"]

/-- A hook of the framework. -/
def hook (name : String) (lines : List String) : Member :=
  .method { name, returns := some "void", body := Text.unlines lines }

/-- Keeps properties in step once the components between the tags are there. -/
def addContentHook (view : View) (synced : List String) : View :=
  if synced.isEmpty then view
  else
    let hooked := view.addMember (hook "ngAfterContentInit" (synced.flatMap syncLines))
    { hooked with owner := hooked.owner.implement ["AfterContentInit"] }

/-- Calls the methods that are to be called once the component is shown. -/
def addViewHook (view : View) (methods : List Design.Method) : View :=
  let called := methods.filter fun method => method.options.callAfterLoad.getD false
  if called.isEmpty then view
  else
    let hooked := (view.addImport coreModule ["AfterViewInit"]).addMember
      (hook "ngAfterViewInit" (called.map fun method => "this." ++ method.name ++ "();"))
    { hooked with owner := hooked.owner.implement ["AfterViewInit"] }

/-- The view of a component. -/
def componentView (registry : Registry) (component : Component) : Step View := do
  let isRoot := ViewName.isAppComponent component.name
  let design := ViewDesign.ofComponent component
  let className := ViewName.componentClass component.name
  let view ← View.start design className (componentLead isRoot)
  let mixins ← MixinApplication.resolve registry (.component component)
  let properties ← MixinApplication.mergeProperties component.properties mixins
  let view := properties.foldl (addProperty registry component.name isRoot) view
  let view := view.addMethods component.methods
  let synced := properties.filter fun property => (childOf? registry property).isSome
  let view := addContentHook view (synced.map (·.name))
  let view := addViewHook view component.methods
  let view := view.addDebug (lowerFirst className)
  let selector := if isRoot then "app-root" else UnitGraph.componentSelector component
  let stem := if isRoot then "app" else ViewName.componentStem component.name
  view.addMetadata registry design (componentPlace isRoot) selector stem "component"

/-- The files of a component. -/
def generateComponent (declared : Declared Component) (registry : Registry) : Step Produced := do
  let view ← componentView registry declared.unit
  return view.files (ViewDesign.ofComponent declared.unit) (componentBase declared.unit.name)

/-- Every unit is accepted. -/
def always (_ : Declared Design.Unit) (_ : Registry) : Except Failure Bool := .ok true

def componentGenerator : Generator where
  name := "component"
  target := "client"
  triggers := [⟨.component, always⟩]
  outputs := byName fun name => View.paths (componentBase name)
  generate := onUnit Unit.component? generateComponent

end Blueprint.Client
