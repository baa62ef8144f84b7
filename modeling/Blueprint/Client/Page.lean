import Blueprint.Client.Component
import Blueprint.RoutePath

/-!
Pages. On top of what every view has, a page reads its route parameters, reads and saves business
objects by itself where its author asks for it, calls methods once it is loaded, and tells a handler
when a property changes.
-/

namespace Blueprint.Client

open Design ClientCode Generation

/-- The paths of a page's files up to their endings. -/
def pageBase (name : String) : String :=
  let stem := ViewName.pageStem name
  "client/src/app/pages/" ++ stem ++ "/" ++ stem ++ ".page"

/-- Where a page lies. -/
def pagePlace : Place := ⟨"../../components/", ".."⟩

/-- The way from a page to the business objects. -/
def pageLead : String := "../../business-objects/"

/-- A value of a filter: objects and arrays as they are, anything else as text. -/
def filterValue (value : String) : String :=
  match Text.trimStart value.toList with
  | '\x7b' :: _ | '[' :: _ => value
  | _ => quoted value

/-- What a read asks for: a condition, what is included and the order. -/
def readOptions (property : Design.Property) (condition : Option String) : String :=
  let entry (key : String) (value : Option String) : List String :=
    match Relationship.nonEmpty? value with
    | some value => [key ++ ": " ++ filterValue value]
    | none => []
  let entries := (condition.map ("where: " ++ ·)).toList ++
    entry "include" property.options.included ++ entry "order" property.options.order
  if entries.isEmpty then "" else "\x7b " ++ ", ".intercalate entries ++ " \x7d"

/-- The method of a page. -/
def pageMethod? (page : Page) (name : String) : Option Design.Method :=
  page.methods.reverse.find? (·.name == name)

/-- The property of a page. -/
def pageProperty? (page : Page) (name : String) : Option Design.Property :=
  page.properties.reverse.find? (·.name == name)

/-- The call of the method that follows a read. -/
def afterRead (page : Page) (property : Design.Property) : Step (List String) := do
  match Relationship.nonEmpty? property.options.afterReadCall with
  | none => return []
  | some name => match pageMethod? page name with
    | some method => return [View.callOf method]
    | none =>
      Step.warning ("afterReadCall '" ++ name ++ "' of property " ++ property.name ++
        " is not a method")
      return []

/-- The members of a property that tells a handler when it changes. -/
def notifyingMembers (property : Design.Property) (handler : String) : List Member :=
  let type := typeOf property.type
  let field := "this._" ++ property.name
  [.property { name := "_" ++ property.name, type := some type, initial := View.initialOf property
               modifiers := ["private"], optional := (View.initialOf property).isNone },
    .accessor { kind := "get", name := property.name, returns := some type
                body := "return " ++ field ++ ";" },
    .accessor { kind := "set", name := property.name, param := some ("value: " ++ type)
                body := Text.unlines [field ++ " = value;", "this." ++ handler ++ "();"] }]

/-- Adds a property; a handler that is no method is reported. -/
def addPageProperty (registry : Registry) (page : Page) (view : View)
    (property : Design.Property) : Step View := do
  let view := view.importType registry pageLead property
  match Relationship.nonEmpty? property.options.onChangeCall with
  | none => return view.addMember (.property (View.fieldOf property))
  | some handler =>
    if (pageMethod? page handler).isNone then
      Step.warning ("onChangeCall '" ++ handler ++ "' of property " ++ property.name ++
        " is not a method")
    return view.addMembers (notifyingMembers property handler)

/-- The lines that read a route parameter: it identifies a business object or is a value itself. -/
def paramLines (registry : Registry) (page : Page) (param : String) : Step (List String) := do
  let (name, field) := routeParamProperty param
  let value := "params[" ++ quoted (routeParamKey param) ++ "]"
  match field, pageProperty? page name with
  | some field, property =>
    match property.filter fun property => (registry.findEntity? property.type.name).isSome with
    | none =>
      Step.warning ("route parameter :" ++ param ++ " needs " ++ name ++
        " to be a business object; skipped")
      return []
    | some property =>
      let options := readOptions property (some ("\x7b " ++ field ++ ": " ++ value ++ " \x7d"))
      let after ← afterRead page property
      return ("this." ++ name ++ " = await " ++ property.type.name ++ ".findOne(" ++ options ++
        ");") :: after
  | none, some property =>
    let value := if typeOf property.type == "number" then "Number(" ++ value ++ ")" else value
    return ["this." ++ name ++ " = " ++ value ++ ";"]
  | none, none =>
    Step.debug ("route parameter :" ++ param ++ " has no matching property")
    return []

/-- The lines of some steps, in order. -/
def gather {α : Type} (lines : α → Step (List String)) : List α → Step (List String)
  | [] => return []
  | item :: rest => do
    let here ← lines item
    let others ← gather lines rest
    return here ++ others

/-- The lines that read a property by itself. -/
def autoReadLines (registry : Registry) (page : Page) (routed : List String)
    (property : Design.Property) : Step (List String) := do
  if property.options.read != some .automatically || routed.contains property.name then return []
  else if (registry.findEntity? property.type.name).isNone then
    Step.warning ("property " ++ property.name ++
      " reads automatically but is not a business object")
    return []
  else if !property.type.array then
    Step.warning ("property " ++ property.name ++
      " reads automatically but no route parameter identifies it")
    return []
  else
    let after ← afterRead page property
    return ("this." ++ property.name ++ " = await " ++ property.type.name ++ ".find(" ++
      readOptions property none ++ ");") :: after

/-- The lines that save a property by itself. -/
def autoSaveLines (registry : Registry) (property : Design.Property) : Step (List String) := do
  if property.options.save != some .automatically then return []
  else if (registry.findEntity? property.type.name).isNone then
    Step.warning ("property " ++ property.name ++
      " saves automatically but is not a business object")
    return []
  else
    return [property.type.name ++ ".autoSave(() => this." ++ property.name ++ ", this.destroyRef);"]

/-- A field that the framework provides. -/
def injected (name token : String) : Member :=
  .property { name, initial := some ("inject(" ++ token ++ ")"), modifiers := ["private"] }

/-- What a page's life adds to it: fields at the front of its class, and hooks. -/
structure Lifecycle where
  fields : List Member := []
  hooks : List Member := []
  interfaces : List String := []
  imports : List (String × List String) := []

/-- The life of a page with route parameters: they are read whenever they change. -/
def routedLife (inner saves : List String) : Lifecycle :=
  { fields := [injected "route" "ActivatedRoute",
      .property { name := "routeSubscription", type := some "Subscription"
                  modifiers := ["private"], optional := true }]
    hooks := [
      hook "ngOnInit" (
        "this.routeSubscription = this.route.params.subscribe(async (params) => \x7b" ::
        inner.map ("  " ++ ·) ++ "\x7d);" :: saves),
      hook "ngOnDestroy" ["this.routeSubscription?.unsubscribe();"]]
    interfaces := ["OnInit", "OnDestroy"]
    imports := [(coreModule, ["OnInit", "OnDestroy", "inject"]),
      ("@angular/router", ["ActivatedRoute"]), ("rxjs", ["Subscription"])] }

/-- A line waits for something. -/
def awaits (line : String) : Bool := Text.holds "await ".toList line.toList

/-- The life of a page without route parameters. -/
def plainLife (lines : List String) : Lifecycle :=
  if lines.isEmpty then {}
  else
    let waits := lines.any awaits
    { hooks := [.method { name := "ngOnInit"
                          returns := some (if waits then "Promise<void>" else "void")
                          body := Text.unlines lines, isAsync := waits }]
      interfaces := ["OnInit"]
      imports := [(coreModule, ["OnInit"])] }

/-- The life of a page. -/
def lifecycle (registry : Registry) (page : Page) : Step Lifecycle := do
  let params := routeParams page.path
  let routed := (params.map routeParamProperty).filterMap fun param => param.2.map fun _ => param.1
  let onLoad := (page.methods.filter fun method => method.options.callOnLoad.getD false).map
    View.callOf
  let saves ← gather (autoSaveLines registry) page.properties
  let life ←
    if params.isEmpty then do
      let reads ← gather (autoReadLines registry page routed) page.properties
      pure (plainLife (reads ++ onLoad ++ saves))
    else do
      let route ← gather (paramLines registry page) params
      let reads ← gather (autoReadLines registry page routed) page.properties
      pure (routedLife (route ++ reads ++ onLoad) saves)
  if saves.isEmpty then return life
  else return { life with
    fields := injected "destroyRef" "DestroyRef" :: life.fields
    imports := (coreModule, ["DestroyRef", "inject"]) :: life.imports }

/-- Adds the life of a page to its class. -/
def Lifecycle.addTo (life : Lifecycle) (view : View) : View :=
  let imported := life.imports.foldl (fun view item => view.addImport item.1 item.2) view
  let owner := imported.owner
  { imported with
    owner := { owner with members := life.fields ++ owner.members ++ life.hooks }.implement
      life.interfaces }

/-- Adds properties in order. -/
def addPageProperties (registry : Registry) (page : Page) :
    List Design.Property → View → Step View
  | [], view => return view
  | property :: rest, view => do
    let view ← addPageProperty registry page view property
    addPageProperties registry page rest view

/-- The view of a page. -/
def pageView (registry : Registry) (page : Page) : Step View := do
  let design := ViewDesign.ofPage page
  let view ← View.start design (ViewName.pageClass page.name) pageLead
  let view ← addPageProperties registry page page.properties view
  let life ← lifecycle registry page
  let view := (life.addTo view).addMethods page.methods
  let stem := ViewName.pageStem page.name
  let view := view.addDebug stem
  view.addMetadata registry design pagePlace (UnitGraph.pageSelector page) stem "page"

/-- The files of a page. -/
def generatePage (declared : Declared Page) (registry : Registry) : Step Produced := do
  let view ← pageView registry declared.unit
  return view.files (ViewDesign.ofPage declared.unit) (pageBase declared.unit.name)

def pageGenerator : Generator where
  name := "page"
  target := "client"
  triggers := [⟨.page, always⟩]
  outputs := byName fun name => View.paths (pageBase name)
  generate := onUnit Unit.page? generatePage

end Blueprint.Client
