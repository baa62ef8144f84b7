import Blueprint.Markup.Imports
import Blueprint.ClientCode.Source
import Blueprint.Markup.Blocks
import Blueprint.Client.BusinessObject

/-!
What pages and components have in common. A view starts with the imports, the free code, the
properties and the methods that its author wrote; its template decides what else it imports.
-/

namespace Blueprint.Client

open Design ClientCode Generation

/-- A view that is being put together: its file, and its class apart from it. -/
structure View where
  source : Source
  owner : ClassDecl

/-- What an author wrote about a page or a component. -/
structure ViewDesign where
  name : String
  imports : List ImportSpec
  preamble : String
  methods : List Design.Method
  template : String
  styles : String

/-- A page as a view. -/
def ViewDesign.ofPage (page : Page) : ViewDesign :=
  ⟨page.name, page.imports, page.preamble, page.methods, page.template, page.styles⟩

/-- A component as a view. -/
def ViewDesign.ofComponent (component : Component) : ViewDesign :=
  ⟨component.name, component.imports, component.preamble, component.methods, component.template,
    component.styles⟩

namespace View

/-- Imports names from a module. -/
def addImport (view : View) (module : String) (names : List String) : View :=
  { view with source := view.source.addImport module names }

/-- Adds a member at the end of the class. -/
def addMember (view : View) (member : Member) : View :=
  { view with owner := view.owner.addMember member }

/-- Adds members at the end of the class. -/
def addMembers (view : View) (members : List Member) : View :=
  { view with owner := view.owner.addMembers members }

/-- Imports a business object; `lead` leads to their directory. -/
def addBusinessObject (lead : String) (view : View) (name : String) : View :=
  view.addImport (businessObjectModule name lead) [name]

/-- Adds the imports of an author: those of business objects are found, those that exist only in
designs are dropped. -/
def addImportSpecs (lead : String) : List ImportSpec → View → Step View
  | [], view => return view
  | spec :: rest, view =>
    if spec.module == businessObjectsModule then
      addImportSpecs lead rest (spec.names.foldl (addBusinessObject lead) view)
    else if isDesignModule spec.module then do
      Step.debug ("dropped DSL import from '" ++ spec.module ++ "'")
      addImportSpecs lead rest view
    else addImportSpecs lead rest (view.addImport spec.module spec.names)

/-- A view with its author's imports and free code. -/
def start (design : ViewDesign) (className lead : String) : Step View := do
  let view ← addImportSpecs lead design.imports ⟨{ name := design.name }, { name := className }⟩
  return { view with source := view.source.addStatement design.preamble }

/-- A text that is not empty. -/
def given? (text : String) : Option String := if text.isEmpty then none else some text

/-- The first value of a property: what its author says, else an empty array for an array. -/
def initialOf (property : Design.Property) : Option String :=
  (given? property.initializer).or (if property.type.array then some "[]" else none)

/-- The field of a property. -/
def fieldOf (property : Design.Property) : ClientCode.Property :=
  { name := property.name
    type := some (typeOf property.type)
    initial := initialOf property
    optional := property.optional || (initialOf property).isNone }

/-- Imports the business object that a property holds, if it holds one. -/
def importType (registry : Registry) (lead : String) (view : View) (property : Design.Property) :
    View :=
  if (registry.findEntity? property.type.name).isSome then
    view.addBusinessObject lead property.type.name
  else view

/-- A parameter with its type. -/
def paramText (param : Parameter) : String :=
  param.name ++ (if param.optional then "?" else "") ++ typeText (param.type.map typeOf)

/-- The result type of a method; one that may be waited for promises it, unless its author wrote the
promise. -/
def returnsOf (method : Design.Method) : Option String :=
  method.returns.map fun type =>
    let base := typeOf type
    if method.async && !"Promise<".toList.isPrefixOf base.toList then "Promise<" ++ base ++ ">"
    else base

/-- The words in front of a method that not everyone may call. -/
def scopeWords (method : Design.Method) : List String :=
  match method.options.scope with
  | none | some .anyone => []
  | some scope => [scope.name]

/-- A method of an author. -/
def methodOf (method : Design.Method) : ClientCode.Method :=
  { name := method.name
    params := method.params.map paramText
    returns := returnsOf method
    body := method.body
    isAsync := method.async
    modifiers := scopeWords method }

/-- Adds the methods of an author. -/
def addMethods (view : View) (methods : List Design.Method) : View :=
  view.addMembers (methods.map fun method => .method (methodOf method))

/-- A call of a method of the class. -/
def callOf (method : Design.Method) : String :=
  (if method.async then "await " else "") ++ "this." ++ method.name ++ "();"

/-- A call of the logger stands in a text, as a word of its own. -/
def callsDebugAfter (previous : Option Char) : List Char → Bool
  | [] => false
  | c :: rest =>
    (!previous.any Text.isWord && "debug(".toList.isPrefixOf (c :: rest)) ||
      callsDebugAfter (some c) rest

/-- A method that calls the logger. -/
def callsDebug (method : ClientCode.Method) : Bool := callsDebugAfter none method.body.toList

/-- Gives a method that calls the logger one of its own. -/
def withDebug (member : Member) : Member :=
  member.changeMethod fun method =>
    if callsDebug method then
      method.prepend ["const debug = Debug.extend(" ++ quoted method.name ++ ");"]
    else method

/-- Gives every method that calls the logger one of its own, below that of the view. -/
def addDebug (view : View) (space : String) : View :=
  if view.owner.members.any fun member => member.method?.any callsDebug then
    let source := (view.source.addDefaultImport "debug" (some "createDebug")).addStatement
      ("const Debug = createDebug(" ++ quoted space ++ ");")
    { source, owner := { view.owner with members := view.owner.members.map withDebug } }
  else view

/-- A text that ends with a line feed unless it is blank. -/
def trimmedFile (text : String) : String :=
  let trimmed := Text.strip text
  if trimmed.isEmpty then "" else trimmed ++ "\n"

/-- The template as the framework reads it. -/
def templateText (design : ViewDesign) : String :=
  trimmedFile (Markup.convertTemplate design.template)

/-- Imports what the template needs and names it in the metadata of the class. -/
def addMetadata (view : View) (registry : Registry) (design : ViewDesign) (place : Place)
    (selector stem suffix : String) : Step View := do
  let needed ← Markup.templateImports registry (templateText design) (some design.name)
  let imported := needed.foldl
    (fun view item => view.addImport (place.module item.module) item.names) view
  let names := Text.sortedSet (needed.flatMap (·.names))
  let base := "./" ++ stem ++ "." ++ suffix
  let metadata := objectText 0 [
    ("selector", quoted selector),
    ("templateUrl", quoted (base ++ ".html")),
    ("styleUrls", "[" ++ quoted (base ++ ".scss") ++ "]"),
    ("imports", arrayText 1 3 names)]
  let decorated := imported.addImport coreModule ["Component"]
  return { decorated with owner := decorated.owner.decorate ⟨"Component", [metadata]⟩ }

/-- The text of the view's file. -/
def render (view : View) : String := { view.source with classes := [view.owner] }.render

/-- The files of a view: its class, its template and its styles. -/
def files (view : View) (design : ViewDesign) (base : String) : Produced :=
  .files [(base ++ ".ts", view.render), (base ++ ".html", templateText design),
    (base ++ ".scss", trimmedFile design.styles)]

/-- The paths of the files of a view. -/
def paths (base : String) : List String := [base ++ ".ts", base ++ ".html", base ++ ".scss"]

end View

end Blueprint.Client
