import Blueprint.Markup.Selector
import Blueprint.UnitGraph.Basic

namespace Blueprint.Markup

open Design

/-- Names to import from a module. -/
structure TemplateImport where
  module : String
  names : List String
  deriving DecidableEq, Repr

/-- A name of a module. -/
abbrev ImportedName := String × String

/-- The names that an interface imports. -/
def interfaceImports (unit : SelectorInterface) : List ImportedName :=
  unit.imports.flatMap fun spec => spec.names.map fun name => (spec.module, name)

/-- The module of a component. -/
def componentModule (name : String) : String :=
  let stem := ViewName.componentStem name
  s!"@components/{stem}/{stem}.component"

/-- The module of all pages. -/
def pagesModule : String := "@pages"

/-- The names behind an element: of a component, else of a page, else of an interface, the first of
each in order. A view of the excluded name does not count. -/
def elementImports? (registry : Registry) (excluded : Option String) (element : String) :
    Option (List ImportedName) :=
  let component := (registry.components.find? fun view =>
    some view.unit.name != excluded && UnitGraph.componentSelector view.unit == element).map
      fun view => [(componentModule view.unit.name, ViewName.componentClass view.unit.name)]
  let page := (registry.pages.find? fun view =>
    some view.unit.name != excluded && UnitGraph.pageSelector view.unit == element).map
      fun view => [(pagesModule, ViewName.pageClass view.unit.name)]
  let declared := ((registry.interfaces .element).find? fun unit =>
    (selectorParts unit.unit.selector.toList).contains element.toList).map
      fun unit => interfaceImports unit.unit
  component.or (page.or declared)

/-- The names behind elements; an element that nothing declares is noted. -/
def elementsImports (registry : Registry) (excluded : Option String) :
    List String → Step (List ImportedName)
  | [] => return []
  | element :: rest => do
    let here ← match elementImports? registry excluded element with
      | some names => pure names
      | none => do
        Step.debug s!"no declaration for element <{element}>"
        pure []
    let others ← elementsImports registry excluded rest
    return here ++ others

/-- The names behind attributes: those of the directives of which some part matches one. -/
def directiveImports (registry : Registry) (template : String) : List ImportedName :=
  let used := symbols template
  let wanted := directiveSelectors template
  let elements := used.elements.map String.toList
  let attributes := used.attributes.map String.toList
  ((registry.interfaces .directive).filter fun unit =>
    (selectorParts unit.unit.selector.toList).any fun part =>
      wanted.any fun name => matchesSelector part name.toList elements attributes).flatMap
        fun unit => interfaceImports unit.unit

/-- The names behind pipes. -/
def pipeImports (registry : Registry) (template : String) : List ImportedName :=
  let used := pipeNames template
  ((registry.interfaces .pipe).filter fun unit => used.contains unit.unit.selector).flatMap
    fun unit => interfaceImports unit.unit

/-- Names gathered by module, both sorted and without repetition. -/
def gatherImports (names : List ImportedName) : List TemplateImport :=
  (Text.sortedSet (names.map (·.1))).map fun module =>
    ⟨module, Text.sortedSet ((names.filter (·.1 == module)).map (·.2))⟩

/-- The imports that a template needs; a view of the excluded name does not count. -/
def templateImports (registry : Registry) (template : String) (excluded : Option String) :
    Step (List TemplateImport) :=
  if template.isEmpty then return []
  else do
    let elements ← elementsImports registry excluded (elementSelectors template)
    return gatherImports
      (elements ++ directiveImports registry template ++ pipeImports registry template)

end Blueprint.Markup

namespace Blueprint.ClientCode

/-- The module of the design language itself. -/
def designModule : String := "@design/dsl"

/-- The module that stands for all business objects. -/
def businessObjectsModule : String := "@business-objects"

/-- What the modules of components start with. -/
def componentsAlias : String := "@components/"

/-- A module that exists only in designs: that of the language, or an alias of one segment. -/
def isDesignModule (module : String) : Bool :=
  module == designModule || (module.startsWith "@" && !module.toList.contains '/')

/-- The module of a business object, seen from where `lead` leads to their directory. -/
def businessObjectModule (name lead : String) : String := lead ++ kebabCase name

/-- Where a file lies, by the ways to the directory of components and to the pages. -/
structure Place where
  components : String
  pages : String
  deriving DecidableEq, Repr

/-- The module that a file at a place imports for one named in a design. -/
def Place.module (place : Place) (module : String) : String :=
  match Text.after? componentsAlias.toList module.toList with
  | some rest => place.components ++ String.ofList rest
  | none => if module == Markup.pagesModule then place.pages else module

end Blueprint.ClientCode
