import Blueprint.Markup.Imports
import Blueprint.Proofs.Text

namespace Blueprint.Markup

open Design

/-- A template imports a name of a module; a view of the excluded name does not count. -/
def Imports (registry : Registry) (template : String) (excluded : Option String)
    (item : ImportedName) : Prop :=
  ∃ needed, (templateImports registry template excluded).outcome = .ok needed ∧
    ∃ group ∈ needed, group.module = item.1 ∧ item.2 ∈ group.names

variable {registry : Registry} {template : String} {excluded : Option String} {item : ImportedName}

/-- An element of the template brings in a name. -/
def ByElement (registry : Registry) (template : String) (excluded : Option String)
    (item : ImportedName) : Prop :=
  ∃ element ∈ elementSelectors template,
    ∃ names, elementImports? registry excluded element = some names ∧ item ∈ names

private theorem outcome_elementsImports (elements : List String) :
    (elementsImports registry excluded elements).outcome =
      .ok (elements.flatMap fun element => (elementImports? registry excluded element).getD []) := by
  induction elements with
  | nil => rfl
  | cons element elements ih =>
    unfold elementsImports
    cases found : elementImports? registry excluded element <;> simp [found, ih]

theorem mem_gatherImports {names : List ImportedName} :
    (∃ group ∈ gatherImports names, group.module = item.1 ∧ item.2 ∈ group.names) ↔
      item ∈ names := by
  unfold gatherImports
  constructor
  · rintro ⟨group, listed, here, named⟩
    obtain ⟨module, _, rfl⟩ := List.mem_map.mp listed
    obtain ⟨found, kept, name⟩ := List.mem_map.mp (Text.mem_sortedSet.mp named)
    obtain ⟨member, same⟩ := List.mem_filter.mp kept
    have whole : found = item := Prod.ext ((eq_of_beq same).trans here) name
    exact whole ▸ member
  · intro member
    refine ⟨_, List.mem_map.mpr ⟨item.1, Text.mem_sortedSet.mpr (List.mem_map_of_mem member), rfl⟩,
      rfl, Text.mem_sortedSet.mpr (List.mem_map_of_mem (List.mem_filter.mpr ⟨member, ?_⟩))⟩
    exact beq_self_eq_true item.1

theorem names_of_empty (registry : Registry) : elementSelectors "" = [] ∧ directiveImports registry "" = [] ∧
    pipeImports registry "" = [] := by
  have elements : elementSelectors "" = [] := rfl
  have directives : directiveSelectors "" = [] := rfl
  have pipes : pipeNames "" = [] := by simp [pipeNames, Text.sortedSet, pipesOf, Text.findAll,
    Text.findAllFrom]
  exact ⟨elements, by simp [directiveImports, directives], by simp [pipeImports, pipes]⟩

theorem outcome_templateImports : (templateImports registry template excluded).outcome =
    .ok (gatherImports ((elementSelectors template).flatMap (fun element =>
      (elementImports? registry excluded element).getD []) ++ directiveImports registry template ++
        pipeImports registry template)) := by
  unfold templateImports
  split
  · rename_i empty
    obtain rfl := String.isEmpty_iff.mp empty
    obtain ⟨elements, directives, pipes⟩ := names_of_empty registry
    rw [elements, directives, pipes]
    simp [gatherImports, Text.sortedSet]
  · simp [outcome_elementsImports]

private theorem imports_of_outcome {needed : List TemplateImport}
    (outcome : (templateImports registry template excluded).outcome = .ok needed) :
    Imports registry template excluded item ↔
      ∃ group ∈ needed, group.module = item.1 ∧ item.2 ∈ group.names := by
  constructor
  · rintro ⟨others, same, gathered⟩
    rwa [Except.ok.inj (outcome.symm.trans same)]
  · exact fun gathered => ⟨needed, outcome, gathered⟩

/-- A template imports what its elements, its directives and its pipes bring in. -/
theorem imports_iff : Imports registry template excluded item ↔
    ByElement registry template excluded item ∨
      item ∈ directiveImports registry template ∨ item ∈ pipeImports registry template := by
  have byElement : item ∈ ((elementSelectors template).flatMap fun element =>
      (elementImports? registry excluded element).getD []) ↔
        ByElement registry template excluded item := by
    rw [List.mem_flatMap]
    refine exists_congr fun element => and_congr_right fun _ => ?_
    cases elementImports? registry excluded element <;> simp
  rw [← byElement, ← or_assoc, ← List.mem_append, ← List.mem_append, ← mem_gatherImports]
  exact imports_of_outcome outcome_templateImports

section First

variable {α : Type}

/-- The first of some units that meets a condition. -/
def IsFirst (meets : α → Prop) (units : List α) (unit : α) : Prop :=
  ∃ earlier later, units = earlier ++ unit :: later ∧ meets unit ∧ ∀ other ∈ earlier, ¬ meets other

variable {accepts : α → Bool} {meets : α → Prop} {units : List α}
  (same : ∀ unit, accepts unit = true ↔ meets unit)

include same

theorem find?_eq_some_iff_isFirst {unit : α} :
    units.find? accepts = some unit ↔ IsFirst meets units unit := by
  rw [List.find?_eq_some_iff_append]
  constructor
  · rintro ⟨taken, earlier, later, split, passed⟩
    refine ⟨earlier, later, split, (same unit).mp taken, fun other member met => ?_⟩
    have refused := passed other member
    rw [(same other).mpr met] at refused
    cases refused
  · rintro ⟨earlier, later, split, met, passed⟩
    refine ⟨(same unit).mpr met, earlier, later, split, fun other member => ?_⟩
    rw [Bool.not_eq_true']
    exact Bool.eq_false_iff.mpr fun taken => passed other member ((same other).mp taken)

theorem find?_eq_none_iff_unmet : units.find? accepts = none ↔ ∀ unit ∈ units, ¬ meets unit := by
  rw [List.find?_eq_none]
  exact forall₂_congr fun unit _ => not_congr (same unit)

end First

/-- An element stands for a component whose name is not the excluded one. -/
def IsComponentOf (excluded : Option String) (element : String) (view : Declared Component) : Prop :=
  some view.unit.name ≠ excluded ∧ UnitGraph.componentSelector view.unit = element

/-- An element stands for a page whose name is not the excluded one. -/
def IsPageOf (excluded : Option String) (element : String) (view : Declared Page) : Prop :=
  some view.unit.name ≠ excluded ∧ UnitGraph.pageSelector view.unit = element

/-- An interface lists an element among the parts of its selector. -/
def ListsElement (element : String) (unit : Declared SelectorInterface) : Prop :=
  element.toList ∈ selectorParts unit.unit.selector.toList

/-- An interface declares the import of a name. -/
def DeclaresImport (unit : Declared SelectorInterface) (item : ImportedName) : Prop :=
  ∃ spec ∈ unit.unit.imports, spec.module = item.1 ∧ item.2 ∈ spec.names

/-- What an element is resolved to: the class of a component, else of a page, else what an interface
declares, the first of each kind that fits. -/
inductive ResolvesTo (registry : Registry) (excluded : Option String) (element : String) :
    ImportedName → Prop where
  | component {view : Declared Component}
      (first : IsFirst (IsComponentOf excluded element) registry.components view) :
      ResolvesTo registry excluded element
        (componentModule view.unit.name, ViewName.componentClass view.unit.name)
  | page {view : Declared Page}
      (noComponent : ∀ other ∈ registry.components, ¬ IsComponentOf excluded element other)
      (first : IsFirst (IsPageOf excluded element) registry.pages view) :
      ResolvesTo registry excluded element (pagesModule, ViewName.pageClass view.unit.name)
  | interface {unit : Declared SelectorInterface} {item : ImportedName}
      (noComponent : ∀ other ∈ registry.components, ¬ IsComponentOf excluded element other)
      (noPage : ∀ other ∈ registry.pages, ¬ IsPageOf excluded element other)
      (first : IsFirst (ListsElement element) (registry.interfaces .element) unit)
      (declares : DeclaresImport unit item) : ResolvesTo registry excluded element item

/-- A directive of the template declares the import of a name: some part of its selector matches an
attribute that plain markup lacks. -/
def ByDirective (registry : Registry) (template : String) (item : ImportedName) : Prop :=
  ∃ unit ∈ registry.interfaces .directive,
    (∃ part ∈ selectorParts unit.unit.selector.toList, ∃ wanted ∈ directiveSelectors template,
      matchesSelector part wanted.toList ((symbols template).elements.map String.toList)
        ((symbols template).attributes.map String.toList) = true) ∧ DeclaresImport unit item

/-- A pipe of the template declares the import of a name. -/
def ByPipe (registry : Registry) (template : String) (item : ImportedName) : Prop :=
  ∃ unit ∈ registry.interfaces .pipe,
    unit.unit.selector ∈ pipeNames template ∧ DeclaresImport unit item

theorem mem_interfaceImports {unit : Declared SelectorInterface} :
    item ∈ interfaceImports unit.unit ↔ DeclaresImport unit item := by
  obtain ⟨module, name⟩ := item
  simp only [interfaceImports, DeclaresImport, List.mem_flatMap, List.mem_map, Prod.mk.injEq]
  refine exists_congr fun spec => and_congr_right fun _ => ⟨?_, ?_⟩
  · rintro ⟨other, listed, here, rfl⟩
    exact ⟨here, listed⟩
  · rintro ⟨here, listed⟩
    exact ⟨name, listed, here, rfl⟩

/-- The names behind an element are those that it is resolved to. -/
theorem mem_elementImports?_iff_resolvesTo {element : String} :
    (∃ names, elementImports? registry excluded element = some names ∧ item ∈ names) ↔
      ResolvesTo registry excluded element item := by
  have isComponent (view : Declared Component) : (some view.unit.name != excluded &&
      UnitGraph.componentSelector view.unit == element) = true ↔
        IsComponentOf excluded element view := by
    simp [IsComponentOf]
  have isPage (view : Declared Page) : (some view.unit.name != excluded &&
      UnitGraph.pageSelector view.unit == element) = true ↔ IsPageOf excluded element view := by
    simp [IsPageOf]
  have lists (unit : Declared SelectorInterface) :
      (selectorParts unit.unit.selector.toList).contains element.toList = true ↔
        ListsElement element unit := by
    simp [ListsElement]
  unfold elementImports?
  constructor
  · rintro ⟨names, found, member⟩
    simp only [Option.or_eq_some_iff, Option.map_eq_some_iff, Option.map_eq_none_iff] at found
    rcases found with ⟨view, shown, rfl⟩ | ⟨noComponent, ⟨view, shown, rfl⟩ | ⟨noPage, unit, declared, rfl⟩⟩
    · rw [List.mem_singleton.mp member]
      exact .component ((find?_eq_some_iff_isFirst isComponent).mp shown)
    · rw [List.mem_singleton.mp member]
      exact .page ((find?_eq_none_iff_unmet isComponent).mp noComponent)
        ((find?_eq_some_iff_isFirst isPage).mp shown)
    · exact .interface ((find?_eq_none_iff_unmet isComponent).mp noComponent)
        ((find?_eq_none_iff_unmet isPage).mp noPage)
        ((find?_eq_some_iff_isFirst lists).mp declared) (mem_interfaceImports.mp member)
  · intro resolves
    cases resolves with
    | component first =>
      rw [(find?_eq_some_iff_isFirst isComponent).mpr first]
      exact ⟨_, rfl, List.mem_singleton_self _⟩
    | page noComponent first =>
      rw [(find?_eq_none_iff_unmet isComponent).mpr noComponent,
        (find?_eq_some_iff_isFirst isPage).mpr first]
      exact ⟨_, rfl, List.mem_singleton_self _⟩
    | interface noComponent noPage first declares =>
      rw [(find?_eq_none_iff_unmet isComponent).mpr noComponent,
        (find?_eq_none_iff_unmet isPage).mpr noPage, (find?_eq_some_iff_isFirst lists).mpr first]
      exact ⟨_, rfl, mem_interfaceImports.mpr declares⟩

private theorem mem_directiveImports :
    item ∈ directiveImports registry template ↔ ByDirective registry template item := by
  simp only [directiveImports, ByDirective, List.mem_flatMap, List.mem_filter, List.any_eq_true,
    mem_interfaceImports, and_assoc]

theorem mem_pipeImports : item ∈ pipeImports registry template ↔ ByPipe registry template item := by
  simp only [pipeImports, ByPipe, List.mem_flatMap, List.mem_filter, List.contains_iff_mem,
    mem_interfaceImports, and_assoc]

theorem gatherImports_ascending (names : List ImportedName) :
    ((gatherImports names).map TemplateImport.module).Pairwise (· < ·) ∧
      ∀ group ∈ gatherImports names, group.names ≠ [] ∧ group.names.Pairwise (· < ·) := by
  unfold gatherImports
  constructor
  · rw [List.map_map]
    simpa [Function.comp_def] using Text.pairwise_sortedSet (names.map (·.1))
  · intro group listed
    obtain ⟨module, needed, rfl⟩ := List.mem_map.mp listed
    obtain ⟨found, member, rfl⟩ := List.mem_map.mp (Text.mem_sortedSet.mp needed)
    have kept : found.2 ∈ Text.sortedSet ((names.filter (·.1 == found.1)).map (·.2)) :=
      Text.mem_sortedSet.mpr (List.mem_map_of_mem
        (List.mem_filter.mpr ⟨member, beq_self_eq_true found.1⟩))
    exact ⟨List.ne_nil_of_mem kept, Text.pairwise_sortedSet _⟩

/-- Resolving a template never fails. It gives modules in ascending order of their code points, each
with some names in ascending order, and among them just the names that an element of the template is
resolved to and those that a directive or a pipe of the template declares. -/
theorem templateImports_needed (registry : Registry) (template : String)
    (excluded : Option String) :
    ∃ needed, (templateImports registry template excluded).outcome = .ok needed ∧
      (needed.map TemplateImport.module).Pairwise (· < ·) ∧
      (∀ group ∈ needed, group.names ≠ [] ∧ group.names.Pairwise (· < ·)) ∧
      ∀ item : ImportedName, (∃ group ∈ needed, group.module = item.1 ∧ item.2 ∈ group.names) ↔
        (∃ element ∈ elementSelectors template, ResolvesTo registry excluded element item) ∨
        ByDirective registry template item ∨ ByPipe registry template item := by
  obtain ⟨modules, names⟩ := gatherImports_ascending ((elementSelectors template).flatMap
    (fun element => (elementImports? registry excluded element).getD []) ++
      directiveImports registry template ++ pipeImports registry template)
  refine ⟨_, outcome_templateImports, modules, names, fun item => ?_⟩
  rw [← imports_of_outcome outcome_templateImports, imports_iff, mem_directiveImports,
    mem_pipeImports]
  refine or_congr_left (exists_congr fun element => and_congr_right fun _ => ?_)
  exact mem_elementImports?_iff_resolvesTo

end Blueprint.Markup
