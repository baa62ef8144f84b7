import Mathlib.Data.List.Nodup
import Blueprint.Proofs.Markup.TemplateImports
import Blueprint.Proofs.Registry
import Blueprint.Proofs.UnitGraph.Edges

namespace Blueprint.UnitGraph

open Design Markup

/-- The views by the elements that stand for them, components before pages. -/
def viewElements (registry : Registry) : List (String × Key) :=
  (registry.components.map fun component =>
    (componentSelector component.unit, (UnitKind.component, component.unit.name))) ++
  registry.pages.map fun page => (pageSelector page.unit, (UnitKind.page, page.unit.name))

/-- What a template imports for a view: its class, from its module. -/
def viewClass : Key → ImportedName
  | (.page, name) => (pagesModule, ViewName.pageClass name)
  | (_, name) => (componentModule name, ViewName.componentClass name)

/-- An element stands for a view whose name is not excluded. -/
def StandsFor (registry : Registry) (excluded : Option String) (element : String) (view : Key) :
    Prop :=
  (element, view) ∈ viewElements registry ∧ some view.2 ≠ excluded

/-- The first interface that declares an element. -/
def declaredElement? (registry : Registry) (element : String) :
    Option (Declared SelectorInterface) :=
  (registry.interfaces .element).find? fun unit =>
    (selectorParts unit.unit.selector.toList).contains element.toList

/-- An interface brings in a name: one that declares an element no view stands behind, one of a
directive or one of a pipe. -/
def ByInterface (registry : Registry) (template : String) (excluded : Option String)
    (item : ImportedName) : Prop :=
  (∃ element ∈ elementSelectors template, (∀ view, ¬ StandsFor registry excluded element view) ∧
    ∃ unit, declaredElement? registry element = some unit ∧ item ∈ interfaceImports unit.unit) ∨
  item ∈ directiveImports registry template ∨ item ∈ pipeImports registry template

section Elements

variable {registry : Registry} {excluded : Option String} {element : String} {view : Key}
  {item : ImportedName}

/-- An element is looked up among the components, then the pages, then the interfaces. -/
theorem elementImports?_cases :
    (∃ view, StandsFor registry excluded element view ∧
      elementImports? registry excluded element = some [viewClass view]) ∨
    (∀ view, ¬ StandsFor registry excluded element view) ∧
      elementImports? registry excluded element =
        (declaredElement? registry element).map fun unit => interfaceImports unit.unit := by
  unfold elementImports?
  cases component : registry.components.find? fun view =>
      some view.unit.name != excluded && componentSelector view.unit == element with
  | some found =>
    have matched := List.find?_some component
    rw [Bool.and_eq_true, bne_iff_ne, beq_iff_eq] at matched
    refine Or.inl ⟨(.component, found.unit.name), ⟨?_, matched.1⟩, rfl⟩
    exact List.mem_append_left _ (List.mem_map.mpr
      ⟨found, List.mem_of_find?_eq_some component, by rw [matched.2]⟩)
  | none =>
    cases page : registry.pages.find? fun view =>
        some view.unit.name != excluded && pageSelector view.unit == element with
    | some found =>
      have matched := List.find?_some page
      rw [Bool.and_eq_true, bne_iff_ne, beq_iff_eq] at matched
      refine Or.inl ⟨(.page, found.unit.name), ⟨?_, matched.1⟩, rfl⟩
      exact List.mem_append_right _ (List.mem_map.mpr
        ⟨found, List.mem_of_find?_eq_some page, by rw [matched.2]⟩)
    | none =>
      refine Or.inr ⟨fun view stands => ?_, rfl⟩
      rcases List.mem_append.mp stands.1 with own | own
      · obtain ⟨found, listed, same⟩ := List.mem_map.mp own
        obtain ⟨rfl, rfl⟩ := Prod.ext_iff.mp same
        exact List.find?_eq_none.mp component found listed (by simpa using stands.2)
      · obtain ⟨found, listed, same⟩ := List.mem_map.mp own
        obtain ⟨rfl, rfl⟩ := Prod.ext_iff.mp same
        exact List.find?_eq_none.mp page found listed (by simpa using stands.2)

theorem StandsFor.unique (distinct : ((viewElements registry).map Prod.fst).Nodup) {other : Key}
    (stands : StandsFor registry excluded element view)
    (again : StandsFor registry excluded element other) : view = other :=
  congrArg Prod.snd (List.inj_on_of_nodup_map distinct stands.1 again.1 rfl)

/-- An element brings in the class of the view that it stands for, else what the interface that
declares it imports. -/
theorem mem_elementImports?_iff (distinct : ((viewElements registry).map Prod.fst).Nodup) :
    (∃ names, elementImports? registry excluded element = some names ∧ item ∈ names) ↔
      (∃ view, StandsFor registry excluded element view ∧ item = viewClass view) ∨
      (∀ view, ¬ StandsFor registry excluded element view) ∧
        ∃ unit, declaredElement? registry element = some unit ∧
          item ∈ interfaceImports unit.unit := by
  have looked : (∃ view, StandsFor registry excluded element view ∧
      elementImports? registry excluded element = some [viewClass view]) ∨
    (∀ view, ¬ StandsFor registry excluded element view) ∧
      elementImports? registry excluded element =
        (declaredElement? registry element).map fun unit => interfaceImports unit.unit :=
    elementImports?_cases
  rcases looked with ⟨view, stands, found⟩ | ⟨none, found⟩
  · rw [found]
    constructor
    · rintro ⟨names, same, member⟩
      obtain rfl := Option.some.inj same
      exact Or.inl ⟨view, stands, List.mem_singleton.mp member⟩
    · rintro (⟨other, again, rfl⟩ | ⟨none, _⟩)
      · exact ⟨_, rfl, by rw [again.unique distinct stands]; exact List.mem_singleton_self _⟩
      · exact absurd stands (none view)
  · rw [found]
    constructor
    · rintro ⟨_, some, member⟩
      obtain ⟨unit, declared, rfl⟩ := Option.map_eq_some_iff.mp some
      exact Or.inr ⟨none, unit, declared, member⟩
    · rintro (⟨view, stands, _⟩ | ⟨_, unit, declared, member⟩)
      · exact absurd stands (none view)
      · exact ⟨_, Option.map_eq_some_iff.mpr ⟨unit, declared, rfl⟩, member⟩

theorem imports_iff_standsFor (distinct : ((viewElements registry).map Prod.fst).Nodup)
    {template : String} :
    Imports registry template excluded item ↔
      (∃ element ∈ elementSelectors template, ∃ view,
        StandsFor registry excluded element view ∧ item = viewClass view) ∨
      ByInterface registry template excluded item := by
  have elements : ByElement registry template excluded item ↔
      (∃ element ∈ elementSelectors template, ∃ view,
        StandsFor registry excluded element view ∧ item = viewClass view) ∨
      ∃ element ∈ elementSelectors template, (∀ view, ¬ StandsFor registry excluded element view) ∧
        ∃ unit, declaredElement? registry element = some unit ∧
          item ∈ interfaceImports unit.unit := by
    unfold ByElement
    simp only [mem_elementImports?_iff distinct, and_or_left, exists_or]
  rw [imports_iff, elements, ByInterface, or_assoc]

end Elements

section Edges

variable {registry : Registry} {view : Key × String} {used : Key}

/-- A view has one template. -/
theorem eq_of_mem_views {other : Key × String} (one : view ∈ views registry)
    (another : other ∈ views registry) (same : view.1 = other.1) : view = other := by
  rcases List.mem_append.mp one with page | component
  · obtain ⟨first, listed, rfl⟩ := List.mem_map.mp page
    rcases List.mem_append.mp another with own | own
    · obtain ⟨second, further, rfl⟩ := List.mem_map.mp own
      have single := Registry.eq_of_mem_list page?_shows listed further (congrArg Prod.snd same)
      rw [single]
    · obtain ⟨second, _, rfl⟩ := List.mem_map.mp own
      cases congrArg Prod.fst same
  · obtain ⟨first, listed, rfl⟩ := List.mem_map.mp component
    rcases List.mem_append.mp another with own | own
    · obtain ⟨second, _, rfl⟩ := List.mem_map.mp own
      cases congrArg Prod.fst same
    · obtain ⟨second, further, rfl⟩ := List.mem_map.mp own
      have single :=
        Registry.eq_of_mem_list component?_shows listed further (congrArg Prod.snd same)
      rw [single]

/-- A view's edges lead to the other views for which elements of its template stand. -/
theorem leads_uses_iff (distinct : ((viewElements registry).map Prod.fst).Nodup)
    (listed : view ∈ views registry) :
    Leads (ofRegistry registry).edges .uses view.1 used ↔
      used ≠ view.1 ∧ ∃ element ∈ elementSelectors view.2,
        (element, used) ∈ viewElements registry := by
  have stands (element : String) : (selectors registry).lookup element = some used ↔
      (element, used) ∈ viewElements registry := OrderedMap.lookup_ofList_iff distinct
  rw [leads_ofRegistry_iff]
  constructor
  · rintro ⟨edge, member, kind, source, rfl⟩
    obtain ⟨other, present, element, shown, target, foreign, found, rfl⟩ :=
      mem_viewEdges_iff.mp (mem_viewEdges_iff_uses.mpr ⟨member, kind⟩)
    obtain rfl := eq_of_mem_views present listed source
    exact ⟨foreign, element, shown, (stands element).mp found⟩
  · rintro ⟨foreign, element, shown, declared⟩
    have drawn : (⟨view.1, used, .uses, ""⟩ : Edge) ∈ viewEdges registry :=
      mem_viewEdges_iff.mpr ⟨view, listed, element, shown, used, foreign,
        (stands element).mpr declared, rfl⟩
    exact ⟨_, (mem_viewEdges_iff_uses.mp drawn).1, rfl, rfl, rfl⟩

end Edges

/-- With an element for each view, a view imports the classes of the views to which its edges lead,
less those that share its name, and what interfaces bring in. So where views have classes of their
own and no interface imports a view, it imports exactly the views of its edges that have other
names. -/
theorem view_imports_iff_leads (registry : Registry)
    (distinct : ((viewElements registry).map Prod.fst).Nodup) :
    ∀ view ∈ views registry,
      (∀ item, Imports registry view.2 (some view.1.2) item ↔
        (∃ used, Leads (ofRegistry registry).edges .uses view.1 used ∧ used.2 ≠ view.1.2 ∧
          item = viewClass used) ∨
        ByInterface registry view.2 (some view.1.2) item) ∧
      (((viewElements registry).map fun entry => viewClass entry.2).Nodup →
        ∀ used ∈ (viewElements registry).map Prod.snd,
          ¬ ByInterface registry view.2 (some view.1.2) (viewClass used) →
          (Imports registry view.2 (some view.1.2) (viewClass used) ↔
            Leads (ofRegistry registry).edges .uses view.1 used ∧ used.2 ≠ view.1.2)) := by
  intro view listed
  have exact : ∀ item, Imports registry view.2 (some view.1.2) item ↔
      (∃ used, Leads (ofRegistry registry).edges .uses view.1 used ∧ used.2 ≠ view.1.2 ∧
        item = viewClass used) ∨ ByInterface registry view.2 (some view.1.2) item := by
    intro item
    rw [imports_iff_standsFor distinct]
    refine or_congr_left ⟨?_, ?_⟩
    · rintro ⟨element, shown, used, ⟨declared, other⟩, rfl⟩
      have named : used.2 ≠ view.1.2 := fun same => other (congrArg some same)
      have leads := (leads_uses_iff distinct listed).mpr
        ⟨fun same => named (congrArg Prod.snd same), element, shown, declared⟩
      exact ⟨used, leads, named, rfl⟩
    · rintro ⟨used, leads, named, rfl⟩
      obtain ⟨_, element, shown, declared⟩ := (leads_uses_iff distinct listed).mp leads
      exact ⟨element, shown, used, ⟨declared, fun same => named (Option.some.inj same)⟩, rfl⟩
  refine ⟨exact, fun classes used member declared => ?_⟩
  rw [exact, or_iff_left declared]
  constructor
  · rintro ⟨other, leads, named, same⟩
    obtain ⟨_, element, _, own⟩ := (leads_uses_iff distinct listed).mp leads
    obtain ⟨entry, present, rfl⟩ := List.mem_map.mp member
    have single : entry = (element, other) := List.inj_on_of_nodup_map classes present own same
    subst single
    exact ⟨leads, named⟩
  · rintro ⟨leads, named⟩
    exact ⟨used, leads, named, rfl⟩

/-- A page that shows a supplier. -/
def supplierPage : Registry where
  units := Registry.declare none false 0
    [.page { offset := 0, name := "Home", template := "<supplier-card></supplier-card>" },
      .component { offset := 0, name := "SupplierCard" }]
  distinct := by decide

theorem view_imports_iff_leads_supplier :
    ((viewElements supplierPage).map Prod.fst).Nodup ∧
    ((viewElements supplierPage).map fun entry => viewClass entry.2).Nodup ∧
    Leads (ofRegistry supplierPage).edges .uses (.page, "Home") (.component, "SupplierCard") ∧
    Imports supplierPage "<supplier-card></supplier-card>" (some "Home")
      ("@components/supplier-card/supplier-card.component", "SupplierCardComponent") := by
  have elements : ((viewElements supplierPage).map Prod.fst).Nodup := by decide
  have classes : ((viewElements supplierPage).map fun entry => viewClass entry.2).Nodup := by
    decide
  have leads :
      Leads (ofRegistry supplierPage).edges .uses (.page, "Home") (.component, "SupplierCard") := by
    unfold Leads
    decide +kernel
  have undeclared : ¬ ByInterface supplierPage "<supplier-card></supplier-card>" (some "Home")
      (viewClass (.component, "SupplierCard")) := by
    rintro (⟨_, _, _, unit, declared, _⟩ | directive | pipe)
    · cases declared
    · exact absurd directive (by decide)
    · exact absurd pipe (by decide)
  have imports := ((view_imports_iff_leads supplierPage elements
    ((.page, "Home"), "<supplier-card></supplier-card>") (by decide)).2 classes
      (.component, "SupplierCard") (by decide) undeclared).mpr ⟨leads, by decide⟩
  have named : viewClass (.component, "SupplierCard") =
      ("@components/supplier-card/supplier-card.component", "SupplierCardComponent") := by
    decide
  exact ⟨elements, classes, leads, named ▸ imports⟩

/-- A page that shows a component of its own name. -/
def homes : Registry where
  units := Registry.declare none false 0
    [.page { offset := 0, name := "Home", template := "<app-home></app-home>" },
      .component { offset := 0, name := "Home", selector := "app-home" }]
  distinct := by decide

/-- A page does not import the component of its name, though its edge leads there. -/
theorem namesake_not_imported :
    ((viewElements homes).map Prod.fst).Nodup ∧
    Leads (ofRegistry homes).edges .uses (.page, "Home") (.component, "Home") ∧
    (templateImports homes "<app-home></app-home>" (some "Home")).outcome = .ok [] ∧
    ¬ Imports homes "<app-home></app-home>" (some "Home")
      (viewClass (.component, "Home")) := by
  have nothing : (templateImports homes "<app-home></app-home>" (some "Home")).outcome = .ok [] := by
    decide +kernel
  refine ⟨by decide +kernel, by unfold Leads; decide +kernel, nothing, ?_⟩
  rintro ⟨needed, outcome, group, listed, _⟩
  obtain rfl := Except.ok.inj (nothing.symm.trans outcome)
  cases listed

end Blueprint.UnitGraph
