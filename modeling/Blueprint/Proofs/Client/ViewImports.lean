import Blueprint.Client.Page
import Blueprint.Proofs.ClientCode.Importing
import Blueprint.Proofs.Resolve.Associations

namespace Blueprint.Client

open Design ClientCode Generation

/-- The modules of the framework that views import. -/
def frameworkModules : List String := [coreModule, "@angular/router", "rxjs", "debug"]

/-- A module that the author of a view, or of an interface that it shows, asks for. -/
inductive ViewAuthor (registry : Registry) (design : ViewDesign) (lead : String) (place : Place) :
    String → Prop where
  | module {spec : ImportSpec} (listed : spec ∈ design.imports) :
      ViewAuthor registry design lead place spec.module
  | object {spec : ImportSpec} {name : String} (listed : spec ∈ design.imports)
      (ofObjects : spec.module = businessObjectsModule) (named : name ∈ spec.names) :
      ViewAuthor registry design lead place (businessObjectModule name lead)
  | shown {unit : Declared SelectorInterface} {spec : ImportSpec}
      (declared : unit ∈ registry.list Unit.selectorInterface?) (listed : spec ∈ unit.unit.imports) :
      ViewAuthor registry design lead place (place.module spec.module)

/-- A module that a view imports. -/
inductive ViewImport (registry : Registry) (design : ViewDesign) (lead : String) (place : Place) :
    String → Prop where
  | framework {module : String} (listed : module ∈ frameworkModules) :
      ViewImport registry design lead place module
  | authored {module : String} (asked : ViewAuthor registry design lead place module) :
      ViewImport registry design lead place module
  | object {entity : Declared Entity} (declared : entity ∈ registry.entities) :
      ViewImport registry design lead place (businessObjectModule entity.unit.name lead)
  | component {component : Declared Component} (declared : component ∈ registry.components) :
      ViewImport registry design lead place
        (place.module (Markup.componentModule component.unit.name))
  | pages {page : Declared Page} (declared : page ∈ registry.pages) :
      ViewImport registry design lead place (place.module Markup.pagesModule)

section Template

open Markup

variable {registry : Registry}

/-- A module that a template needs. -/
inductive TemplateModule (registry : Registry) : String → Prop where
  | component {component : Declared Component} (declared : component ∈ registry.components) :
      TemplateModule registry (componentModule component.unit.name)
  | pages {page : Declared Page} (declared : page ∈ registry.pages) :
      TemplateModule registry pagesModule
  | shown {unit : Declared SelectorInterface} {spec : ImportSpec}
      (declared : unit ∈ registry.list Unit.selectorInterface?) (listed : spec ∈ unit.unit.imports) :
      TemplateModule registry spec.module

theorem TemplateModule.viewImport {design : ViewDesign} {lead : String} {place : Place}
    {module : String} (needed : TemplateModule registry module) :
    ViewImport registry design lead place (place.module module) := by
  cases needed with
  | component declared => exact .component declared
  | pages declared => exact .pages declared
  | shown declared listed => exact .authored (.shown declared listed)

theorem templateModule_of_interface {kind : InterfaceKind} {unit : Declared SelectorInterface}
    (declared : unit ∈ registry.interfaces kind) :
    ∀ item ∈ interfaceImports unit.unit, TemplateModule registry item.1 := by
  intro item listed
  obtain ⟨spec, asked, listed⟩ := List.mem_flatMap.mp listed
  obtain ⟨name, _, rfl⟩ := List.mem_map.mp listed
  exact .shown (List.mem_filter.mp declared).1 asked

theorem templateModule_of_element {excluded : Option String} {element : String}
    {names : List ImportedName} (found : elementImports? registry excluded element = some names) :
    ∀ item ∈ names, TemplateModule registry item.1 := by
  unfold elementImports? at found
  simp only [Option.or_eq_some_iff, Option.map_eq_some_iff] at found
  rcases found with ⟨view, shown, rfl⟩ | ⟨_, ⟨view, shown, rfl⟩ | ⟨_, unit, shown, rfl⟩⟩
  · rintro item listed
    rw [List.mem_singleton.mp listed]
    exact .component (List.mem_of_find?_eq_some shown)
  · rintro item listed
    rw [List.mem_singleton.mp listed]
    exact .pages (List.mem_of_find?_eq_some shown)
  · exact templateModule_of_interface (List.mem_of_find?_eq_some shown)

theorem templateModule_of_elements {excluded : Option String} {elements : List String}
    {names : List ImportedName}
    (success : (elementsImports registry excluded elements).outcome = .ok names) :
    ∀ item ∈ names, TemplateModule registry item.1 := by
  induction elements generalizing names with
  | nil =>
    cases success
    exact nofun
  | cons element elements ih =>
    unfold elementsImports at success
    simp only at success
    split at success
    · rename_i found
      obtain ⟨here, first, success⟩ := Step.bind_eq_ok_iff.mp success
      obtain ⟨others, later, success⟩ := Step.bind_eq_ok_iff.mp success
      cases first
      cases success
      exact List.forall_mem_append.mpr ⟨templateModule_of_element found, ih later⟩
    · obtain ⟨_, _, success⟩ := Step.bind_eq_ok_iff.mp success
      obtain ⟨here, first, success⟩ := Step.bind_eq_ok_iff.mp success
      obtain ⟨others, later, success⟩ := Step.bind_eq_ok_iff.mp success
      cases first
      cases success
      exact ih later

/-- What a template needs comes from views and interfaces that are declared. -/
theorem templateModule_of_templateImports {template : String} {excluded : Option String}
    {needed : List TemplateImport}
    (success : (templateImports registry template excluded).outcome = .ok needed) :
    ∀ item ∈ needed, TemplateModule registry item.module := by
  unfold templateImports at success
  split at success
  · cases success
    exact nofun
  · obtain ⟨elements, found, success⟩ := Step.bind_eq_ok_iff.mp success
    cases success
    have every : ∀ item ∈ elements ++ directiveImports registry template ++
        pipeImports registry template, TemplateModule registry item.1 := by
      refine List.forall_mem_append.mpr ⟨List.forall_mem_append.mpr
        ⟨templateModule_of_elements found, ?_⟩, ?_⟩
      · intro item listed
        obtain ⟨unit, used, listed⟩ := List.mem_flatMap.mp listed
        exact templateModule_of_interface (List.mem_filter.mp used).1 item listed
      · intro item listed
        obtain ⟨unit, used, listed⟩ := List.mem_flatMap.mp listed
        exact templateModule_of_interface (List.mem_filter.mp used).1 item listed
    intro item listed
    obtain ⟨module, named, rfl⟩ := List.mem_map.mp listed
    obtain ⟨found, member, rfl⟩ := List.mem_map.mp (Text.mem_sortedSet.mp named)
    exact every found member

end Template

namespace View

/-- All modules from which a view imports are allowed. -/
def ImportsOnly (view : View) (allowed : String → Prop) : Prop :=
  ∀ module ∈ view.source.modules, allowed module

variable {view started : View} {allowed : String → Prop}

theorem ImportsOnly.of_source {other : View} (kept : view.ImportsOnly allowed)
    (same : other.source = view.source) : other.ImportsOnly allowed :=
  fun module listed => kept module (same ▸ listed)

theorem ImportsOnly.addImport (kept : view.ImportsOnly allowed) {module : String}
    (new : allowed module) (names : List String) :
    (view.addImport module names).ImportsOnly allowed := by
  intro other listed
  rcases Source.mem_modules_addImport.mp listed with old | rfl
  · exact kept other old
  · exact new

theorem ImportsOnly.foldl {α : Type} {next : View → α → View} {items : List α}
    (kept : view.ImportsOnly allowed)
    (step : ∀ item ∈ items, ∀ view : View, view.ImportsOnly allowed →
      (next view item).ImportsOnly allowed) : (items.foldl next view).ImportsOnly allowed := by
  induction items generalizing view with
  | nil => exact kept
  | cons item items ih =>
    apply ih (step item List.mem_cons_self view kept)
    exact fun other listed => step other (List.mem_cons_of_mem _ listed)

section Registry

variable {registry : Registry} {design : ViewDesign} {lead : String} {place : Place}

theorem importsOnly_addImportSpecs {specs : List ImportSpec}
    (asked : ∀ spec ∈ specs, spec ∈ design.imports)
    (kept : view.ImportsOnly (ViewImport registry design lead place))
    (success : (addImportSpecs lead specs view).outcome = .ok started) :
    started.ImportsOnly (ViewImport registry design lead place) := by
  induction specs generalizing view with
  | nil =>
    cases success
    exact kept
  | cons spec specs ih =>
    have here := asked spec List.mem_cons_self
    have later : ∀ other ∈ specs, other ∈ design.imports :=
      fun other listed => asked other (List.mem_cons_of_mem _ listed)
    unfold addImportSpecs at success
    split at success
    · rename_i ofObjects
      refine ih later (kept.foldl ?_) success
      have same := eq_of_beq ofObjects
      exact fun name named view kept => kept.addImport (.authored (.object here same named)) _
    · split at success
      · obtain ⟨_, _, success⟩ := Step.bind_eq_ok_iff.mp success
        exact ih later kept success
      · exact ih later (kept.addImport (.authored (.module here)) _) success

private theorem importsOnly_start {className : String}
    (success : (start design className lead).outcome = .ok started) :
    started.ImportsOnly (ViewImport registry design lead place) := by
  obtain ⟨view, specified, success⟩ := Step.bind_eq_ok_iff.mp success
  cases success
  have kept : view.ImportsOnly (ViewImport registry design lead place) :=
    importsOnly_addImportSpecs (fun spec listed => listed) (by simp [ImportsOnly, Source.modules])
      specified
  intro module listed
  exact kept module (by simpa using listed)

theorem ImportsOnly.importType (kept : view.ImportsOnly (ViewImport registry design lead place))
    (property : Design.Property) :
    (view.importType registry lead property).ImportsOnly
      (ViewImport registry design lead place) := by
  unfold View.importType
  split
  · rename_i found
    obtain ⟨entity, found⟩ := Option.isSome_iff_exists.mp found
    have named : entity.unit.name = property.type.name := Registry.name_of_findEntity? found
    rw [← named]
    exact kept.addImport (.object (List.mem_of_find?_eq_some found)) _
  · exact kept

theorem ImportsOnly.addDebug (kept : view.ImportsOnly (ViewImport registry design lead place))
    (space : String) :
    (view.addDebug space).ImportsOnly (ViewImport registry design lead place) := by
  unfold View.addDebug
  split
  · intro module listed
    simp only [Source.modules_addStatement] at listed
    rcases Source.mem_modules_addDefaultImport.mp listed with old | rfl
    · exact kept module old
    · exact .framework (by decide)
  · exact kept

private theorem importsOnly_addMetadata {selector stem suffix : String}
    (kept : view.ImportsOnly (ViewImport registry design lead place))
    (success : (view.addMetadata registry design place selector stem suffix).outcome = .ok started) :
    started.ImportsOnly (ViewImport registry design lead place) := by
  obtain ⟨needed, gathered, success⟩ := Step.bind_eq_ok_iff.mp success
  cases success
  refine ImportsOnly.addImport (kept.foldl fun item listed view kept => ?_) (.framework (by decide)) _
  exact kept.addImport (templateModule_of_templateImports gathered item listed).viewImport _

end Registry

end View

section Component

variable {registry : Registry} {component : Component} {view : View}

/-- The modules that a component may import. -/
abbrev ComponentImport (registry : Registry) (component : Component) : String → Prop :=
  ViewImport registry (.ofComponent component) (componentLead (ViewName.isAppComponent component.name))
    (componentPlace (ViewName.isAppComponent component.name))

theorem importsOnly_addProperty (kept : view.ImportsOnly (ComponentImport registry component))
    (property : Design.Property) :
    (addProperty registry component.name (ViewName.isAppComponent component.name) view
      property).ImportsOnly (ComponentImport registry component) := by
  have core : ComponentImport registry component coreModule := .framework (by decide)
  unfold addProperty
  split
  · rename_i child held
    have declared : ∃ other ∈ registry.components, other.unit = child := by
      unfold childOf? at held
      split at held
      · obtain ⟨other, found, same⟩ := Option.map_eq_some_iff.mp held
        exact ⟨other, List.mem_of_find?_eq_some found, same⟩
      · cases held
    obtain ⟨other, declared, rfl⟩ := declared
    have filled := kept.addImport core ["ContentChildren", "QueryList", "AfterContentInit"]
    unfold addChildren
    simp only
    split
    · exact filled
    · exact View.ImportsOnly.addImport filled (.component declared) _
  · have typed := kept.importType property
    unfold addField
    simp only
    split
    · exact typed.addImport core _
    · exact typed

/-- What a component imports. -/
theorem importsOnly_componentView (success : (componentView registry component).outcome = .ok view) :
    view.ImportsOnly (ComponentImport registry component) := by
  unfold componentView at success
  obtain ⟨started, first, success⟩ := Step.bind_eq_ok_iff.mp success
  obtain ⟨mixins, _, success⟩ := Step.bind_eq_ok_iff.mp success
  obtain ⟨properties, _, success⟩ := Step.bind_eq_ok_iff.mp success
  have start : started.ImportsOnly (ComponentImport registry component) :=
    View.importsOnly_start first
  have filled := start.foldl
    fun property (_ : property ∈ properties) view kept => importsOnly_addProperty kept property
  have synced (names : List String) (view : View) :
      (addContentHook view names).source = view.source := by
    unfold addContentHook
    split
    · rfl
    · rfl
  have hooked (methods : List Design.Method) (view : View)
      (kept : view.ImportsOnly (ComponentImport registry component)) :
      (addViewHook view methods).ImportsOnly (ComponentImport registry component) := by
    unfold addViewHook
    simp only
    split
    · exact kept
    · exact (kept.addImport (.framework (by decide)) _).of_source rfl
  refine View.importsOnly_addMetadata (View.ImportsOnly.addDebug (hooked _ _ ?_) _) success
  exact filled.of_source (synced _ _)

end Component

section Page

variable {registry : Registry} {page : Page} {view started : View}

/-- The modules that a page may import. -/
abbrev PageImport (registry : Registry) (page : Page) : String → Prop :=
  ViewImport registry (.ofPage page) pageLead pagePlace

theorem importsOnly_addPageProperties {properties : List Design.Property}
    (kept : view.ImportsOnly (PageImport registry page))
    (success : (addPageProperties registry page properties view).outcome = .ok started) :
    started.ImportsOnly (PageImport registry page) := by
  induction properties generalizing view with
  | nil =>
    cases success
    exact kept
  | cons property properties ih =>
    obtain ⟨extended, first, success⟩ := Step.bind_eq_ok_iff.mp success
    refine ih ?_ success
    unfold addPageProperty at first
    simp only at first
    split at first
    · cases first
      exact kept.importType property
    · split at first
      · obtain ⟨_, _, first⟩ := Step.bind_eq_ok_iff.mp first
        cases first
        exact kept.importType property
      · cases first
        exact kept.importType property

/-- The life of a page needs the framework only. -/
theorem framework_of_lifecycle {life : Lifecycle}
    (success : (lifecycle registry page).outcome = .ok life) :
    ∀ item ∈ life.imports, item.1 ∈ frameworkModules := by
  have routed (inner saves : List String) :
      ∀ item ∈ (routedLife inner saves).imports, item.1 ∈ frameworkModules := by
    simp [routedLife, frameworkModules]
  have plain (lines : List String) :
      ∀ item ∈ (plainLife lines).imports, item.1 ∈ frameworkModules := by
    unfold plainLife
    split
    · simp
    · simp [frameworkModules]
  have saving {saves : List String} {before life : Lifecycle}
      (kept : ∀ item ∈ before.imports, item.1 ∈ frameworkModules)
      (success : (if saves.isEmpty then pure before else pure { before with
        fields := injected "destroyRef" "DestroyRef" :: before.fields
        imports := (coreModule, ["DestroyRef", "inject"]) :: before.imports } :
          Step Lifecycle).outcome = .ok life) :
      ∀ item ∈ life.imports, item.1 ∈ frameworkModules := by
    split at success
    · cases success
      exact kept
    · cases success
      exact List.forall_mem_cons.mpr ⟨by decide, kept⟩
  unfold lifecycle at success
  obtain ⟨saves, _, success⟩ := Step.bind_eq_ok_iff.mp success
  cases unrouted : (routeParams page.path).isEmpty with
  | true =>
    simp only [unrouted, ↓reduceIte] at success
    obtain ⟨_, _, success⟩ := Step.bind_eq_ok_iff.mp success
    obtain ⟨before, made, success⟩ := Step.bind_eq_ok_iff.mp success
    cases made
    exact saving (plain _) success
  | false =>
    simp only [unrouted, Bool.false_eq_true, ↓reduceIte] at success
    obtain ⟨_, _, success⟩ := Step.bind_eq_ok_iff.mp success
    obtain ⟨_, _, success⟩ := Step.bind_eq_ok_iff.mp success
    obtain ⟨before, made, success⟩ := Step.bind_eq_ok_iff.mp success
    cases made
    exact saving (routed _ _) success

/-- What a page imports. -/
theorem importsOnly_pageView (success : (pageView registry page).outcome = .ok view) :
    view.ImportsOnly (PageImport registry page) := by
  unfold pageView at success
  obtain ⟨started, first, success⟩ := Step.bind_eq_ok_iff.mp success
  obtain ⟨filled, added, success⟩ := Step.bind_eq_ok_iff.mp success
  obtain ⟨life, lived, success⟩ := Step.bind_eq_ok_iff.mp success
  have kept := importsOnly_addPageProperties (View.importsOnly_start first) added
  have living : (life.addTo filled).ImportsOnly (PageImport registry page) := by
    have step : ∀ item ∈ life.imports, ∀ view : View,
        view.ImportsOnly (PageImport registry page) →
        (view.addImport item.1 item.2).ImportsOnly (PageImport registry page) :=
      fun item listed view kept =>
        kept.addImport (.framework (framework_of_lifecycle lived item listed)) item.2
    exact (kept.foldl step).of_source rfl
  have whole : ((life.addTo filled).addMethods page.methods).ImportsOnly (PageImport registry page) :=
    living.of_source rfl
  exact View.importsOnly_addMetadata (whole.addDebug _) success

end Page

end Blueprint.Client
