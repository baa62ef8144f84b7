import Mathlib.Tactic.Tauto
import Blueprint.Proofs.Generation.ServerClosure

namespace Blueprint.Generation

open Design Client ClientCode
open Text (Spelled)

variable {registry : Registry} {targets : List String} {outcome : RunResult} {path : String}

section Files

theorem resolves_client {module file : String} (relative : module.toList.head? = some '.')
    (listed : file ∈ clientFiles path module) (there : outcome.Holds file ∨ Gap registry file) :
    Resolves registry outcome path module := by
  refine ⟨file, ?_, there⟩
  rw [importFiles, relative, if_pos (by decide)]
  exact listed

theorem resolves_beside {directory file rest : String} (single : '/' ∉ file.toList)
    (undotted : rest.toList.head? ≠ some '.')
    (there : outcome.Holds (directory ++ "/" ++ rest ++ ".ts") ∨
      Gap registry (directory ++ "/" ++ rest ++ ".ts")) :
    Resolves registry outcome (directory ++ "/" ++ file) ("./" ++ rest) := by
  have relative : ("./" ++ rest).toList.head? = some '.' := by simp
  exact resolves_client relative ((leads_beside directory).mem_clientFiles single undotted) there

theorem resolves_fixed {directory file module place : String} (single : '/' ∉ file.toList)
    (rest : String) (named : "./" ++ rest = module) (lies : directory ++ "/" ++ rest ++ ".ts" = place)
    (undotted : rest.toList.head? ≠ some '.') (held : outcome.Holds place) :
    Resolves registry outcome (directory ++ "/" ++ file) module := by
  rw [← lies] at held
  rw [← named]
  exact resolves_beside single undotted (Or.inl held)

private theorem componentBase_append {name : String} (other : ViewName.isAppComponent name = false) :
    Client.componentBase name ++ ".ts" = componentFile name := by
  rw [Client.componentBase, other, if_neg Bool.false_ne_true]
  delta componentFile componentPart
  simp only [← String.toList_inj, String.toList_append, List.append_assoc]

variable (completes : Completes registry targets outcome)

include completes

theorem holds_or_gap_object {entity : Declared Entity} (declared : entity ∈ registry.entities) :
    outcome.Holds (Client.businessObjectPath entity.unit.name) ∨
      Gap registry (Client.businessObjectPath entity.unit.name) := by
  cases origin : entity.isLibrary with
  | true => exact Or.inr (.object declared origin)
  | false => exact Or.inl (completes.holds_clientObject declared origin)

theorem holds_or_gap_form {entity : Declared Entity} (declared : entity ∈ registry.entities) :
    outcome.Holds (formGroupPath entity.unit.name) ∨
      Gap registry (formGroupPath entity.unit.name) := by
  cases origin : entity.isLibrary with
  | true => exact Or.inr (.form declared origin)
  | false => exact Or.inl (completes.holds_formGroup declared origin)

private theorem holds_or_gap_component {component : Declared Component}
    (declared : component ∈ registry.components) :
    outcome.Holds (componentFile component.unit.name) ∨
      Gap registry (componentFile component.unit.name) := by
  cases isRoot : ViewName.isAppComponent component.unit.name with
  | true => exact Or.inr (.root declared isRoot)
  | false =>
    rw [← componentBase_append isRoot]
    exact Or.inl (completes.holds_component declared)

end Files

section Entities

variable {entity : Declared Entity} {properties : List Design.Property} {relationships : List Relationship}

private theorem exists_target {owner : Entity}
    (resolved : Server.Resolved registry owner properties relationships)
    {relationship : Relationship} (listed : relationship ∈ relationships) :
    ∃ target ∈ registry.entities, target.unit.name = relationship.target := by
  rw [Relationship.resolve_eq_ok resolved.linked] at listed
  obtain ⟨target, found⟩ := Relationship.findEntity?_target listed
  exact ⟨target, List.mem_of_find?_eq_some found, Registry.name_of_findEntity? found⟩

private theorem mem_modules_businessObjectSource {name : String} {identity : Identity}
    {members : List DataMember} {stubs : List Stub} {module : String}
    (named : module ∈ (businessObjectSource name identity members relationships stubs).modules) :
    module = "./base" ∨ ∃ relationship ∈ relationships, module = "./" ++ kebabCase relationship.target := by
  rw [Source.modules, imports_businessObjectSource, ← Source.modules, Source.mem_modules_foldl
    (fun relationship : Relationship => "./" ++ kebabCase relationship.target),
    Source.mem_modules_addImport] at named
  rcases named with (none | rfl) | listed
  · cases none
  · exact Or.inl rfl
  · obtain ⟨relationship, kept, rfl⟩ := List.mem_map.mp listed
    exact Or.inr ⟨relationship, (List.mem_filter.mp kept).1, rfl⟩

theorem mem_modules_formSource {name : String} {identity : Identity} {controls : List Control}
    {module : String} (named : module ∈ (formSource name identity controls relationships).modules) :
    module ∈ ["@angular/forms", formBaseModule] ∨ module = "./" ++ kebabCase name ∨
      ∃ relationship ∈ relationships, module = "./" ++ formModule relationship.target := by
  delta formSource at named
  rw [Source.modules] at named
  simp only at named
  rw [← Source.modules, Source.mem_modules_foldl
    (fun relationship : Relationship => "./" ++ formModule relationship.target),
    Source.mem_modules_addImport, Source.mem_modules_addImport,
    Source.mem_modules_addImport] at named
  rcases named with (((none | rfl) | rfl) | rfl) | listed
  · cases none
  · exact Or.inl List.mem_cons_self
  · exact Or.inl (List.mem_cons_of_mem _ List.mem_cons_self)
  · exact Or.inr (Or.inl rfl)
  · obtain ⟨relationship, kept, rfl⟩ := List.mem_map.mp listed
    exact Or.inr (Or.inr ⟨relationship, List.mem_mergeSort.mp (List.mem_filter.mp kept).1, rfl⟩)

variable (completes : Completes registry targets outcome)
  (main : registry.mainProject?.isSome = true) (wellNamed : WellNamed registry)

include completes main wellNamed

omit wellNamed in
private theorem resolves_objectBase {file : String} (single : '/' ∉ file.toList) :
    Resolves registry outcome (businessObjectsDirectory ++ "/" ++ file) "./base" :=
  resolves_fixed single "base" (by decide) (by decide) (by decide)
    (completes.holds_objectBase main)

theorem closed_clientObject {identity : Identity} {members : List DataMember} {stubs : List Stub}
    (declared : entity ∈ registry.entities)
    (resolved : Server.Resolved registry entity.unit properties relationships) :
    Closed registry outcome (Client.businessObjectPath entity.unit.name)
      (.source (businessObjectSource entity.unit.name identity members relationships stubs))
      fun _ => False := by
  intro module named _
  right
  have single : '/' ∉ (kebabCase entity.unit.name ++ ".ts").toList := by
    simpa using slash_not_mem_kebabCase (wellNamed.of_listed declared fun _ => name_of_entity?).2
  rw [Client.businessObjectPath, String.append_assoc]
  rcases mem_modules_businessObjectSource named with rfl | ⟨relationship, listed, rfl⟩
  · exact resolves_objectBase completes main single
  · obtain ⟨target, there, same⟩ := exists_target resolved listed
    rw [← same]
    exact resolves_beside single (head?_kebabCase _) (holds_or_gap_object completes there)

theorem closed_formGroup {identity : Identity} {controls : List Control}
    (declared : entity ∈ registry.entities)
    (resolved : Server.Resolved registry entity.unit properties relationships) :
    Closed registry outcome (formGroupPath entity.unit.name)
      (.source (formSource entity.unit.name identity controls relationships)) fun _ => False := by
  intro module named generated
  right
  have single : '/' ∉ (formModule entity.unit.name ++ ".ts").toList := by
    simpa [formModule] using
      slash_not_mem_kebabCase (wellNamed.of_listed declared fun _ => name_of_entity?).2
  rw [formGroupPath, String.append_assoc]
  rcases mem_modules_formSource named with fixed | rfl | ⟨relationship, listed, rfl⟩
  · simp only [List.mem_cons, List.not_mem_nil, or_false] at fixed
    rcases fixed with rfl | rfl
    · exact absurd generated (by decide)
    · exact resolves_fixed single "persisted-form-group" (by decide) (by decide)
        (by decide) (completes.holds_formBase main)
  · exact resolves_beside single (head?_kebabCase _) (holds_or_gap_object completes declared)
  · obtain ⟨target, there, same⟩ := exists_target resolved listed
    rw [← same]
    exact resolves_beside single (head?_kebabCase_append _ (by decide))
      (holds_or_gap_form completes there)

end Entities

section Lines

/-- The letters between the quotes that end a line, but for one sign after them. -/
def lastQuoted (letters : List Char) : List Char :=
  ((letters.reverse.drop 2).takeWhile (· != '\'')).reverse

private theorem letters_of_specifier? {letters : List Char} {module : String}
    (read : specifier? (String.ofList letters) = some module) :
    ((Text.after? "import ".toList letters).or (Text.after? "export ".toList letters)).isSome = true ∧
      module = String.ofList (lastQuoted letters) := by
  have same : (String.ofList letters).toList = letters := String.toList_ofList
  rw [specifier?, same] at read
  split at read
  · rename_i found ended
    rw [found, lastQuoted, ended]
    exact ⟨rfl, (Option.some.inj read).symm⟩
  · cases read

/-- A line that gives on what a module has. -/
theorem specifier?_export (names : String) {module : String} (unquoted : '\'' ∉ module.toList) :
    specifier? ("export " ++ names ++ "'" ++ module ++ "';") = some module := by
  have line : ("export " ++ names ++ "'" ++ module ++ "';").toList =
      "export ".toList ++ (names.toList ++ '\'' :: (module.toList ++ ['\'', ';'])) := by
    simp
  have whole : ∀ c ∈ module.toList.reverse, (c != '\'') = true := by
    intro c listed
    rw [bne_iff_ne]
    exact fun same => unquoted (same ▸ List.mem_reverse.mp listed)
  have other : Text.after? "import ".toList ("export " ++ names ++ "'" ++ module ++ "';").toList = none := by
    rw [line]
    rfl
  have ended : ("export " ++ names ++ "'" ++ module ++ "';").toList.reverse = ';' :: '\'' ::
      (module.toList.reverse ++ '\'' :: ("export ".toList ++ names.toList).reverse) := by
    simp
  rw [specifier?, other, ended, line, Text.after?_append, Option.none_or]
  simp only
  rw [List.takeWhile_append_of_pos whole, List.takeWhile_cons_of_neg (by simp), List.append_nil,
    List.reverse_reverse, String.ofList_toList]

theorem spelled_runtime : ∃ words, Spelled words (Runtime.businessObjectBase ++ Runtime.formBase) ∧
    (words.all fun letters =>
      !((Text.after? "import ".toList letters).or (Text.after? "export ".toList letters)).isSome ||
        !isLead (lastQuoted letters) || lastQuoted letters == ['.', '/', 'b', 'a', 's', 'e']) = true := by
  apply Exists.intro
  apply And.intro
  · dsimp only [Runtime.businessObjectBase, Runtime.formBase, List.cons_append, List.nil_append]
    repeat' constructor
  · decide +kernel

theorem closed_clientRuntime (completes : Completes registry targets outcome)
    (main : registry.mainProject?.isSome = true) {file : String} (single : '/' ∉ file.toList)
    {lines : List String} (known : lines ⊆ Runtime.businessObjectBase ++ Runtime.formBase) :
    Closed registry outcome (businessObjectsDirectory ++ "/" ++ file) (.clientLines lines)
      fun _ => False := by
  intro module named generated
  right
  obtain ⟨line, written, read⟩ := List.mem_filterMap.mp named
  obtain ⟨words, spelled, fixed⟩ := spelled_runtime
  obtain ⟨letters, inside, rfl⟩ := spelled.exists_letters (known written)
  obtain ⟨starts, rfl⟩ := letters_of_specifier? read
  have only := List.all_eq_true.mp fixed letters inside
  rw [starts, isLead_of_isGenerated generated, Bool.not_true, Bool.false_or, Bool.false_or,
    beq_iff_eq] at only
  rw [only]
  exact resolves_objectBase completes main single

end Lines

section Views

variable (completes : Completes registry targets outcome) (wellNamed : WellNamed registry)

theorem module_pagesModule (place : Place) : place.module Markup.pagesModule = place.pages := by
  have other : Text.after? componentsAlias.toList Markup.pagesModule.toList = none := by
    decide
  rw [Place.module, other]
  exact if_pos (beq_self_eq_true _)

include completes

/-- A view reaches what it imports. -/
theorem closed_view {view : View} {design : ViewDesign} {lead : String} {place : Place}
    (reaches : Reaches path lead place)
    (relative : ∀ way ∈ [lead, place.components, place.pages], way.toList.head? = some '.')
    (only : view.ImportsOnly (ViewImport registry design lead place)) :
    Closed registry outcome path (.source (viewSource view))
      (ViewAuthor registry design lead place) := by
  have front {way : String} (listed : way ∈ [lead, place.components, place.pages]) (rest : String) :
      (way ++ rest).toList.head? = some '.' := by
    rw [String.toList_append, List.head?_append, relative way listed]
    rfl
  intro module named generated
  cases only module named with
  | framework listed => exact absurd generated (not_generated (.cons (.cons (.cons (.cons .nil)))) rfl listed)
  | authored asked => exact Or.inl asked
  | object declared =>
    right
    exact resolves_client (front (by simp) _) (reaches.objects _)
      (holds_or_gap_object completes declared)
  | @component component declared =>
    right
    have dotted : (place.module (Markup.componentModule component.unit.name)).toList.head? =
        some '.' := by
      rw [module_componentModule]
      exact front (by simp) _
    exact resolves_client dotted (reaches.components _) (holds_or_gap_component completes declared)
  | pages declared =>
    right
    rw [module_pagesModule]
    exact resolves_client (relative _ (by simp)) reaches.pages
      (Or.inl (completes.holds_pagesIndex declared))

include wellNamed

theorem closed_component {component : Declared Component} {view : View}
    (declared : component ∈ registry.components)
    (built : (componentView registry component.unit).outcome = .ok view) :
    Closed registry outcome (Client.componentBase component.unit.name ++ ".ts")
      (.source (viewSource view))
      (ViewAuthor registry (.ofComponent component.unit)
        (componentLead (ViewName.isAppComponent component.unit.name))
        (componentPlace (ViewName.isAppComponent component.unit.name))) := by
  have only := importsOnly_componentView built
  have worded := (wellNamed.of_listed declared fun _ => name_of_component?).2
  cases isRoot : ViewName.isAppComponent component.unit.name with
  | true =>
    rw [ComponentImport, isRoot] at only
    exact closed_view completes (reaches_root isRoot) (by decide) only
  | false =>
    rw [ComponentImport, isRoot] at only
    exact closed_view completes (reaches_component (slash_not_mem_componentStem worded) isRoot)
      (by decide) only

theorem closed_page {page : Declared Page} {view : View} (declared : page ∈ registry.pages)
    (built : (pageView registry page.unit).outcome = .ok view) :
    Closed registry outcome (Client.pageBase page.unit.name ++ ".ts") (.source (viewSource view))
      (ViewAuthor registry (.ofPage page.unit) pageLead pagePlace) := by
  have worded := (wellNamed.of_listed declared fun _ => name_of_page?).2
  exact closed_view completes (reaches_page (slash_not_mem_pageStem worded)) (by decide)
    (importsOnly_pageView built)

end Views

section Application

/-- The part of a page's module behind the directory of all pages. -/
def pagePart (name : String) : String :=
  ViewName.pageStem name ++ "/" ++ ViewName.pageStem name ++ ".page"

private theorem head?_pagePart (name : String) : (pagePart name).toList.head? ≠ some '.' := by
  rw [pagePart, String.append_assoc, String.append_assoc]
  apply head?_kebabCase_append
  simp

private theorem pageBase_append (name : String) :
    Client.pageBase name ++ ".ts" = "client/src/app/pages/" ++ pagePart name ++ ".ts" := by
  delta Client.pageBase pagePart
  simp only [← String.toList_inj, String.toList_append, List.append_assoc]

theorem specifier?_pageExport {page : Page} (worded : page.name.toList.all Text.isWord = true) :
    specifier? (pageExport page) = some ("./" ++ pagePart page.name) := by
  have parts : pageExport page = "export " ++ ("\x7b " ++ ViewName.pageClass page.name ++ " \x7d from ") ++
      "'" ++ ("./" ++ pagePart page.name) ++ "';" := by
    delta pageExport pagePart
    simp [← String.toList_inj]
  rw [parts]
  apply specifier?_export
  simpa [pagePart] using quote_not_mem_pageStem worded

private theorem module_lazyRoute (page : Page) :
    (LazyRoute.of page).module = "./" ++ ("pages/" ++ pagePart page.name) := by
  delta LazyRoute.of pagePart
  simp [← String.toList_inj]

/-- The modules of the configuration. -/
theorem mem_modules_configSource {module : String}
    (named : module ∈ (configSource registry).modules) :
    module ∈ [coreModule, "@angular/router", "@angular/common/http", "@angular/material/form-field"] ∨
      module = "./business-objects/base" ∨ module = "./app.routes" := by
  delta configSource at named
  simp only [Source.modules_addStatement] at named
  rw [Source.mem_modules_foldl (fun item : String × List String => item.1)] at named
  rcases named with none | listed
  · cases none
  · split at listed
    · simp only [List.append_nil, List.map_cons, List.map_nil, List.mem_cons, List.not_mem_nil,
        or_false] at listed ⊢
      tauto
    · simp only [List.cons_append, List.nil_append, List.map_cons, List.map_nil, List.mem_cons,
        List.not_mem_nil, or_false] at listed ⊢
      tauto

variable (completes : Completes registry targets outcome)

include completes

theorem resolves_page {page : Declared Page} (declared : page ∈ registry.pages)
    {directory file folder : String} (single : '/' ∉ file.toList)
    (lies : directory ++ "/" ++ folder = "client/src/app/pages/")
    (undotted : (folder ++ pagePart page.unit.name).toList.head? ≠ some '.') :
    Resolves registry outcome (directory ++ "/" ++ file)
      ("./" ++ (folder ++ pagePart page.unit.name)) := by
  have held := completes.holds_page declared
  rw [pageBase_append, ← lies] at held
  refine resolves_beside single undotted (Or.inl ?_)
  rwa [← String.append_assoc]

theorem closed_pagesIndex (wellNamed : WellNamed registry) :
    Closed registry outcome "client/src/app/pages/index.ts" (.clientLines (indexLines registry))
      fun _ => False := by
  intro module named _
  right
  obtain ⟨line, listed, read⟩ := List.mem_filterMap.mp named
  -- Lines that give on nothing stand for an empty index and at the end of every index.
  have silent {line : String} (none : specifier? line = none)
      (read : specifier? line = some module) : False := by
    cases none.symm.trans read
  rcases List.mem_append.mp listed with listed | ending
  · split at listed
    · rw [List.mem_singleton.mp listed] at read
      exact (silent (by decide) read).elim
    · obtain ⟨_, sorted, rfl⟩ := List.mem_map.mp listed
      obtain ⟨page, declared, rfl⟩ := List.mem_map.mp (List.mem_mergeSort.mp sorted)
      have worded := (wellNamed.of_listed declared fun _ => name_of_page?).2
      rw [specifier?_pageExport worded] at read
      have place : "client/src/app/pages/index.ts" = "client/src/app/pages" ++ "/" ++ "index.ts" := by
        decide
      have here : "" ++ pagePart page.unit.name = pagePart page.unit.name := String.empty_append
      rw [← Option.some.inj read, place, ← here]
      refine resolves_page completes declared (by decide) (by decide) ?_
      rw [here]
      exact head?_pagePart _
  · rw [List.mem_singleton.mp ending] at read
    exact (silent (by decide) read).elim

theorem closed_appRoutes (redirects : List String) :
    Closed registry outcome "client/src/app/app.routes.ts"
      (.routes redirects ((routedPages registry).map LazyRoute.of)) fun _ => False := by
  intro module named generated
  right
  rcases List.mem_cons.mp named with rfl | loaded
  · exact absurd generated (by decide)
  · rw [List.map_map, List.mem_map] at loaded
    obtain ⟨_, routed, rfl⟩ := loaded
    obtain ⟨kept, _⟩ := List.mem_filter.mp (List.mem_mergeSort.mp routed)
    obtain ⟨page, declared, rfl⟩ := List.mem_map.mp kept
    have place : "client/src/app/app.routes.ts" = "client/src/app" ++ "/" ++ "app.routes.ts" := by
      decide
    rw [Function.comp_apply, module_lazyRoute, place]
    exact resolves_page completes declared (by decide) (by decide) (by simp)

theorem closed_config (main : registry.mainProject?.isSome = true) :
    Closed registry outcome "client/src/app/app.config.ts" (.source (configSource registry))
      fun _ => False := by
  intro module named generated
  right
  have place : "client/src/app/app.config.ts" = "client/src/app" ++ "/" ++ "app.config.ts" := by
    decide
  have single : '/' ∉ "app.config.ts".toList := by decide
  have listed : module ∈ (configSource registry).modules := named
  rw [place]
  rcases mem_modules_configSource listed with framework | same | same
  · exact absurd generated (not_generated (.cons (.cons (.cons (.cons .nil)))) rfl framework)
  · rw [same]
    exact resolves_fixed single "business-objects/base" (by decide) (by decide)
      (by decide) (completes.holds_objectBase main)
  · rw [same]
    exact resolves_fixed single "app.routes" (by decide) (by decide)
      (by decide) (completes.holds_appRoutes main)

end Application

end Blueprint.Generation
