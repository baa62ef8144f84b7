import Blueprint.Proofs.OrderedMap
import Blueprint.Proofs.Registry

/-!
What projects declare, folded over a registry. The fold goes from the last library to the first and
ends with the main project, so a key has the main project's last value, else the last value of the
first library that declares it. Whether declarations are written one by one or gathered into a map
for each project first makes no difference. Projects that are neither libraries nor the main project
have no part in it.

Packages that are needed to run and packages for development are folded apart, so the main project
wins among those of one use. Where it declares a package for the other use only, a library still
brings in its own version.
-/

namespace Blueprint

open Design

/-- The keys and values that a project declares in a group of settings. -/
def SettingsGroup.entries (group : SettingsGroup) (project : Project) : List (String × Json) :=
  (group.of project).map fun setting => (setting.key, setting.value)

/-- The packages and versions that a project declares in a group, needed to run or for development. -/
def DependencyGroup.entries (group : DependencyGroup) (dev : Bool) (project : Project) :
    List (String × String) :=
  ((group.of project).filter (·.dev == dev)).map fun dependency =>
    (dependency.package, dependency.version)

namespace Registry

section Folds

variable {α : Type}

/-- A map binds the keys that the main project or a library declares, in the order in which they
come first along the fold. A key has the last value of the first project that declares it, where the
main project goes before the libraries. -/
structure Folds (registry : Registry) (declared : Project → List (String × α))
    (map : List (String × α)) : Prop where
  bound : ∀ key, key ∈ map.map Prod.fst ↔ ∃ project,
    (registry.mainProject? = some project ∨ project ∈ registry.libraryProjects) ∧
      key ∈ (declared project.unit).map Prod.fst
  value : ∀ key, map.lookup key =
    (registry.mainProject?.toList ++ registry.libraryProjects).findSome? fun project =>
      OrderedMap.last? key (declared project.unit)
  order : map.map Prod.fst =
    ((registry.libraryProjects.reverse ++ registry.mainProject?.toList).flatMap fun project =>
      (declared project.unit).map Prod.fst).eraseDups

/-- All that projects declare, in the order of the fold. -/
def declarations (registry : Registry) (declared : Project → List (String × α)) :
    List (String × α) :=
  (registry.foldProjects.map fun project => declared project.unit).flatten

private theorem mem_foldProjects {registry : Registry} {project : Declared Project} :
    project ∈ registry.foldProjects ↔
      registry.mainProject? = some project ∨ project ∈ registry.libraryProjects := by
  rw [foldProjects, List.mem_append, List.mem_reverse, Option.mem_toList, or_comm]

/-- The map of all declarations along the fold is the one that projects fold to. -/
theorem folds_declarations (registry : Registry) (declared : Project → List (String × α)) :
    registry.Folds declared (OrderedMap.ofList (registry.declarations declared)) where
  bound key := by
    rw [OrderedMap.keys_ofList, List.mem_eraseDups, declarations, List.map_flatten,
      List.mem_flatten]
    simp only [List.mem_map, exists_exists_and_eq_and, mem_foldProjects]
  value key := by
    have turned : registry.foldProjects.reverse =
        registry.mainProject?.toList ++ registry.libraryProjects := by
      cases main : registry.mainProject? <;> simp [foldProjects, main]
    rw [OrderedMap.lookup_ofList, declarations, OrderedMap.last?_flatten, ← List.map_reverse,
      turned, List.findSome?_map]
    rfl
  order := by
    rw [OrderedMap.keys_ofList, declarations, List.map_flatten, List.map_map, List.flatMap]
    rfl

theorem merge_declared (registry : Registry) (declared : Project → List (String × α)) :
    OrderedMap.merge (registry.foldProjects.map fun project =>
      OrderedMap.ofList (declared project.unit)) =
      OrderedMap.ofList (registry.declarations declared) := by
  rw [declarations, ← OrderedMap.merge_map_ofList, List.map_map]
  rfl

private theorem settings_eq (registry : Registry) (group : SettingsGroup) :
    registry.settings group = OrderedMap.ofList (registry.declarations group.entries) :=
  registry.merge_declared group.entries

private theorem dependencies_eq (registry : Registry) (group : DependencyGroup) :
    registry.dependencies group =
      (OrderedMap.ofList (registry.declarations (group.entries false)),
        OrderedMap.ofList (registry.declarations (group.entries true))) :=
  Prod.ext (registry.merge_declared (group.entries false))
    (registry.merge_declared (group.entries true))

/-- Parameters are written one by one, which comes to the same. -/
theorem parameterValues_eq (registry : Registry) :
    registry.parameterValues =
      OrderedMap.ofList (registry.declarations (SettingsGroup.entries .parameters)) := by
  have general (projects : List (Declared Project)) (values : List (String × Json)) :
      projects.foldl (fun values project => project.unit.parameters.foldl
        (fun values setting => OrderedMap.put setting.key setting.value values) values) values =
      OrderedMap.putAll values
        (projects.map fun project => SettingsGroup.entries .parameters project.unit).flatten := by
    induction projects generalizing values with
    | nil => rfl
    | cons project projects ih =>
      rw [List.foldl_cons, ih, List.map_cons, List.flatten_cons]
      unfold OrderedMap.putAll
      rw [List.foldl_append, SettingsGroup.entries, List.foldl_map]
      rfl
  exact general registry.foldProjects []

end Folds

section Further

variable {registry : Registry}

/-- A registry without the unit of a kind and a name. -/
def without (registry : Registry) (key : UnitKind × String) : Registry where
  units := registry.units.filter (·.key != key)
  distinct := registry.distinct.sublist (List.filter_sublist.map _)

theorem list_without {α : Type} {view : Design.Unit → Option α} {kind : UnitKind}
    {nameOf : α → String} (shows : ShowsKind view kind nameOf) (name : String) :
    (registry.without (kind, name)).list view =
      (registry.list view).filter fun declared => nameOf declared.unit != name := by
  unfold list without
  rw [List.filterMap_filter, List.filter_filterMap]
  refine List.filterMap_congr fun declared _ => ?_
  cases shown : view declared.unit with
  | none => simp
  | some item =>
    have key : declared.key = (kind, nameOf item) :=
      Prod.ext (shows.kind_eq shown) (shows.name_eq shown)
    by_cases same : nameOf item = name
    · simp [key, same, Declared.withUnit, Option.filter]
    · simp [key, same, Declared.withUnit, Option.filter]

private theorem find?_filter_of_kept {α : Type} {values : List α} {fits kept : α → Bool} {value : α}
    (found : values.find? fits = some value) (stays : kept value = true) :
    (values.filter kept).find? fits = some value := by
  obtain ⟨fit, before, after, place, earlier⟩ := List.find?_eq_some_iff_append.mp found
  refine List.find?_eq_some_iff_append.mpr
    ⟨fit, before.filter kept, after.filter kept, ?_, fun other listed => ?_⟩
  · rw [place, List.filter_append, List.filter_cons_of_pos stays]
  · exact earlier other (List.mem_filter.mp listed).1

/-- The fold does not pass projects that are neither libraries nor the main project. -/
theorem foldProjects_without {extra : Declared Project} (listed : extra ∈ registry.projects)
    (own : extra.isLibrary = false) (further : registry.mainProject? ≠ some extra) :
    (registry.without (.project, extra.unit.name)).foldProjects = registry.foldProjects := by
  have projects : (registry.without (.project, extra.unit.name)).projects =
      registry.projects.filter (·.unit.name != extra.unit.name) :=
    list_without project?_shows extra.unit.name
  have apart {project : Declared Project} (member : project ∈ registry.projects)
      (other : project ≠ extra) : project.unit.name ≠ extra.unit.name :=
    fun same => other (eq_of_mem_list project?_shows member listed same)
  have libraries : (registry.without (.project, extra.unit.name)).libraryProjects =
      registry.libraryProjects := by
    rw [libraryProjects, projects, List.filter_filter]
    refine List.filter_congr fun project member => ?_
    cases library : project.isLibrary with
    | false => rfl
    | true =>
      have other : project ≠ extra := fun same => by simp [same, own] at library
      simpa using apart member other
  have main : (registry.without (.project, extra.unit.name)).mainProject? =
      registry.mainProject? := by
    rw [mainProject?, projects]
    cases found : registry.mainProject? with
    | none => exact absurd own (by simpa using List.find?_eq_none.mp found extra listed)
    | some main =>
      have member : main ∈ registry.projects := List.mem_of_find?_eq_some found
      have other : main ≠ extra := fun same => further (found.trans (congrArg some same))
      exact find?_filter_of_kept found (by simpa using apart member other)
  rw [foldProjects, libraries, main]
  rfl

end Further

/-- Parameters, settings and dependencies are what projects fold to, and parameters are the settings
of their group. A further project that is no library changes none of them. -/
theorem projects_fold (registry : Registry) :
    registry.Folds (SettingsGroup.entries .parameters) registry.parameterValues ∧
    (∀ group : SettingsGroup, registry.Folds group.entries (registry.settings group)) ∧
    (∀ group : DependencyGroup,
      registry.Folds (group.entries false) (registry.dependencies group).1 ∧
      registry.Folds (group.entries true) (registry.dependencies group).2) ∧
    registry.parameterValues = registry.settings .parameters ∧
    ∀ extra ∈ registry.projects, extra.isLibrary = false → registry.mainProject? ≠ some extra →
      (registry.without (.project, extra.unit.name)).parameterValues = registry.parameterValues ∧
      (∀ group, (registry.without (.project, extra.unit.name)).settings group =
        registry.settings group) ∧
      ∀ group, (registry.without (.project, extra.unit.name)).dependencies group =
        registry.dependencies group := by
  refine ⟨?_, fun group => ?_, fun group => ?_, ?_, ?_⟩
  · rw [parameterValues_eq]
    exact folds_declarations registry _
  · rw [settings_eq]
    exact folds_declarations registry _
  · rw [dependencies_eq]
    exact ⟨folds_declarations registry _, folds_declarations registry _⟩
  · rw [parameterValues_eq, settings_eq]
  · intro extra listed own further
    have same := foldProjects_without listed own further
    unfold parameterValues settings dependencies
    rw [same]
    exact ⟨rfl, fun group => rfl, fun group => rfl⟩

/-- A project that comes after the main project. -/
def stall : Project := { offset := 0, name := "Stall", parameters := [⟨"icon", .str "stall.ico"⟩] }

/-- Two libraries, the main project and a further one. -/
def stallProjects : Registry where
  units :=
    declare none true 0
      [.project { offset := 0, name := "Forms", parameters :=
          [⟨"appearance", .str "outline"⟩, ⟨"icon", .str "form.ico"⟩] },
        .project { offset := 0, name := "Icons", parameters := [⟨"icon", .str "icon.ico"⟩] }] ++
    declare none false 2
      [.project { offset := 0, name := "Shop", parameters := [⟨"appearance", .str "fill"⟩] },
        .project stall]
  distinct := by decide

theorem projects_fold_stall :
    stallProjects.parameterValues.lookup "appearance" = some (.str "fill") ∧
    stallProjects.parameterValues.lookup "icon" = some (.str "form.ico") ∧
    stallProjects.parameterValues.map Prod.fst = ["icon", "appearance"] ∧
    (stallProjects.without (.project, "Stall")).parameterValues =
      stallProjects.parameterValues := by
  obtain ⟨folds, _, _, _, further⟩ := projects_fold stallProjects
  have last : (⟨stall, false, none, 3⟩ : Declared Project) ∈ stallProjects.projects := by
    simp [stallProjects, projects, list, declare, Unit.project?, Declared.withUnit, isLibraryUnit,
      stall]
  have main : stallProjects.mainProject? ≠ some ⟨stall, false, none, 3⟩ :=
    fun same => absurd (congrArg (Option.map Declared.order) same) (by decide)
  exact ⟨folds.value "appearance", folds.value "icon", folds.order, (further _ last rfl main).1⟩

end Registry

/-- A project declares a version of a package, needed to run or for development. -/
def DependencyGroup.Declares (group : DependencyGroup) (project : Project)
    (package version : String) : Prop :=
  ∃ dependency ∈ group.of project, dependency.package = package ∧ dependency.version = version

namespace Registry

/-- The packages of a group that are needed to run, or those for development, with their versions. -/
def packages (registry : Registry) (group : DependencyGroup) (dev : Bool) : List (String × String) :=
  if dev then (registry.dependencies group).2 else (registry.dependencies group).1

/-- The version of a package that libraries bring in: the last one of the first library that declares
the package for this use. -/
def libraryVersion? (registry : Registry) (group : DependencyGroup) (dev : Bool) (package : String) :
    Option String :=
  registry.libraryProjects.findSome? fun library =>
    OrderedMap.last? package (group.entries dev library.unit)

section Versions

variable {registry : Registry} {main : Declared Project} {group : DependencyGroup} {dev : Bool}
  {package version : String}

private theorem folds_packages (registry : Registry) (group : DependencyGroup) (dev : Bool) :
    registry.Folds (group.entries dev) (registry.packages group dev) := by
  rw [packages, dependencies_eq]
  cases dev <;> exact folds_declarations registry _

theorem declares_of_last? (last : OrderedMap.last? package (group.entries dev main.unit) = some version) :
    group.Declares main.unit package version := by
  have listed := List.mem_reverse.mp (OrderedMap.mem_of_lookup last)
  obtain ⟨dependency, kept, same⟩ := List.mem_map.mp listed
  cases same
  exact ⟨dependency, (List.mem_filter.mp kept).1, rfl, rfl⟩

private theorem lookup_packages (isMain : registry.mainProject? = some main) :
    (registry.packages group dev).lookup package =
      (OrderedMap.last? package (group.entries dev main.unit)).or
        (registry.libraryVersion? group dev package) := by
  rw [(folds_packages registry group dev).value, isMain, Option.toList_some, List.singleton_append,
    List.findSome?_cons]
  cases OrderedMap.last? package (group.entries dev main.unit) <;> rfl

end Versions

/-- Among the packages for one use the main project has the last word, and a package that it does not
declare for this use has the version of the libraries. So a package has no version but those that the
main project declares exactly if the main project declares every version that libraries bring in for a
use for which it does not declare the package. -/
theorem main_version_wins_iff {registry : Registry} {main : Declared Project}
    (isMain : registry.mainProject? = some main) (group : DependencyGroup) (package : String) :
    (∀ dev, package ∈ (group.entries dev main.unit).map Prod.fst →
      ∃ version, OrderedMap.get? package (registry.packages group dev) = some version ∧
        OrderedMap.last? package (group.entries dev main.unit) = some version ∧
        group.Declares main.unit package version) ∧
    (∀ dev, package ∉ (group.entries dev main.unit).map Prod.fst →
      OrderedMap.get? package (registry.packages group dev) =
        registry.libraryVersion? group dev package) ∧
    ((∀ dev version, OrderedMap.get? package (registry.packages group dev) = some version →
        group.Declares main.unit package version) ↔
      ∀ dev version, package ∉ (group.entries dev main.unit).map Prod.fst →
        registry.libraryVersion? group dev package = some version →
          group.Declares main.unit package version) := by
  have value (dev : Bool) : (registry.packages group dev).lookup package =
      (OrderedMap.last? package (group.entries dev main.unit)).or
        (registry.libraryVersion? group dev package) := lookup_packages isMain
  have missing (dev : Bool) (absent : package ∉ (group.entries dev main.unit).map Prod.fst) :
      OrderedMap.get? package (registry.packages group dev) =
        registry.libraryVersion? group dev package := by
    rw [OrderedMap.get?, value, OrderedMap.last?_eq_none_iff.mpr absent, Option.none_or]
  have present (dev : Bool) (declared : package ∈ (group.entries dev main.unit).map Prod.fst) :
      ∃ version, OrderedMap.get? package (registry.packages group dev) = some version ∧
        OrderedMap.last? package (group.entries dev main.unit) = some version := by
    cases last : OrderedMap.last? package (group.entries dev main.unit) with
    | none => exact absurd declared (OrderedMap.last?_eq_none_iff.mp last)
    | some version => exact ⟨version, by rw [OrderedMap.get?, value, last, Option.some_or], rfl⟩
  refine ⟨fun dev declared => ?_, missing, ?_⟩
  · obtain ⟨version, bound, last⟩ := present dev declared
    exact ⟨version, bound, last, declares_of_last? last⟩
  · constructor
    · intro wins dev version absent brought
      exact wins dev version ((missing dev absent).trans brought)
    · intro covered dev version bound
      by_cases declared : package ∈ (group.entries dev main.unit).map Prod.fst
      · obtain ⟨own, boundOwn, last⟩ := present dev declared
        cases boundOwn.symm.trans bound
        exact declares_of_last? last
      · exact covered dev version declared ((missing dev declared).symm.trans bound)

/-- A project and a library that depend on the same package. -/
def sharedPackage (ofLibrary ofMain : Dependency) : Registry where
  units :=
    declare none true 0
      [.project { offset := 0, name := "Kit", serverDependencies := [ofLibrary] }] ++
    declare none false 1 [.project { offset := 0, name := "Shop", serverDependencies := [ofMain] }]
  distinct := by simp [declare, Declared.key, Unit.name, Unit.kind]

/-- Both need the package to run. -/
theorem main_version_wins_iff_run : ∃ main,
    (sharedPackage ⟨"d", "^1.0", false⟩ ⟨"d", "^2.0", false⟩).mainProject? = some main ∧
    OrderedMap.get? "d" ((sharedPackage ⟨"d", "^1.0", false⟩ ⟨"d", "^2.0", false⟩).packages .server
      false) = some "^2.0" ∧
    ∀ dev version, OrderedMap.get? "d" ((sharedPackage ⟨"d", "^1.0", false⟩
        ⟨"d", "^2.0", false⟩).packages .server dev) = some version →
      DependencyGroup.server.Declares main.unit "d" version := by
  refine ⟨_, rfl, rfl, ?_⟩
  refine (main_version_wins_iff rfl .server "d").2.2.mpr ?_
  intro dev version absent brought
  cases dev with
  | false => exact absurd List.mem_cons_self absent
  | true => cases brought

/-- The library needs the package for development, so its version stays. -/
theorem library_version_kept : ∃ main,
    (sharedPackage ⟨"d", "^1.0", true⟩ ⟨"d", "^2.0", false⟩).mainProject? = some main ∧
    DependencyGroup.server.Declares main.unit "d" "^2.0" ∧
    OrderedMap.get? "d" ((sharedPackage ⟨"d", "^1.0", true⟩ ⟨"d", "^2.0", false⟩).dependencies
      .server).2 = some "^1.0" ∧
    ¬ DependencyGroup.server.Declares main.unit "d" "^1.0" := by
  refine ⟨_, rfl, ⟨_, List.mem_singleton_self _, rfl, rfl⟩, rfl, ?_⟩
  rintro ⟨dependency, listed, _, same⟩
  rw [List.mem_singleton.mp listed] at same
  exact absurd same (by decide)

end Registry

end Blueprint
