import Mathlib.Data.List.Nodup
import Blueprint.Proofs.Design.Names
import Blueprint.Proofs.Generation.ModulePaths
import Blueprint.Proofs.Text

namespace Blueprint.Generation

open Design Client

/-- Where a generator writes for a unit. -/
inductive FilePlace where
  /-- A module in a directory of the server, by its stem. -/
  | serverModule (directory stem : String)
  /-- A file beside the business objects of the client. -/
  | clientObject (stem : String)
  | rootComponent
  | component (stem : String)
  | page (stem : String)
  /-- The files that only one generator writes. -/
  | fixed (generator : String)
  deriving DecidableEq, Repr

/-- The files that only one generator writes, by directory and name. -/
def fixedFiles : List ((String × String) × String) :=
  [(("server", "pyproject.toml"), "server-package"),
    (("server/app", "main.py"), "server"),
    (("server/app/routes", "__init__.py"), "routes-index"),
    (("server/app", "__init__.py"), "server-scaffold"),
    (("server/app/core", "__init__.py"), "server-scaffold"),
    (("server/app/schemas", "__init__.py"), "server-scaffold"),
    (("server/app/business_objects", "__init__.py"), "server-scaffold"),
    (("server/app/data_sources", "__init__.py"), "server-scaffold"),
    (("server/app/app_behaviors", "__init__.py"), "server-scaffold"),
    (("server/app/core", "config.py"), "server-scaffold"),
    (("server/app/core", "errors.py"), "server-scaffold"),
    (("server/app/core", "logging.py"), "server-scaffold"),
    (("server/app/core", "persistence.py"), "server-scaffold"),
    (("client", "package.json"), "client-package"),
    (("client/src", "styles.scss"), "client-styles"),
    (("client/src/app", "app.config.ts"), "client-app-config"),
    (("client/src/app", "app.routes.ts"), "client-routes"),
    (("client/src/app/pages", "index.ts"), "pages-index")]

/-- The directories of the server with a module for every unit of a kind. -/
def moduleDirectories : List String :=
  ["server/app/schemas", "server/app/business_objects", "server/app/routes",
    "server/app/data_sources", "server/app/app_behaviors"]

namespace FilePlace

/-- The place of a generator for a unit, by their names. -/
def of (generator unit : String) : FilePlace :=
  match generator with
  | "business-object-schema" => .serverModule "server/app/schemas/" (snakeCase unit)
  | "business-object" => .serverModule "server/app/business_objects/" (snakeCase unit)
  | "business-object-route" => .serverModule "server/app/routes/" (snakeCase (pluralize unit))
  | "data-source" => .serverModule "server/app/data_sources/" (snakeCase unit)
  | "app-behavior" => .serverModule "server/app/app_behaviors/" (snakeCase unit)
  | "business-object-base" => .clientObject "base"
  | "business-object-client" => .clientObject (kebabCase unit)
  | "persisted-form-group" => .clientObject "persisted-form-group"
  | "business-object-form-group" => .clientObject (kebabCase unit ++ "-form-group")
  | "component" =>
    if ViewName.isAppComponent unit then .rootComponent
    else .component (ViewName.componentStem unit)
  | "page" => .page (ViewName.pageStem unit)
  | other => .fixed other

/-- The paths of a place. -/
def paths : FilePlace → List String
  | serverModule directory stem => [directory ++ stem ++ ".py"]
  | clientObject stem => [businessObjectsDirectory ++ "/" ++ stem ++ ".ts"]
  | rootComponent => View.paths "client/src/app/app.component"
  | component stem =>
    View.paths ("client/src/app/components/" ++ stem ++ "/" ++ stem ++ ".component")
  | page stem => View.paths ("client/src/app/pages/" ++ stem ++ "/" ++ stem ++ ".page")
  | fixed generator =>
    (fixedFiles.filter (·.2 == generator)).map fun entry => entry.1.1 ++ "/" ++ entry.1.2

/-- The stems of a place are those of file names. -/
def Plain : FilePlace → Prop
  | serverModule directory stem => (∃ listed ∈ moduleDirectories, listed ++ "/" = directory) ∧
      '/' ∉ stem.toList ∧ '.' ∉ stem.toList ∧ stem.toList.head? ≠ some '_'
  | clientObject stem => '/' ∉ stem.toList ∧ '.' ∉ stem.toList
  | component stem | page stem => '/' ∉ stem.toList
  | rootComponent | fixed _ => True

end FilePlace

section Places

/-- What follows in a text that begins with another. -/
def after? (start text : String) : Option String :=
  if start.toList.isPrefixOf text.toList then some (String.ofList (text.toList.drop start.length))
  else none

private theorem after?_eq_none_iff {start text : String} :
    after? start text = none ↔ start.toList.isPrefixOf text.toList = false := by
  rw [after?, Bool.eq_false_iff, ite_eq_right_iff]
  exact forall_congr' fun _ => iff_of_false (Option.some_ne_none _) not_false

theorem after?_append (start rest : String) : after? start (start ++ rest) = some rest := by
  have begins : start.toList.isPrefixOf (start ++ rest).toList = true := by
    rw [String.toList_append, List.isPrefixOf_iff_prefix]
    exact List.prefix_append _ _
  rw [after?, if_pos begins, String.toList_append, ← String.length_toList, List.drop_left,
    String.ofList_toList]

theorem after?_append_eq_none {start lead : String} (other : after? start lead = none)
    (further : after? lead start = none) (rest : String) : after? start (lead ++ rest) = none := by
  unfold after? at other further ⊢
  rw [ite_eq_right_iff] at other further ⊢
  intro begins
  rw [String.toList_append, List.isPrefixOf_iff_prefix] at begins
  rw [List.isPrefixOf_iff_prefix] at other further
  rcases List.prefix_or_prefix_of_prefix begins (List.prefix_append _ _) with short | long
  · cases other short
  · cases further long

/-- The place of a file. -/
def placeOf (directory file : String) : FilePlace :=
  let stem := String.ofList (file.toList.takeWhile (· != '.'))
  match fixedFiles.lookup (directory, file) with
  | some generator => .fixed generator
  | none =>
    if directory == "client/src/app" then .rootComponent
    else if directory == businessObjectsDirectory then .clientObject stem
    else match after? "client/src/app/components/" directory with
      | some stem => .component stem
      | none => match after? "client/src/app/pages/" directory with
        | some stem => .page stem
        | none => .serverModule (directory ++ "/") stem

/-- A path is that of a file whose place is the given one. -/
def Belongs (place : FilePlace) (path : String) : Prop :=
  ∃ directory file, path = directory ++ "/" ++ file ∧ '/' ∉ file.toList ∧
    placeOf directory file = place

private theorem path_inj {directory other file name : String} (single : '/' ∉ file.toList)
    (alone : '/' ∉ name.toList) (same : directory ++ "/" ++ file = other ++ "/" ++ name) :
    directory = other ∧ file = name := by
  have directories := congrArg (fun path => parent path.toList) same
  simp only [parent_path single, parent_path alone, String.toList_inj] at directories
  subst directories
  exact ⟨rfl, (String.append_right_inj _).mp same⟩

theorem Belongs.unique {path : String} {first second : FilePlace} (one : Belongs first path)
    (two : Belongs second path) : first = second := by
  obtain ⟨directory, file, rfl, single, rfl⟩ := one
  obtain ⟨other, name, same, alone, rfl⟩ := two
  obtain ⟨rfl, rfl⟩ := path_inj single alone same
  rfl

theorem nodup_fixedFiles : (fixedFiles.map Prod.fst).Nodup := by
  decide

theorem slash_not_mem_fixedFiles : ∀ entry ∈ fixedFiles, '/' ∉ entry.1.2.toList := by
  simp (disch := rfl) only [fixedFiles, List.forall_mem_cons, Text.toList_of_eq]
  decide +kernel

theorem lookup_fixedFiles_eq_none {directory file : String}
    (free : ∀ entry ∈ fixedFiles, entry.1.1 = directory → entry.1.2 ≠ file) :
    fixedFiles.lookup (directory, file) = none := by
  rw [List.lookup_eq_none_iff]
  intro entry listed
  rw [bne_iff_ne]
  intro same
  rw [Prod.ext_iff] at same
  exact free entry listed same.1.symm same.2.symm

private theorem takeWhile_stem {stem ending : String} (undotted : '.' ∉ stem.toList)
    (dotted : ending.toList.head? = some '.') :
    String.ofList ((stem ++ ending).toList.takeWhile (· != '.')) = stem := by
  have kept : ∀ c ∈ stem.toList, (c != '.') = true := by
    intro c listed
    rw [bne_iff_ne]
    exact fun dot => undotted (dot ▸ listed)
  obtain ⟨rest, same⟩ := List.head?_eq_some_iff.mp dotted
  rw [String.toList_append, same, List.takeWhile_append_of_pos kept, List.takeWhile_cons_of_neg
    (by decide), List.append_nil, String.ofList_toList]

theorem slash_not_mem_append {stem ending : String} (single : '/' ∉ stem.toList)
    (alone : '/' ∉ ending.toList) : '/' ∉ (stem ++ ending).toList := by
  rw [String.toList_append, List.mem_append]
  exact fun inside => inside.elim single alone

private theorem moduleDirectories_apart : ∀ directory ∈ moduleDirectories,
    (directory == "client/src/app") = false ∧ (directory == businessObjectsDirectory) = false ∧
      after? "client/src/app/components/" directory = none ∧
      after? "client/src/app/pages/" directory = none ∧
      ∀ entry ∈ fixedFiles, entry.1.1 = directory → entry.1.2 = "__init__.py" := by
  simp (disch := rfl) only [moduleDirectories, List.forall_mem_cons, after?_eq_none_iff,
    Text.toList_of_eq]
  decide

theorem belongs_serverModule {directory stem : String} (listed : directory ∈ moduleDirectories)
    (single : '/' ∉ stem.toList) (undotted : '.' ∉ stem.toList)
    (bare : stem.toList.head? ≠ some '_') :
    Belongs (.serverModule (directory ++ "/") stem) (directory ++ "/" ++ stem ++ ".py") := by
  obtain ⟨outside, elsewhere, noComponent, noPage, markers⟩ := moduleDirectories_apart directory listed
  have free : fixedFiles.lookup (directory, stem ++ ".py") = none := by
    apply lookup_fixedFiles_eq_none
    intro entry member here same
    rw [markers entry member here] at same
    have heads := congrArg (fun file => file.toList.head?) same
    rw [String.toList_append] at heads
    cases chars : stem.toList with
    | nil =>
      rw [chars] at heads
      revert heads
      decide
    | cons c rest =>
      rw [chars] at heads bare
      exact bare heads.symm
  refine ⟨directory, stem ++ ".py", String.append_assoc ..,
    slash_not_mem_append single (by decide), ?_⟩
  rw [placeOf]
  simp only [free, outside, elsewhere, noComponent, noPage, Bool.false_eq_true, ↓reduceIte,
    takeWhile_stem undotted (by decide : ".py".toList.head? = some '.')]

private theorem belongs_clientObject {stem : String} (single : '/' ∉ stem.toList)
    (undotted : '.' ∉ stem.toList) :
    Belongs (.clientObject stem) (businessObjectsDirectory ++ "/" ++ stem ++ ".ts") := by
  have none : ∀ entry ∈ fixedFiles, entry.1.1 ≠ businessObjectsDirectory := by decide
  have outside : (businessObjectsDirectory == "client/src/app") = false := by decide
  have free : fixedFiles.lookup (businessObjectsDirectory, stem ++ ".ts") = .none :=
    lookup_fixedFiles_eq_none fun entry member here => absurd here (none entry member)
  refine ⟨businessObjectsDirectory, stem ++ ".ts", String.append_assoc ..,
    slash_not_mem_append single (by decide), ?_⟩
  rw [placeOf]
  simp only [free, outside, beq_self_eq_true, Bool.false_eq_true, ↓reduceIte,
    takeWhile_stem undotted (by decide : ".ts".toList.head? = some '.')]

/-- The endings of the files of a view. -/
def viewEndings : List String := [".ts", ".html", ".scss"]

theorem mem_viewPaths {base path : String} (listed : path ∈ View.paths base) :
    ∃ ending ∈ viewEndings, path = base ++ ending := by
  simpa [View.paths, viewEndings] using listed

private theorem view_path {directory stem kind ending : String} (single : '/' ∉ stem.toList)
    (plain : '/' ∉ kind.toList) (known : ending ∈ viewEndings) :
    directory ++ stem ++ "/" ++ stem ++ kind ++ ending =
        directory ++ stem ++ "/" ++ (stem ++ kind ++ ending) ∧
      '/' ∉ (stem ++ kind ++ ending).toList := by
  have alone : ∀ ending ∈ viewEndings, '/' ∉ ending.toList := by decide
  refine ⟨by simp only [String.append_assoc], ?_⟩
  exact slash_not_mem_append (slash_not_mem_append single plain) (alone ending known)

/-- The directories with a folder for every view of a kind. -/
def viewDirectories : List String := ["client/src/app/components/", "client/src/app/pages/"]

private theorem viewDirectories_apart : ∀ start ∈ viewDirectories,
    after? start "client/src/app" = none ∧ after? start businessObjectsDirectory = none ∧
      ∀ entry ∈ fixedFiles, after? start entry.1.1 = none := by
  simp (disch := rfl) only [viewDirectories, List.forall_mem_cons, after?_eq_none_iff,
    Text.toList_of_eq]
  decide +kernel

/-- Below the directories of views the folder decides on the place. -/
theorem placeOf_view {start : String} (listed : start ∈ viewDirectories) (folder file : String) :
    placeOf (start ++ folder) file =
      match after? "client/src/app/components/" (start ++ folder) with
      | some stem => .component stem
      | none => match after? "client/src/app/pages/" (start ++ folder) with
        | some stem => .page stem
        | none => .serverModule (start ++ folder ++ "/")
            (String.ofList (file.toList.takeWhile (· != '.'))) := by
  obtain ⟨outside, elsewhere, unfixed⟩ := viewDirectories_apart start listed
  have apart {other : String} (absent : after? start other = none) : start ++ folder ≠ other := by
    rintro rfl
    cases (after?_append start folder).symm.trans absent
  have free : fixedFiles.lookup (start ++ folder, file) = none :=
    lookup_fixedFiles_eq_none fun entry member here =>
      absurd here.symm (apart (unfixed entry member))
  rw [placeOf]
  simp only [free, beq_eq_false_iff_ne.mpr (apart outside), beq_eq_false_iff_ne.mpr (apart elsewhere),
    Bool.false_eq_true, ↓reduceIte]

private theorem belongs_component {stem path : String} (single : '/' ∉ stem.toList)
    (listed : path ∈ (FilePlace.component stem).paths) : Belongs (.component stem) path := by
  obtain ⟨ending, known, rfl⟩ := mem_viewPaths listed
  obtain ⟨same, alone⟩ := view_path single (by decide : '/' ∉ ".component".toList) known
  refine ⟨_, _, same, alone, ?_⟩
  rw [placeOf_view List.mem_cons_self, after?_append]

private theorem belongs_page {stem path : String} (single : '/' ∉ stem.toList)
    (listed : path ∈ (FilePlace.page stem).paths) : Belongs (.page stem) path := by
  obtain ⟨ending, known, rfl⟩ := mem_viewPaths listed
  obtain ⟨same, alone⟩ := view_path single (by decide : '/' ∉ ".page".toList) known
  have other : after? "client/src/app/components/" ("client/src/app/pages/" ++ stem) = none :=
    after?_append_eq_none (by decide) (by decide) stem
  refine ⟨_, _, same, alone, ?_⟩
  rw [placeOf_view (List.mem_cons_of_mem _ List.mem_cons_self), other, after?_append]

theorem belongs_rootComponent {path : String} (listed : path ∈ FilePlace.rootComponent.paths) :
    Belongs .rootComponent path := by
  have files : ∀ ending ∈ viewEndings,
      "client/src/app/app.component" ++ ending = "client/src/app" ++ "/" ++ ("app.component" ++ ending) ∧
        '/' ∉ ("app.component" ++ ending).toList ∧
        placeOf "client/src/app" ("app.component" ++ ending) = .rootComponent := by
    decide
  obtain ⟨ending, known, rfl⟩ := mem_viewPaths listed
  exact ⟨_, _, files ending known⟩

theorem belongs_fixed {generator path : String} (listed : path ∈ (FilePlace.fixed generator).paths) :
    Belongs (.fixed generator) path := by
  obtain ⟨entry, chosen, rfl⟩ := List.mem_map.mp listed
  obtain ⟨member, same⟩ := List.mem_filter.mp chosen
  refine ⟨_, _, rfl, slash_not_mem_fixedFiles entry member, ?_⟩
  rw [placeOf, OrderedMap.lookup_of_mem nodup_fixedFiles member, beq_iff_eq.mp same]

/-- The paths of a place belong to it. -/
theorem belongs_of_mem_paths {place : FilePlace} (plain : place.Plain) {path : String}
    (listed : path ∈ place.paths) : Belongs place path := by
  cases place with
  | serverModule directory stem =>
    obtain ⟨⟨known, member, rfl⟩, single, undotted, bare⟩ := plain
    rw [List.mem_singleton.mp listed]
    exact belongs_serverModule member single undotted bare
  | clientObject stem =>
    rw [List.mem_singleton.mp listed]
    exact belongs_clientObject plain.1 plain.2
  | rootComponent => exact belongs_rootComponent listed
  | component stem => exact belongs_component plain listed
  | page stem => exact belongs_page plain listed
  | fixed generator => exact belongs_fixed listed

end Places

section Announced

theorem plain_serverModule {directory name : String}
    (listed : ∃ known ∈ moduleDirectories, known ++ "/" = directory)
    (worded : name.toList.all Text.isWord = true) :
    (FilePlace.serverModule directory (snakeCase name)).Plain := by
  refine ⟨listed, slash_not_mem_snakeCase worded, dot_not_mem_snakeCase name, ?_⟩
  rw [snakeCase, String.toList_ofList]
  exact Naming.head?_joined (by decide) (by decide) _

/-- The places for units whose names are words are those of file names. -/
theorem plain_of (generator : String) {unit : String} (worded : unit.toList.all Text.isWord = true) :
    (FilePlace.of generator unit).Plain := by
  unfold FilePlace.of
  split
  · exact plain_serverModule (by decide) worded
  · exact plain_serverModule (by decide) worded
  · exact plain_serverModule (by decide) (all_pluralize worded)
  · exact plain_serverModule (by decide) worded
  · exact plain_serverModule (by decide) worded
  · exact ⟨by decide, by decide⟩
  · exact ⟨slash_not_mem_kebabCase worded, dot_not_mem_kebabCase unit⟩
  · exact ⟨by decide, by decide⟩
  · refine ⟨slash_not_mem_append (slash_not_mem_kebabCase worded) (by decide), ?_⟩
    rw [String.toList_append, List.mem_append]
    rintro (inside | ending)
    · exact dot_not_mem_kebabCase unit inside
    · revert ending
      decide
  · split
    · trivial
    · exact slash_not_mem_componentStem worded
  · exact slash_not_mem_pageStem worded
  · trivial

theorem of_eq_fixed {generator unit name : String} (place : FilePlace.of generator unit = .fixed name) :
    generator = name ∧ ∀ other, FilePlace.of generator other = .fixed name := by
  unfold FilePlace.of at place ⊢
  split at place
  case h_10 => split at place <;> cases place
  case h_12 other =>
    cases place
    exact ⟨rfl, fun _ => rfl⟩
  all_goals cases place

theorem aggregate_outputs : ∀ generator ∈ allGenerators, generator.isAggregate = true →
    (generator.outputs none).toOption = some (FilePlace.of generator.name "").paths := by
  decide

/-- Every generator of units announces the paths of its place for a unit. -/
theorem unit_outputs {generator : Generator} (known : generator ∈ allGenerators)
    (separate : generator.isAggregate = false) (declared : Declared Design.Unit) :
    generator.outputs (some declared) =
      .ok (FilePlace.of generator.name declared.name).paths := by
  have component (name : String) :
      View.paths (componentBase name) = (FilePlace.of "component" name).paths := by
    change _ = FilePlace.paths (if ViewName.isAppComponent name then .rootComponent
      else .component (ViewName.componentStem name))
    rw [componentBase]
    split <;> rfl
  simp only [allGenerators, serverGenerators, clientGenerators, List.cons_append, List.nil_append,
    List.mem_cons, List.not_mem_nil, or_false] at known
  rcases known with rfl | rfl | rfl | rfl | rfl | rfl | rfl | rfl | rfl | rfl | rfl | rfl | rfl |
    rfl | rfl | rfl | rfl | rfl | rfl | rfl
  all_goals cases separate
  · rfl
  · rfl
  · rfl
  · rfl
  · rfl
  · rfl
  · rfl
  · exact congrArg Except.ok (component declared.name)
  · rfl

/-- Every place of a generator has a path. -/
theorem paths_ne_nil {generator : Generator} (known : generator ∈ allGenerators) (unit : String) :
    (FilePlace.of generator.name unit).paths ≠ [] := by
  cases place : FilePlace.of generator.name unit with
  | fixed name =>
    obtain ⟨rfl, always⟩ := of_eq_fixed place
    have fixed : ∀ generator ∈ allGenerators,
        FilePlace.of generator.name "" = .fixed generator.name →
          (FilePlace.fixed generator.name).paths ≠ [] := by
      decide
    exact fixed generator known (always "")
  | _ => exact List.cons_ne_nil _ _

/-- The paths of a place are all different. -/
theorem FilePlace.paths_nodup (place : FilePlace) : place.paths.Nodup := by
  have view (base : String) : (View.paths base).Nodup := by
    have same : View.paths base = viewEndings.map (base ++ ·) := rfl
    rw [same]
    exact List.Nodup.map (fun _ _ => String.append_right_inj base |>.mp) (by decide)
  have files : (fixedFiles.map fun entry => entry.1.1 ++ "/" ++ entry.1.2).Nodup := by
    refine List.Nodup.map_on (fun entry listed other also same => ?_) nodup_fixedFiles.of_map
    exact List.inj_on_of_nodup_map nodup_fixedFiles listed also <| Prod.ext_iff.mpr <|
      path_inj (slash_not_mem_fixedFiles entry listed) (slash_not_mem_fixedFiles other also) same
  cases place with
  | serverModule | clientObject => exact List.nodup_singleton _
  | rootComponent | component | page => exact view _
  | fixed generator => exact files.sublist (List.filter_sublist.map _)

end Announced

end Blueprint.Generation
