import Mathlib.Data.List.Chain
import Blueprint.Proofs.Generation.Overwriting
import Blueprint.Proofs.Text

namespace Blueprint.Generation

open Design Client

section Paths

/-- No two dots of a text stand side by side. -/
def Spread (text : List Char) : Prop := text.IsChain fun first second => first = '.' → second ≠ '.'

instance (text : List Char) : Decidable (Spread text) := by
  unfold Spread
  infer_instance

theorem spread_around {front stem back : List Char} (before : Spread front)
    (parted : ∀ c ∈ front.getLast?, c ≠ '.') (undotted : '.' ∉ stem) (after : Spread back) :
    Spread (front ++ (stem ++ back)) := by
  have plain : Spread stem := by
    rw [Spread, List.isChain_iff_forall_rel_of_append_cons_cons]
    rintro first second front back rfl rfl
    simp at undotted
  refine List.isChain_append.mpr ⟨before, List.isChain_append.mpr ⟨plain, after, ?_⟩, ?_⟩
  · rintro c last d _ rfl
    exact absurd (List.mem_of_getLast? last) undotted
  · exact fun c last d _ dot => absurd dot (parted c last)

theorem infix_intercalate {α : Type} {joint list : List α} {lists : List (List α)}
    (listed : list ∈ lists) : list <:+: joint.intercalate lists := by
  induction lists with
  | nil => cases listed
  | cons first lists ih =>
    cases lists with
    | nil =>
      have alone : list = joint.intercalate [first] := by
        rw [List.intercalate_singleton, List.mem_singleton.mp listed]
      exact alone ▸ List.infix_rfl
    | cons second lists =>
      rw [List.intercalate_cons_cons, List.append_assoc]
      rcases List.mem_cons.mp listed with rfl | later
      · exact (List.prefix_append _ _).isInfix
      · exact (ih later).trans ((List.suffix_append _ _).trans (List.suffix_append _ _)).isInfix

/-- A text begins with the directory of the server or that of the client. -/
def Begins (text : List Char) : Prop := "server/".toList <+: text ∨ "client/".toList <+: text

instance (text : List Char) : Decidable (Begins text) := by
  unfold Begins
  infer_instance

/-- A path below the directory of the server or of the client: it is relative, and no segment of it
leads upwards. -/
structure Inside (path : String) : Prop where
  begins : Begins path.toList
  relative : path.toList.head? ≠ some '/'
  downward : ['.', '.'] ∉ path.toList.splitOn '/'

theorem inside_of_spread {path : String} (begins : Begins path.toList)
    (spread : Spread path.toList) : Inside path where
  begins := begins
  relative := by
    rcases begins with ⟨rest, same⟩ | ⟨rest, same⟩
    all_goals
      rw [← same]
      exact nofun
  downward := by
    intro segment
    have whole : ['.', '.'] <:+: ['/'].intercalate (path.toList.splitOn '/') :=
      infix_intercalate segment
    rw [List.intercalate_splitOn] at whole
    have apart := List.IsChain.infix spread whole
    exact absurd apart (by decide)

/-- A directory below which files get their names from units. -/
structure Directory (text : String) : Prop where
  begins : Begins text.toList
  spread : Spread text.toList
  ends : text.toList.getLast? = some '/'

namespace Directory

variable {lead stem : String} (directory : Directory lead)

include directory

private theorem begins_append (stem ending : String) : Begins (lead ++ stem ++ ending).toList := by
  rw [String.toList_append, String.toList_append, List.append_assoc]
  exact directory.begins.imp (fun start => start.trans (List.prefix_append _ _))
    fun start => start.trans (List.prefix_append _ _)

variable (undotted : '.' ∉ stem.toList)

include undotted

private theorem spread_append {ending : String} (after : Spread ending.toList) :
    Spread (lead ++ stem ++ ending).toList := by
  rw [String.toList_append, String.toList_append, List.append_assoc]
  refine spread_around directory.spread ?_ undotted after
  rintro c last rfl
  cases directory.ends.symm.trans last

theorem inside {ending : String} (after : Spread ending.toList) : Inside (lead ++ stem ++ ending) :=
  inside_of_spread (directory.begins_append stem ending) (directory.spread_append undotted after)

theorem below : Directory (lead ++ stem ++ "/") where
  begins := directory.begins_append stem "/"
  spread := directory.spread_append undotted (by decide)
  ends := by simp

end Directory

end Paths

section Places

/-- The stems of a place have no dots. -/
def FilePlace.Undotted : FilePlace → Prop
  | serverModule directory stem =>
    (∃ listed ∈ moduleDirectories, listed ++ "/" = directory) ∧ '.' ∉ stem.toList
  | clientObject stem | component stem | page stem => '.' ∉ stem.toList
  | rootComponent | fixed _ => True

/-- Whatever the names of a generator and a unit are, their place has stems without dots. -/
theorem undotted_of (generator unit : String) : (FilePlace.of generator unit).Undotted := by
  unfold FilePlace.of
  split
  · exact ⟨by decide, dot_not_mem_snakeCase unit⟩
  · exact ⟨by decide, dot_not_mem_snakeCase unit⟩
  · exact ⟨by decide, dot_not_mem_snakeCase (pluralize unit)⟩
  · exact ⟨by decide, dot_not_mem_snakeCase unit⟩
  · exact ⟨by decide, dot_not_mem_snakeCase unit⟩
  · exact (by decide : '.' ∉ "base".toList)
  · exact dot_not_mem_kebabCase unit
  · exact (by decide : '.' ∉ "persisted-form-group".toList)
  · show '.' ∉ (kebabCase unit ++ "-form-group").toList
    rw [String.toList_append, List.mem_append, not_or]
    exact ⟨dot_not_mem_kebabCase unit, by decide⟩
  · split
    · trivial
    · exact dot_not_mem_kebabCase (ViewName.componentBase unit)
  · exact dot_not_mem_kebabCase (ViewName.pageBase unit)
  · trivial

theorem directory_of_mem : ∀ lead ∈ moduleDirectories.map (· ++ "/") ++
    (businessObjectsDirectory ++ "/") :: viewDirectories, Directory lead := by
  have checked : ∀ lead ∈ moduleDirectories.map (· ++ "/") ++
      (businessObjectsDirectory ++ "/") :: viewDirectories,
      Begins lead.toList ∧ Spread lead.toList ∧ lead.toList.getLast? = some '/' := by
    simp (disch := rfl) only [moduleDirectories, businessObjectsDirectory, viewDirectories,
      List.map_cons, List.map_nil, List.cons_append, List.nil_append, List.forall_mem_cons,
      String.toList_append, Text.toList_of_eq]
    decide
  intro lead listed
  obtain ⟨begins, spread, ends⟩ := checked lead listed
  exact ⟨begins, spread, ends⟩

theorem inside_view {lead stem kind path : String} (listed : lead ∈ viewDirectories)
    (undotted : '.' ∉ stem.toList)
    (spread : ∀ ending ∈ viewEndings, Spread (kind ++ ending).toList)
    (given : path ∈ View.paths (lead ++ stem ++ "/" ++ stem ++ kind)) : Inside path := by
  have directory : Directory lead :=
    directory_of_mem lead (List.mem_append_right _ (List.mem_cons_of_mem _ listed))
  obtain ⟨ending, known, rfl⟩ := mem_viewPaths given
  have file : lead ++ stem ++ "/" ++ stem ++ kind ++ ending =
      lead ++ stem ++ "/" ++ stem ++ (kind ++ ending) := String.append_assoc
  rw [file]
  exact (directory.below undotted).inside undotted (spread ending known)

/-- The paths of a place without dots in its stems lie inside. -/
theorem inside_of_mem_paths {place : FilePlace} (undotted : place.Undotted) {path : String}
    (listed : path ∈ place.paths) : Inside path := by
  cases place with
  | serverModule directory stem =>
    obtain ⟨⟨known, member, rfl⟩, undotted⟩ := undotted
    have directory := directory_of_mem _ (List.mem_append_left _ (List.mem_map_of_mem member))
    rw [List.mem_singleton.mp listed]
    exact directory.inside undotted (by decide)
  | clientObject stem =>
    have directory := directory_of_mem _ (List.mem_append_right _ List.mem_cons_self)
    rw [List.mem_singleton.mp listed]
    exact directory.inside undotted (by decide)
  | rootComponent =>
    have files : ∀ path ∈ View.paths "client/src/app/app.component",
        Begins path.toList ∧ Spread path.toList := by
      simp (disch := rfl) only [View.paths, List.forall_mem_cons, String.toList_append, Text.toList_of_eq]
      decide
    exact inside_of_spread (files path listed).1 (files path listed).2
  | component stem => exact inside_view List.mem_cons_self undotted (by decide) listed
  | page stem =>
    exact inside_view (List.mem_cons_of_mem _ List.mem_cons_self) undotted (by decide) listed
  | fixed generator =>
    have files : ∀ entry ∈ fixedFiles, Begins (entry.1.1 ++ "/" ++ entry.1.2).toList ∧
        Spread (entry.1.1 ++ "/" ++ entry.1.2).toList := by
      simp (disch := rfl) only [fixedFiles, List.forall_mem_cons, String.toList_append,
        Text.toList_of_eq]
      decide
    obtain ⟨entry, chosen, rfl⟩ := List.mem_map.mp listed
    have member := (List.mem_filter.mp chosen).1
    exact inside_of_spread (files entry member).1 (files entry member).2

end Places

section Listing

/-- The listing of a run: every task of its plan with the paths that are announced for it. -/
def listing (registry : Registry) (targets : List String) :
    Except Failure (List (String × Option String × List String)) :=
  planAll registry (select targets allGenerators) >>= announced

/-- The entry of a site in a listing. -/
def Site.entry (registry : Registry) (site : Site) : String × Option String × List String :=
  (site.generator.name, site.unit.map Declared.name, (site.result registry).place.paths)

/-- The sites of a run that are accepted. -/
def acceptedSites (registry : Registry) (targets : List String) : List Site :=
  (sites registry allGenerators targets).filter fun site =>
    site.accepted registry matches .ok true

variable {registry : Registry} {targets : List String} {workers : Int} {choices : Nat → Nat}
  {finished : Run} {site : Site}

theorem mem_acceptedSites : site ∈ acceptedSites registry targets ↔
    site ∈ sites registry allGenerators targets ∧ site.accepted registry = .ok true := by
  rw [acceptedSites, List.mem_filter]
  refine and_congr_right fun _ => ?_
  rcases site.accepted registry with failure | _ | _ <;> simp

theorem tasks_of_plan {plan : Plan}
    (planned : planAll registry (select targets allGenerators) = .ok plan) :
    plan.tasks = (acceptedSites registry targets).map Site.task := by
  rw [Plan.tasks, entries_of_plan planned, acceptedSites, List.filterMap_map,
    ← List.filterMap_eq_map, List.filterMap_filter]
  congr 1
  funext site
  simp only [Function.comp_apply, Site.planned]
  rcases site.accepted registry with failure | _ | _ <;> rfl

theorem listing_eq {plan : Plan}
    (planned : planAll registry (select targets allGenerators) = .ok plan) :
    listing registry targets =
      .ok ((acceptedSites registry targets).map (Site.entry registry)) := by
  rw [listing, planned, ok_bind, announced, tasks_of_plan planned, List.mapM_map]
  refine mapM_eq_ok fun site listed => ?_
  have announced := (givesAll_site (mem_acceptedSites.mp listed).1).1
  simp only [Function.comp_apply, Site.task, announced, ok_bind]
  rfl

private theorem exists_single_trigger {generator : Generator} (known : generator ∈ allGenerators)
    (separate : generator.isAggregate = false) : ∃ trigger, generator.triggers = [trigger] := by
  have single : ∀ generator ∈ allGenerators, generator.isAggregate = false →
      generator.triggers.length = 1 := by
    decide
  exact List.length_eq_one_iff.mp (single generator known separate)

/-- The result of a site is the only one under the names of its generator and its unit. -/
theorem results_of_site
    (returned : run registry allGenerators targets workers choices = .ok finished)
    (member : site ∈ sites registry allGenerators targets) :
    finished.outcome.results.filter (fun result => result.generator == site.generator.name &&
      result.unit == site.unit.map Declared.name) = [site.result registry] := by
  obtain ⟨place, generator, unit⟩ := site
  obtain ⟨⟨placed, selected⟩, triggered⟩ := mem_sites_iff.mp member
  have parted : finished.outcome.results.filter (fun result =>
      result.generator == generator.name && result.unit == unit.map Declared.name) =
        (finished.outcome.of generator.name).filter (·.unit == unit.map Declared.name) := by
    simp only [RunResult.of, List.filter_filter, Bool.and_comm]
  rw [parted]
  cases unit with
  | none =>
    have whole : sitesOf registry generator place = [⟨place, generator, none⟩] := by
      rw [sitesOf, if_pos triggered.1, if_pos (runsOver_iff.mpr triggered.2)]
    have own := (answers_result registry ⟨place, generator, none⟩).unit
    rw [results_of_generator returned placed selected, whole, List.map_singleton,
      List.filter_singleton, own]
    rfl
  | some declared =>
    obtain ⟨separate, declares, looks⟩ := triggered
    obtain ⟨trigger, single⟩ := exists_single_trigger (List.mem_of_getElem? placed) separate
    exact results_of_unit returned placed selected separate single declares
      (kind_of_triggered single looks)

end Listing

/-- A run over all generators writes what is listed for it. Every file comes from a result, and its
path is listed under the generator and the unit of that result. What is listed has one result, which
has exactly the listed paths if it is generated; and every listed path lies inside. -/
theorem listed_paths_produced (registry : Registry) (targets : List String) (workers : Int)
    (choices : Nat → Nat) : ∃ listed finished,
      listing registry targets = .ok listed ∧
      run registry allGenerators targets workers choices = .ok finished ∧
      (∀ file ∈ finished.outcome.files, ∃ result ∈ finished.outcome.results, file ∈ result.files) ∧
      (∀ result ∈ finished.outcome.results, ∀ path ∈ result.paths, ∃ paths,
        (result.generator, result.unit, paths) ∈ listed ∧ path ∈ paths) ∧
      ∀ generator unit paths, (generator, unit, paths) ∈ listed →
        (∃ result, finished.outcome.results.filter (fun result =>
            result.generator == generator && result.unit == unit) = [result] ∧
          (result.state = .generated → result.paths = paths)) ∧
        ∀ path ∈ paths, Inside path := by
  obtain ⟨finished, returned⟩ := exists_run registry targets workers choices
  obtain ⟨plan, planned⟩ : ∃ plan, planAll registry (select targets allGenerators) = .ok plan := by
    rcases run_of_plan registry allGenerators targets workers choices with
      ⟨failure, _, failed⟩ | ⟨plan, _, planned, _⟩
    · cases returned.symm.trans failed
    · exact ⟨plan, planned⟩
  refine ⟨_, finished, listing_eq planned, returned,
    fun _ => RunResult.exists_result_of_mem_files, ?_, ?_⟩
  · rw [results_of_run returned]
    intro result member path written
    obtain ⟨site, sited, rfl⟩ := List.mem_map.mp member
    obtain ⟨file, produced, _⟩ := List.mem_map.mp written
    have generated := Site.generated_of_mem_files produced
    obtain ⟨_, accepted, _⟩ := Site.exists_produced_of_generated generated
    have answers := answers_result registry site
    rw [answers.generator, answers.unit]
    refine ⟨_, List.mem_map_of_mem (mem_acceptedSites.mpr ⟨sited, accepted⟩), ?_⟩
    rwa [← paths_of_generated sited generated]
  · intro generator unit paths entered
    obtain ⟨site, chosen, same⟩ := List.mem_map.mp entered
    obtain ⟨rfl, rfl, rfl⟩ : _ ∧ _ ∧ _ := by simpa [Site.entry] using same
    have sited := (mem_acceptedSites.mp chosen).1
    refine ⟨⟨_, results_of_site returned sited, paths_of_generated sited⟩, fun path => ?_⟩
    rw [place_result]
    exact inside_of_mem_paths (undotted_of _ _)

end Blueprint.Generation
