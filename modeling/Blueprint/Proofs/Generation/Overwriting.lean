import Blueprint.Proofs.Generation.AllGenerators
import Blueprint.Proofs.Generation.Completion
import Blueprint.Proofs.Generation.FilePlaces
import Blueprint.Proofs.Generation.WrittenCode
import Blueprint.Proofs.OrderedMap

namespace Blueprint.Generation

open Design

/-- A step that gives a text, or files at all of some paths. -/
def GivesAll (paths : List String) (step : Step Produced) : Prop :=
  ∀ produced, step.outcome = .ok produced → (∃ text, produced = .text text) ∨
    ∃ given, produced = .files given ∧ given.map Prod.fst = paths

namespace GivesAll

variable {paths : List String}

theorem bind {α : Type} {first : Step α} {next : α → Step Produced}
    (gives : ∀ value, GivesAll paths (next value)) : GivesAll paths (first >>= next) := by
  intro produced success
  obtain ⟨value, _, success⟩ := Step.bind_eq_ok_iff.mp success
  exact gives value produced success

theorem text (text : String) : GivesAll paths (pure (.text text)) := by
  rintro produced success
  cases success
  exact Or.inl ⟨text, rfl⟩

theorem files {given : List (String × String)} (all : given.map Prod.fst = paths) :
    GivesAll paths (pure (.files given)) := by
  rintro produced success
  cases success
  exact Or.inr ⟨given, rfl, all⟩

end GivesAll

section Produced

variable {registry : Registry} {paths : List String}

private theorem givesAll_schema (entity : Declared Entity) :
    GivesAll paths (Server.generateSchema entity registry) :=
  .bind fun _ => .bind fun _ => .bind fun _ => .bind fun _ => .text _

private theorem givesAll_serverObject (entity : Declared Entity) :
    GivesAll paths (Server.generateBusinessObject entity registry) :=
  .bind fun _ => .bind fun _ => .bind fun _ => .bind fun _ => .bind fun _ => .text _

private theorem givesAll_route (entity : Declared Entity) :
    GivesAll paths (Server.generateRoute entity registry) :=
  .bind fun _ => .bind fun _ => .text _

private theorem givesAll_dataSource (source : Declared DataSource) :
    GivesAll paths (Server.generateDataSource source registry) := by
  intro produced success
  by_cases said : source.unit.persistenceType = ""
  · cases (Server.generateDataSource_of_unkept registry said).symm.trans success
  · cases (Server.generateDataSource_of_kept registry said).symm.trans success
    exact Or.inl ⟨_, rfl⟩

private theorem givesAll_appBehavior (behavior : Declared Behavior) :
    GivesAll paths (Server.generateAppBehavior behavior registry) := by
  unfold Server.generateAppBehavior
  split
  · exact .bind fun _ => .bind fun _ => .text _
  · exact nofun

private theorem givesAll_clientObject (entity : Declared Entity) :
    GivesAll paths (Client.generateBusinessObject entity registry) :=
  .bind fun _ => .bind fun _ => .bind fun _ => .bind fun _ => .text _

private theorem givesAll_formGroup (entity : Declared Entity) :
    GivesAll paths (Client.generateFormGroup entity registry) :=
  .bind fun _ => .bind fun _ => .bind fun _ => .text _

private theorem givesAll_component (component : Declared Component) :
    GivesAll (Client.View.paths (Client.componentBase component.unit.name))
      (Client.generateComponent component registry) :=
  .bind fun _ => .files rfl

private theorem givesAll_page (page : Declared Page) :
    GivesAll (Client.View.paths (Client.pageBase page.unit.name))
      (Client.generatePage page registry) :=
  .bind fun _ => .files rfl

theorem givesAll_aggregate {generator : Generator} (known : generator ∈ allGenerators)
    (aggregate : generator.isAggregate = true)
    (announced : generator.outputs none = .ok paths) :
    GivesAll paths (generator.generate none registry) := by
  simp only [allGenerators, serverGenerators, clientGenerators, List.cons_append, List.nil_append,
    List.mem_cons, List.not_mem_nil, or_false] at known
  rcases known with rfl | rfl | rfl | rfl | rfl | rfl | rfl | rfl | rfl | rfl | rfl | rfl | rfl | rfl |
    rfl | rfl | rfl | rfl | rfl | rfl
  all_goals cases aggregate
  · exact .bind fun _ => .bind fun _ => .bind fun _ => .text _
  · exact .bind fun _ => .bind fun _ => .bind fun _ => .text _
  · exact .bind fun _ => .files (Except.ok.inj announced)
  · exact .bind fun _ => .text _
  · exact .text _
  · exact .text _
  · exact .bind fun _ => .text _
  · exact .bind fun _ => .text _
  · exact .text _
  · exact .text _
  · exact .bind fun _ => .text _

theorem givesAll_onUnit {α : Type} {view : Design.Unit → Option α}
    {step : Declared α → Registry → Step Produced} {declared : Declared Design.Unit}
    (shown : ∃ item, view declared.unit = some item)
    (gives : ∀ item, view declared.unit = some item →
      GivesAll paths (step (declared.withUnit item) registry)) :
    GivesAll paths (onUnit view step (some declared) registry) := by
  obtain ⟨item, found⟩ := shown
  simp only [onUnit, found]
  exact gives item found

/-- The one trigger of a generator looks at units of its kind. -/
theorem kind_of_triggered {generator : Generator} {trigger : Trigger}
    {declared : Declared Design.Unit} (single : generator.triggers = [trigger])
    (triggered : (generator.triggerFor? declared).isSome = true) :
    declared.unit.kind = trigger.kind := by
  rw [Generator.triggerFor?, single, List.find?_isSome] at triggered
  obtain ⟨found, listed, looks⟩ := triggered
  rw [List.mem_singleton.mp listed] at looks
  exact beq_iff_eq.mp looks

private theorem exists_shown (unit : Design.Unit) :
    (unit.kind = .entity → ∃ entity, unit.entity? = some entity) ∧
      (unit.kind = .dataSource → ∃ source, unit.dataSource? = some source) ∧
      (unit.kind = .behavior → ∃ behavior, unit.behavior? = some behavior) ∧
      (unit.kind = .component → ∃ component, unit.component? = some component) ∧
      (unit.kind = .page → ∃ page, unit.page? = some page) := by
  cases unit <;> simp [Unit.kind, Unit.entity?, Unit.dataSource?, Unit.behavior?, Unit.component?,
    Unit.page?]

/-- A generator of units gives all it announces for a unit that triggers it. -/
theorem givesAll_unit {generator : Generator} (known : generator ∈ allGenerators)
    (separate : generator.isAggregate = false) {declared : Declared Design.Unit}
    (triggered : (generator.triggerFor? declared).isSome = true)
    (announced : generator.outputs (some declared) = .ok paths) :
    GivesAll paths (generator.generate (some declared) registry) := by
  obtain ⟨entity, dataSource, behavior, component, page⟩ := exists_shown declared.unit
  simp only [allGenerators, serverGenerators, clientGenerators, List.cons_append, List.nil_append,
    List.mem_cons, List.not_mem_nil, or_false] at known
  rcases known with rfl | rfl | rfl | rfl | rfl | rfl | rfl | rfl | rfl | rfl | rfl | rfl | rfl | rfl |
    rfl | rfl | rfl | rfl | rfl | rfl
  all_goals cases separate
  · exact givesAll_onUnit (entity (kind_of_triggered rfl triggered)) fun _ _ => givesAll_schema _
  · exact givesAll_onUnit (entity (kind_of_triggered rfl triggered)) fun _ _ =>
      givesAll_serverObject _
  · exact givesAll_onUnit (entity (kind_of_triggered rfl triggered)) fun _ _ => givesAll_route _
  · exact givesAll_onUnit (dataSource (kind_of_triggered rfl triggered)) fun _ _ =>
      givesAll_dataSource _
  · exact givesAll_onUnit (behavior (kind_of_triggered rfl triggered)) fun _ _ =>
      givesAll_appBehavior _
  · exact givesAll_onUnit (entity (kind_of_triggered rfl triggered)) fun _ _ =>
      givesAll_clientObject _
  · exact givesAll_onUnit (entity (kind_of_triggered rfl triggered)) fun _ _ => givesAll_formGroup _
  · refine givesAll_onUnit (component (kind_of_triggered rfl triggered)) fun item shown => ?_
    have all : Client.View.paths (Client.componentBase declared.name) = paths := Except.ok.inj announced
    rw [← all, name_of_component? shown]
    exact givesAll_component (declared.withUnit item)
  · refine givesAll_onUnit (page (kind_of_triggered rfl triggered)) fun item shown => ?_
    have all : Client.View.paths (Client.pageBase declared.name) = paths := Except.ok.inj announced
    rw [← all, name_of_page? shown]
    exact givesAll_page (declared.withUnit item)

end Produced

theorem paths_of_text {generator : Generator} {unit : Option (Declared Design.Unit)}
    {paths : List String} {text : String} {files : List (String × String)}
    (announced : generator.outputs unit = .ok paths)
    (made : generator.files unit (.text text) = .ok files) : files.map Prod.fst = paths := by
  simp only [Generator.files, announced, ok_bind] at made
  split at made
  · cases made
    rfl
  · cases made

/-- Files that are made stand at different paths. -/
theorem nodup_of_files {generator : Generator} {unit : Option (Declared Design.Unit)}
    {produced : Produced} {files : List (String × String)}
    (made : generator.files unit produced = .ok files) : (files.map Prod.fst).Nodup := by
  obtain ⟨paths, announced, _⟩ := files_announced made
  simp only [Generator.files, announced, ok_bind] at made
  cases produced with
  | text text =>
    simp only at made
    split at made
    · cases made
      exact List.nodup_singleton _
    · cases made
  | files given =>
    simp only at made
    split at made
    · cases made
      exact OrderedMap.nodup_keys_ofList given
    · cases made

section Results

/-- The paths of a result's files. -/
def UnitResult.paths (result : UnitResult) : List String := result.files.map Prod.fst

/-- The place of a result, by the names of its generator and its unit. -/
def UnitResult.place (result : UnitResult) : FilePlace :=
  FilePlace.of result.generator (result.unit.getD "")

variable {registry : Registry} {targets : List String} {site : Site}

theorem place_result (registry : Registry) (site : Site) : (site.result registry).place =
    FilePlace.of site.generator.name ((site.unit.map Declared.name).getD "") := by
  have answers := answers_result registry site
  rw [UnitResult.place, answers.generator, answers.unit]

/-- A site announces the paths of its place, and its generator gives all of them. -/
theorem givesAll_site (member : site ∈ sites registry allGenerators targets) :
    site.generator.outputs site.unit = .ok (site.result registry).place.paths ∧
      GivesAll (site.result registry).place.paths (site.generator.generate site.unit registry) := by
  rw [place_result]
  obtain ⟨place, generator, unit⟩ := site
  obtain ⟨⟨placed, _⟩, triggered⟩ := mem_sites_iff.mp member
  have known := List.mem_of_getElem? placed
  cases unit with
  | none =>
    have announced : generator.outputs none = .ok (FilePlace.of generator.name "").paths := by
      have some := aggregate_outputs generator known triggered.1
      cases given : generator.outputs none with
      | error failure =>
        rw [given] at some
        cases some
      | ok paths =>
        rw [given] at some
        exact congrArg Except.ok (Option.some.inj some)
    exact ⟨announced, givesAll_aggregate known triggered.1 announced⟩
  | some declared =>
    have announced := unit_outputs known triggered.1 declared
    exact ⟨announced, givesAll_unit known triggered.1 triggered.2.2 announced⟩

/-- The paths of a generated result are those of its place. -/
theorem paths_of_generated (member : site ∈ sites registry allGenerators targets)
    (generated : (site.result registry).state = .generated) :
    (site.result registry).paths = (site.result registry).place.paths := by
  obtain ⟨announced, all⟩ := givesAll_site member
  obtain ⟨produced, _, success, made⟩ := Site.exists_produced_of_generated generated
  rcases all produced success with ⟨text, rfl⟩ | ⟨given, rfl, same⟩
  · exact paths_of_text announced made
  · have distinct := (site.result registry).place.paths_nodup
    rw [← same] at announced distinct ⊢
    have whole := made.symm.trans (files_of_announced announced)
    rw [UnitResult.paths, Except.ok.inj whole, OrderedMap.keys_ofList]
    exact eraseDups_eq_self distinct

private theorem paths_ne_nil_of_site (member : site ∈ sites registry allGenerators targets) :
    (site.result registry).place.paths ≠ [] := by
  rw [place_result]
  obtain ⟨place, generator, unit⟩ := site
  obtain ⟨⟨placed, _⟩, _⟩ := mem_sites_iff.mp member
  exact paths_ne_nil (List.mem_of_getElem? placed) _

theorem nodup_paths (registry : Registry) (site : Site) : (site.result registry).paths.Nodup := by
  have answers := answers_result registry site
  rcases answers.state with generated | ended
  · obtain ⟨produced, _, _, made⟩ := Site.exists_produced_of_generated generated
    exact nodup_of_files made
  · rw [UnitResult.paths, answers.empty ended]
    exact List.nodup_nil

variable (wellNamed : WellNamed registry)

include wellNamed

private theorem plain_place (member : site ∈ sites registry allGenerators targets) :
    (site.result registry).place.Plain := by
  rw [place_result]
  apply plain_of
  obtain ⟨place, generator, unit⟩ := site
  cases unit with
  | none => rfl
  | some declared =>
    obtain ⟨_, triggered⟩ := mem_sites_iff.mp member
    exact (wellNamed declared triggered.2.1).2

/-- Two results have a path in common exactly if both are generated and have the same place. -/
theorem common_path_iff {other : Site} (member : site ∈ sites registry allGenerators targets)
    (listed : other ∈ sites registry allGenerators targets) :
    (∃ path ∈ (site.result registry).paths, path ∈ (other.result registry).paths) ↔
      (site.result registry).state = .generated ∧ (other.result registry).state = .generated ∧
        (site.result registry).place = (other.result registry).place := by
  constructor
  · rintro ⟨path, mine, theirs⟩
    have generated {site : Site} (inside : path ∈ (site.result registry).paths) :
        (site.result registry).state = .generated := by
      obtain ⟨file, produced, _⟩ := List.mem_map.mp inside
      exact Site.generated_of_mem_files produced
    refine ⟨generated mine, generated theirs, ?_⟩
    rw [paths_of_generated member (generated mine)] at mine
    rw [paths_of_generated listed (generated theirs)] at theirs
    exact (belongs_of_mem_paths (plain_place wellNamed member) mine).unique
      (belongs_of_mem_paths (plain_place wellNamed listed) theirs)
  · rintro ⟨mine, theirs, same⟩
    obtain ⟨path, rest, paths⟩ := List.exists_cons_of_ne_nil (paths_ne_nil_of_site member)
    have first : path ∈ (site.result registry).place.paths := paths ▸ List.mem_cons_self
    rw [paths_of_generated member mine, paths_of_generated listed theirs]
    exact ⟨path, first, same ▸ first⟩

end Results

section Runs

variable {registry : Registry} {targets : List String} {workers : Int} {choices : Nat → Nat}
  {finished : Run}

/-- A run has as many files as all its results together exactly if no two of them have a path in
common. -/
theorem length_files_eq_sum_iff
    (returned : run registry allGenerators targets workers choices = .ok finished) :
    finished.outcome.files.length = (finished.outcome.results.map (·.files.length)).sum ↔
      finished.outcome.results.Pairwise fun first second =>
        ¬∃ path ∈ first.paths, path ∈ second.paths := by
  have merged : finished.outcome.files =
      OrderedMap.merge (finished.outcome.results.map UnitResult.files) := by
    rw [RunResult.files, OrderedMap.merge, List.foldl_map]
  have distinct : ∀ files ∈ finished.outcome.results.map UnitResult.files,
      (files.map Prod.fst).Nodup := by
    rw [results_of_run returned, List.map_map]
    intro files listed
    obtain ⟨site, _, rfl⟩ := List.mem_map.mp listed
    exact nodup_paths registry site
  have whole := OrderedMap.length_merge_eq_sum_iff distinct
  rw [← merged, List.map_map, List.pairwise_map] at whole
  refine whole.trans (List.Pairwise.iff fun first second => ?_)
  rw [OrderedMap.Apart, not_exists]
  exact forall_congr' fun path => not_and.symm

end Runs

/-- Two results write to the same place. -/
def Collide (first second : UnitResult) : Prop :=
  first.state = .generated ∧ second.state = .generated ∧ first.place = second.place

/-- In every run over all generators for a registry that is loaded, two results have a path in common
exactly if both are generated and have the same place; and the run has as many files as all its
results together exactly if no two of them do. -/
theorem overwritten_iff_same_place {main : String} {libraries : List String} {registry : Registry}
    (loaded : loadTexts main libraries = .ok registry) (targets : List String) (workers : Int)
    (choices : Nat → Nat) :
    ∃ finished, run registry allGenerators targets workers choices = .ok finished ∧
      (∀ first ∈ finished.outcome.results, ∀ second ∈ finished.outcome.results,
        (∃ path ∈ first.paths, path ∈ second.paths) ↔ Collide first second) ∧
      (finished.outcome.files.length = (finished.outcome.results.map (·.files.length)).sum ↔
        finished.outcome.results.Pairwise fun first second => ¬Collide first second) := by
  have wellNamed := wellNamed_of_loadTexts loaded
  obtain ⟨finished, returned⟩ := exists_run registry targets workers choices
  have common : ∀ first ∈ finished.outcome.results, ∀ second ∈ finished.outcome.results,
      (∃ path ∈ first.paths, path ∈ second.paths) ↔ Collide first second := by
    rw [results_of_run returned]
    intro first mine second theirs
    obtain ⟨site, member, rfl⟩ := List.mem_map.mp mine
    obtain ⟨other, listed, rfl⟩ := List.mem_map.mp theirs
    exact common_path_iff wellNamed member listed
  refine ⟨finished, returned, common, (length_files_eq_sum_iff returned).trans ?_⟩
  exact List.Pairwise.iff_of_mem fun mine theirs => not_congr (common _ mine _ theirs)

/-- A design with two entities whose names differ in case alone. -/
def twins : String := "Entity Order end Entity order end"

theorem overwritten_iff_same_place_twins : ∃ registry, loadTexts twins [] = .ok registry ∧
    ∃ finished, run registry allGenerators ["server", "client"] 2 id = .ok finished ∧
      (∀ first ∈ finished.outcome.results, ∀ second ∈ finished.outcome.results,
        (∃ path ∈ first.paths, path ∈ second.paths) ↔ Collide first second) ∧
      (finished.outcome.files.length = (finished.outcome.results.map (·.files.length)).sum ↔
        finished.outcome.results.Pairwise fun first second => ¬Collide first second) := by
  have accepted : (loadTexts twins []).toOption.isSome = true := by decide +kernel
  cases loaded : loadTexts twins [] with
  | error failure =>
    rw [loaded] at accepted
    cases accepted
  | ok registry =>
    exact ⟨registry, rfl, overwritten_iff_same_place loaded ["server", "client"] 2 id⟩

/-- The unit is an entity of the main design that has a name and nothing else. -/
def isBare (name : String) (declared : Declared Design.Unit) : Bool :=
  !declared.isLibrary && declared.unit.entity?.any fun entity =>
    entity.name == name && entity.mixins.isEmpty && entity.properties.isEmpty

/-- The units are the two entities of the design. -/
def areTwins : List (Declared Design.Unit) → Bool
  | [first, second] => isBare "Order" first && isBare "order" second
  | _ => false

/-- An entity without mixins and properties has a file of forms. -/
theorem paths_of_bare (registry : Registry) {name : String} {declared : Declared Design.Unit}
    (plain : isBare name declared = true) :
    declared.kind = .entity ∧
      (Site.result registry ⟨0, Client.formGroupGenerator, some declared⟩).paths =
        [Client.formGroupPath name] := by
  rw [isBare, Bool.and_eq_true, Bool.not_eq_true', Option.any_eq_true] at plain
  obtain ⟨isMain, entity, shown, empty⟩ := plain
  simp only [Bool.and_eq_true, beq_iff_eq, List.isEmpty_iff] at empty
  obtain ⟨⟨rfl, unmixed⟩, bare⟩ := empty
  have controls : (Client.formControls registry entity).outcome =
      .ok (Client.controlsOf (Identity.of entity) [] [], []) := by
    simp only [Client.formControls, Step.outcome_bind, Identity.resolve_outcome, ok_bind,
      effectiveProperties, Unit.mixins, unmixed, List.isEmpty_nil, ↓reduceIte, Unit.properties, bare]
    rfl
  have given : ∃ text, (Client.formGroupGenerator.generate (some declared) registry).outcome =
      .ok (.text text) := by
    have same : (declared.withUnit entity).unit = entity := rfl
    simp only [Client.formGroupGenerator, onUnit, shown, Client.generateFormGroup, same,
      Step.outcome_bind, Identity.resolve_outcome, ok_bind, controls, Step.outcome_debug]
    exact ⟨_, rfl⟩
  have asked : Site.accepted registry ⟨0, Client.formGroupGenerator, some declared⟩ = .ok true := by
    have looks : Trigger.matches ⟨.entity, notLibrary⟩ declared = true := by
      rw [Trigger.matches, kind_of_entity? shown]
      rfl
    simp only [Site.accepted, Generator.triggerFor?, Client.formGroupGenerator,
      List.find?_singleton, looks, ↓reduceIte, notLibrary, isMain]
    rfl
  have announced : Client.formGroupGenerator.outputs (some declared) =
      .ok [Client.formGroupPath entity.name] := by
    rw [← name_of_entity? shown]
    rfl
  obtain ⟨text, given⟩ := given
  refine ⟨kind_of_entity? shown, ?_⟩
  rw [UnitResult.paths, (Site.generated_of_text _ asked announced given).2]
  rfl

/-- Both entities of the design are written to one file of forms. -/
theorem twins_overwritten : ∃ registry, loadTexts twins [] = .ok registry ∧
    ∃ finished, run registry allGenerators ["server", "client"] 2 id = .ok finished ∧
      ¬finished.outcome.results.Pairwise (fun first second =>
        ¬∃ path ∈ first.paths, path ∈ second.paths) ∧
      finished.outcome.files.length ≠ (finished.outcome.results.map (·.files.length)).sum := by
  have read : ((loadTexts twins []).toOption.any fun registry => areTwins registry.units) = true := by
    decide +kernel
  cases loaded : loadTexts twins [] with
  | error failure =>
    rw [loaded] at read
    cases read
  | ok registry =>
    rw [loaded] at read
    obtain ⟨finished, returned⟩ := exists_run registry ["server", "client"] 2 id
    have common : ¬finished.outcome.results.Pairwise (fun first second =>
        ¬∃ path ∈ first.paths, path ∈ second.paths) := by
      intro apart
      simp only [Except.toOption, Option.any_some] at read
      unfold areTwins at read
      split at read
      · rename_i first second units
        rw [Bool.and_eq_true] at read
        obtain ⟨entity, mine⟩ := paths_of_bare registry read.1
        obtain ⟨other, theirs⟩ := paths_of_bare registry read.2
        have entities : registry.ofKind .entity = [first, second] := by
          simp [Registry.ofKind, units, entity, other]
        have forms := apart.filter (·.generator == Client.formGroupGenerator.name)
        have known : Client.formGroupGenerator ∈ entityGenerators := by simp [entityGenerators]
        have listed := results_of_entities returned known (by decide)
        rw [entities, RunResult.of] at listed
        rw [listed, List.map_cons, List.pairwise_cons] at forms
        refine forms.1 _ List.mem_cons_self ⟨Client.formGroupPath "order", ?_, ?_⟩
        · have same : Client.formGroupPath "Order" = Client.formGroupPath "order" := by
            decide
          rw [mine, same]
          exact List.mem_cons_self
        · rw [theirs]
          exact List.mem_cons_self
      · cases read
    refine ⟨registry, rfl, finished, returned, common, ?_⟩
    exact fun whole => common ((length_files_eq_sum_iff returned).mp whole)

end Blueprint.Generation
