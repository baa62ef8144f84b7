import Blueprint.Proofs.Generation.Results
import Blueprint.Proofs.Generation.Skipping
import Blueprint.Proofs.Generation.Triggering

namespace Blueprint.Generation

/-- A run has a file at a path. -/
def RunResult.Holds (outcome : RunResult) (path : String) : Prop :=
  path ∈ outcome.files.map Prod.fst

theorem RunResult.holds_of_mem {outcome : RunResult} {result : UnitResult} {path : String}
    (listed : result ∈ outcome.results) (produced : path ∈ result.files.map Prod.fst) :
    outcome.Holds path := by
  have general (results : List UnitResult) (files : List (String × String))
      (there : path ∈ files.map Prod.fst ∨ result ∈ results) :
      path ∈ (results.foldl (fun files result => OrderedMap.putAll files result.files) files).map
        Prod.fst := by
    induction results generalizing files with
    | nil => exact there.resolve_right List.not_mem_nil
    | cons first results ih =>
      apply ih
      rcases there with earlier | mine
      · exact Or.inl (OrderedMap.mem_keys_putAll_of_mem (Or.inl earlier))
      · rcases List.mem_cons.mp mine with rfl | later
        · exact Or.inl (OrderedMap.mem_keys_putAll_of_mem (Or.inr produced))
        · exact Or.inr later
  exact general outcome.results [] (Or.inr listed)

/-- Every file of a run comes from one of its results. -/
theorem RunResult.exists_result_of_mem_files {outcome : RunResult} {file : String × String}
    (listed : file ∈ outcome.files) : ∃ result ∈ outcome.results, file ∈ result.files := by
  have general (results : List UnitResult) (files : List (String × String))
      (inside : file ∈ results.foldl (fun files result => OrderedMap.putAll files result.files) files) :
      file ∈ files ∨ ∃ result ∈ results, file ∈ result.files := by
    induction results generalizing files with
    | nil => exact Or.inl inside
    | cons first results ih =>
      rcases ih _ inside with earlier | ⟨result, later, mine⟩
      · rcases OrderedMap.mem_putAll earlier with old | new
        · exact Or.inl old
        · exact Or.inr ⟨first, List.mem_cons_self, new⟩
      · exact Or.inr ⟨result, List.mem_cons_of_mem _ later, mine⟩
  exact (general outcome.results [] listed).resolve_left List.not_mem_nil

section Files

variable {generator : Generator} {unit : Option (Declared Design.Unit)}

theorem files_text {path text : String} (announced : generator.outputs unit = .ok [path]) :
    generator.files unit (.text text) = .ok [(path, text)] := by
  simp only [Generator.files, announced, ok_bind]
  rfl

/-- Files that are given at the announced paths are all made. -/
theorem files_of_announced {given : List (String × String)}
    (announced : generator.outputs unit = .ok (given.map Prod.fst)) :
    generator.files unit (.files given) = .ok (OrderedMap.ofList given) := by
  have declared :
      (given.map (·.1)).filter (fun path => !(given.map Prod.fst).contains path) = [] := by
    rw [List.filter_eq_nil_iff]
    intro path listed
    simpa using listed
  simp only [Generator.files, announced, ok_bind, declared, List.isEmpty_nil, ↓reduceIte]
  rfl

/-- Files that are given by their paths lose none of these. -/
theorem mem_paths_of_files {given files : List (String × String)}
    (made : generator.files unit (.files given) = .ok files) {path : String}
    (listed : path ∈ given.map Prod.fst) : path ∈ files.map Prod.fst := by
  obtain ⟨_, _, made⟩ := bind_eq_ok_iff.mp made
  simp only at made
  split at made
  · cases made
    exact OrderedMap.mem_keys_putAll_of_mem (Or.inr listed)
  · cases made

theorem neverSkips_files {paths : List String} (announced : generator.outputs unit = .ok paths)
    (produced : Produced) : NeverSkips (generator.files unit produced) := by
  simp only [Generator.files, announced, ok_bind]
  cases produced with
  | text content =>
    simp only
    split
    · exact .ok _
    · exact nofun
  | files given =>
    simp only
    split
    · exact .ok _
    · exact nofun

end Files

/-- The result of a site that is accepted is the end of its task. -/
theorem Site.result_of_accepted {registry : Registry} {site : Site}
    (accepted : site.accepted registry = .ok true) :
    site.result registry = (site.task.close (site.generator.generate site.unit registry).notes
      (site.generator.generate site.unit registry).outcome).result := by
  unfold Site.result
  rw [accepted]
  rfl

/-- The result of a site that is accepted and whose files are made. -/
theorem Site.result_of_made {registry : Registry} {site : Site}
    (accepted : site.accepted registry = .ok true) {files : List (String × String)}
    (made : (site.generator.generate site.unit registry).outcome >>=
      site.generator.files site.unit = .ok files) :
    site.result registry = { site.task.blank with
      state := .generated, files
      diagnostics := diagnosticsOf site.task.blank.generator site.task.blank.unit
        (site.generator.generate site.unit registry).notes } := by
  rw [Site.result_of_accepted accepted]
  simp only [Task.close, Site.task, made]

/-- A site that is accepted and gives one text is generated, with the one file that is announced. -/
theorem Site.generated_of_text {registry : Registry} (site : Site)
    (accepted : site.accepted registry = .ok true) {path text : String}
    (announced : site.generator.outputs site.unit = .ok [path])
    (given : (site.generator.generate site.unit registry).outcome = .ok (.text text)) :
    (site.result registry).state = .generated ∧ (site.result registry).files = [(path, text)] := by
  have made : (site.generator.generate site.unit registry).outcome >>=
      site.generator.files site.unit = .ok [(path, text)] := by
    rw [given, ok_bind, files_text announced]
  rw [Site.result_of_made accepted made]
  exact ⟨rfl, rfl⟩

/-- A site that is accepted and whose generator fails has failed, unless this is a reason to skip
it. -/
theorem Site.failed_of_raised {registry : Registry} (site : Site)
    (accepted : site.accepted registry = .ok true) {failure : Failure}
    (raised : (site.generator.generate site.unit registry).outcome = .error failure)
    (firm : NeverSkips (site.generator.generate site.unit registry).outcome) :
    (site.result registry).state = .failed ∧ (site.result registry).files = [] ∧
      (site.result registry).reason =
        some (failure.message (site.generator.wording site.unit failure)) := by
  have ran : site.result registry = (failedResult site.task.blank
      (site.generator.generate site.unit registry).notes failure
      (site.generator.wording site.unit failure)).result := by
    rw [Site.result_of_accepted accepted, raised]
    simp only [Task.close, error_bind]
    split
    · rename_i same
      cases same
    · rename_i reason same
      exact absurd same (firm.of_error raised reason)
    · rename_i other _ same
      cases same
      rfl
  rw [ran]
  exact ⟨rfl, rfl, rfl⟩

/-- A generated site is accepted, and its files are those of what its generator produces. -/
theorem Site.exists_produced_of_generated {registry : Registry} {site : Site}
    (generated : (site.result registry).state = .generated) : ∃ produced,
      site.accepted registry = .ok true ∧
      (site.generator.generate site.unit registry).outcome = .ok produced ∧
      site.generator.files site.unit produced = .ok (site.result registry).files := by
  cases accepted : site.accepted registry with
  | error failure =>
    rw [Site.result, accepted] at generated
    cases generated
  | ok accepts =>
    cases accepts with
    | false =>
      rw [Site.result, accepted] at generated
      cases generated
    | true =>
      rw [Site.result_of_accepted accepted] at generated ⊢
      rcases close_cases site.task (site.generator.generate site.unit registry).notes
        (site.generator.generate site.unit registry).outcome with
        ⟨files, made, same⟩ | ⟨reason, same⟩ | ⟨failure, _, same⟩
      · rw [same]
        obtain ⟨produced, given, made⟩ := bind_eq_ok_iff.mp made
        exact ⟨produced, rfl, given, made⟩
      · rw [same] at generated
        cases generated
      · rw [same] at generated
        cases generated

/-- Only generated sites have files. -/
theorem Site.generated_of_mem_files {registry : Registry} {site : Site} {file : String × String}
    (listed : file ∈ (site.result registry).files) : (site.result registry).state = .generated := by
  have answers := answers_result registry site
  rcases answers.state with generated | ended
  · exact generated
  · rw [answers.empty ended] at listed
    cases listed

/-- The files of a site come from what its generator produces for a unit that it accepts. -/
theorem Site.exists_produced_of_mem_files {registry : Registry} {site : Site}
    {file : String × String} (listed : file ∈ (site.result registry).files) : ∃ produced files,
      site.accepted registry = .ok true ∧
      (site.generator.generate site.unit registry).outcome = .ok produced ∧
      site.generator.files site.unit produced = .ok files ∧ file ∈ files := by
  obtain ⟨produced, accepted, given, made⟩ :=
    Site.exists_produced_of_generated (Site.generated_of_mem_files listed)
  exact ⟨produced, _, accepted, given, made, listed⟩

/-- A run over all generators, without a failure. -/
structure Completes (registry : Registry) (targets : List String) (outcome : RunResult) : Prop where
  server : "server" ∈ targets
  client : "client" ∈ targets
  results : outcome.results = (sites registry allGenerators targets).map (Site.result registry)
  unfailed : ∀ result ∈ outcome.results, result.state ≠ .failed

namespace Completes

variable {registry : Registry} {targets : List String} {outcome : RunResult}

theorem of_run {workers : Int} {choices : Nat → Nat} {finished : Run}
    (returned : run registry allGenerators targets workers choices = .ok finished)
    (server : "server" ∈ targets) (client : "client" ∈ targets)
    (ended : finished.outcome.ok = true) : Completes registry targets finished.outcome where
  server := server
  client := client
  results := results_of_run returned
  unfailed := by
    intro result listed failed
    rw [RunResult.ok, RunResult.inState, List.isEmpty_iff, List.filter_eq_nil_iff] at ended
    exact ended result listed (by simp [failed])

private theorem mem_targets (completes : Completes registry targets outcome) {generator : Generator}
    (listed : generator ∈ allGenerators) : generator.target ∈ targets := by
  have either : ∀ generator ∈ allGenerators,
      generator.target = "server" ∨ generator.target = "client" := by decide
  rcases either generator listed with server | client
  · exact server ▸ completes.server
  · exact client ▸ completes.client

/-- A site that is accepted and is not skipped ends with what its generator produces. -/
theorem result_of_accepted (completes : Completes registry targets outcome) {site : Site}
    (member : site ∈ sites registry allGenerators targets)
    (accepted : site.accepted registry = .ok true)
    {paths : List String} (announced : site.generator.outputs site.unit = .ok paths)
    (firm : NeverSkips (site.generator.generate site.unit registry).outcome) :
    ∃ produced files, (site.generator.generate site.unit registry).outcome = .ok produced ∧
      site.generator.files site.unit produced = .ok files ∧ (site.result registry).files = files ∧
      ∀ path ∈ files.map Prod.fst, outcome.Holds path := by
  have ran := Site.result_of_accepted accepted
  have listed : site.result registry ∈ outcome.results := by
    rw [completes.results]
    exact List.mem_map_of_mem member
  have firm := firm.bind (neverSkips_files announced)
  have unfailed := completes.unfailed _ listed
  rw [ran] at unfailed
  rcases ended : (site.generator.generate site.unit registry).outcome >>=
    site.generator.files site.unit with failure | files
  · -- A failure that is no reason to skip would have failed the site.
    have failed : (site.task.close (site.generator.generate site.unit registry).notes
        (site.generator.generate site.unit registry).outcome).result.state = .failed := by
      simp only [Task.close, Site.task, ended]
      split
      · rename_i same
        cases same
      · rename_i reason same
        exact absurd (ended.trans same) (firm reason)
      · rfl
    exact absurd failed unfailed
  · obtain ⟨produced, given, made⟩ := bind_eq_ok_iff.mp ended
    have kept : (site.result registry).files = files := by
      rw [ran]
      simp only [Task.close, Site.task, ended]
    refine ⟨produced, files, given, made, kept, fun path inside => ?_⟩
    exact RunResult.holds_of_mem listed (kept ▸ inside)

section Unit

variable {α : Type} {view : Design.Unit → Option α} {run : Declared α → Registry → Step Produced}
  {generator : Generator} {trigger : Trigger} {item : Declared α}

/-- A generator of units ends with its files for whatever its trigger accepts. -/
theorem holds_of_listed (completes : Completes registry targets outcome)
    (known : generator ∈ allGenerators) (separate : generator.isAggregate = false)
    (single : generator.triggers = [trigger]) (runs : generator.generate = onUnit view run)
    (listed : item ∈ registry.list view)
    (accepts : ∀ declared, view declared.unit = some item.unit → declared.withUnit item.unit = item →
      trigger.matches declared = true ∧ trigger.accepts declared registry = .ok true)
    {paths : String → List String} (announced : generator.outputs = byName paths)
    (firm : NeverSkips (run item registry).outcome) :
    ∃ declared produced files, view declared.unit = some item.unit ∧
      (run item registry).outcome = .ok produced ∧
      generator.files (some declared) produced = .ok files ∧
      ∀ path ∈ files.map Prod.fst, outcome.Holds path := by
  obtain ⟨declared, member, shown, same⟩ := unit_of_mem_list listed
  obtain ⟨looks, accepted⟩ := accepts declared shown same
  obtain ⟨place, placed⟩ := List.mem_iff_getElem?.mp known
  have triggered : generator.triggerFor? declared = some trigger := by
    rw [Generator.triggerFor?, single, List.find?_singleton, if_pos looks]
  have site : ⟨place, generator, some declared⟩ ∈ sites registry allGenerators targets :=
    mem_sites_iff.mpr ⟨⟨placed, completes.mem_targets known⟩, separate, member, by rw [triggered]; rfl⟩
  have here : generator.generate (some declared) registry = run item registry := by
    rw [runs, onUnit]
    simp only [shown, same]
  obtain ⟨produced, files, given, made, _, held⟩ := completes.result_of_accepted site
    (by simp only [Site.accepted, triggered, accepted])
    (by rw [announced]; rfl) (by simp only [here]; exact firm)
  exact ⟨declared, produced, files, shown, here ▸ given, made, held⟩

/-- So does a generator of one text, whose path has the name of the unit. -/
theorem holds_text_of_listed (completes : Completes registry targets outcome)
    (known : generator ∈ allGenerators) (separate : generator.isAggregate = false)
    (single : generator.triggers = [trigger]) (runs : generator.generate = onUnit view run)
    (listed : item ∈ registry.list view)
    (accepts : ∀ declared, view declared.unit = some item.unit → declared.withUnit item.unit = item →
      trigger.matches declared = true ∧ trigger.accepts declared registry = .ok true)
    {path : String → String} (announced : generator.outputs = byName fun name => [path name])
    {name : String} (named : ∀ declared : Declared Design.Unit,
      view declared.unit = some item.unit → declared.name = name)
    (firm : NeverSkips (run item registry).outcome)
    (plain : ∀ produced, (run item registry).outcome = .ok produced → ∃ text, produced = .text text) :
    outcome.Holds (path name) := by
  obtain ⟨declared, produced, files, shown, given, made, held⟩ :=
    completes.holds_of_listed known separate single runs listed accepts announced firm
  obtain ⟨text, rfl⟩ := plain produced given
  have here : generator.outputs (some declared) = .ok [path name] := by
    rw [announced, byName, named declared shown]
  cases (files_text here).symm.trans made
  exact held (path name) List.mem_cons_self

end Unit

/-- An aggregate of one text ends with its file if one of its triggers accepts a unit. -/
theorem holds_of_aggregate (completes : Completes registry targets outcome) {generator : Generator}
    (known : generator ∈ allGenerators) (aggregate : generator.isAggregate = true)
    (accepts : generator.SomeAccepts registry) {path : String}
    (announced : generator.outputs none = .ok [path])
    (firm : NeverSkips (generator.generate none registry).outcome)
    (plain : ∀ produced, (generator.generate none registry).outcome = .ok produced →
      ∃ text, produced = .text text) : outcome.Holds path := by
  obtain ⟨place, placed⟩ := List.mem_iff_getElem?.mp known
  have site : ⟨place, generator, none⟩ ∈ sites registry allGenerators targets :=
    mem_sites_iff.mpr ⟨⟨placed, completes.mem_targets known⟩, aggregate, Or.inr accepts⟩
  obtain ⟨produced, files, given, made, _, held⟩ := completes.result_of_accepted site rfl announced firm
  obtain ⟨text, rfl⟩ := plain produced given
  cases (files_text announced).symm.trans made
  exact held path List.mem_cons_self

end Completes

end Blueprint.Generation
