import Mathlib.Data.List.Forall2
import Blueprint.Proofs.Generation.Sites

namespace Blueprint.Generation

/-- What was raised at a site: by the condition of its trigger, by the generator, or by the check of
what the generator produced. -/
def Site.Raised (registry : Registry) (site : Site) (failure : Failure) : Prop :=
  site.accepted registry = .error failure ∨
    site.accepted registry = .ok true ∧
      ((site.generator.generate site.unit registry).outcome >>= site.generator.files site.unit) =
        .error failure

/-- The number of errors among notes. -/
def errorCount (notes : List Note) : Nat := notes.countP (·.level == .error)

/-- The number of errors that the generator noted at a site; it is called only where its trigger
accepts. -/
def Site.errorsNoted (registry : Registry) (site : Site) : Nat :=
  match site.accepted registry with
  | .ok true => errorCount (site.generator.generate site.unit registry).notes
  | _ => 0

/-- What the interpreter says of its own errors: for a generator by its name, a unit and an error. -/
abbrev Wordings : Type := String → Option (Declared Design.Unit) → Failure → String

/-- The wording of a failure at a site: its own, or the interpreter's if that words it. -/
def Site.wording (wordings : Wordings) (site : Site) (failure : Failure) : String :=
  failure.message?.getD (wordings site.generator.name site.unit failure)

/-- The reason is the wording of a failure, and so is the report behind the name of the failure's
kind; a design error is reported without it. -/
def Reports (failure : Failure) (wording reason report : String) : Prop :=
  reason = wording ∧
    report = if failure.isDesign then wording else failure.kindName ++ ": " ++ wording

/-- The names, the state and the files of the result of a site. -/
structure Answers (site : Site) (result : UnitResult) : Prop where
  generator : result.generator = site.generator.name
  unit : result.unit = site.unit.map Declared.name
  kind : result.kind = site.unit.map Declared.kind
  state : result.state = .generated ∨ result.state = .skipped ∨ result.state = .failed
  announced : result.state = .generated →
    ∃ paths, site.generator.outputs site.unit = .ok paths ∧
      ∀ path ∈ result.files.map Prod.fst, path ∈ paths
  empty : result.state = .skipped ∨ result.state = .failed → result.files = []

/-- The result of a site as a run promises it. -/
structure Conforms (registry : Registry) (wordings : Wordings) (site : Site)
    (result : UnitResult) : Prop extends Answers site result where
  reported : result.state = .failed →
    ∃ failure reason earlier report, site.Raised registry failure ∧ result.reason = some reason ∧
      Reports failure (site.wording wordings failure) reason report ∧ result.diagnostics = earlier ++
        [⟨.error, report, named? result.generator, result.unit.bind named?⟩]
  counted : result.state = .failed →
    result.diagnostics.countP (·.level == .error) = site.errorsNoted registry + 1

/-- The generator of a site is told the wordings of the interpreter. -/
def Site.IsTold (wordings : Wordings) (site : Site) : Prop :=
  ∀ failure, site.generator.wording site.unit failure =
    some (wordings site.generator.name site.unit failure)

private theorem isTold_of_mem_sites {registry : Registry} {wordings : Wordings}
    {generators : List Generator} {targets : List String} {site : Site}
    (member : site ∈ sites registry (generators.map (Generator.told wordings)) targets) :
    site.IsTold wordings := by
  obtain ⟨placed, selected, inside⟩ := List.mem_flatMap.mp member
  obtain ⟨generator, _, told⟩ := List.mem_map.mp
    (List.fst_mem_of_mem_zipIdx (List.mem_filter.mp selected).1)
  intro failure
  rw [← (of_mem_sitesOf inside).1, ← told]
  rfl

private theorem reports_of_isTold {wordings : Wordings} {site : Site} (told : site.IsTold wordings)
    (failure : Failure) :
    Reports failure (site.wording wordings failure)
      (failure.message (site.generator.wording site.unit failure))
      (failure.report (site.generator.wording site.unit failure)) := by
  unfold Reports Site.wording Failure.message Failure.report
  rw [told failure]
  cases failure.message? with
  | none => exact ⟨rfl, rfl⟩
  | some wording => exact ⟨rfl, rfl⟩

/-- Only announced paths are produced. -/
theorem files_announced {generator : Generator} {unit : Option (Declared Design.Unit)}
    {produced : Produced} {files : List (String × String)}
    (success : generator.files unit produced = .ok files) :
    ∃ paths, generator.outputs unit = .ok paths ∧
      ∀ path ∈ files.map Prod.fst, path ∈ paths := by
  unfold Generator.files at success
  obtain ⟨paths, announced, success⟩ := bind_eq_ok_iff.mp success
  refine ⟨paths, announced, ?_⟩
  cases produced with
  | text content =>
    simp only at success
    split at success
    · cases success
      simp
    · cases success
  | files given =>
    simp only at success
    split at success
    · rename_i allDeclared
      cases success
      intro path member
      have listed := OrderedMap.mem_keys_ofList member
      simp only [List.isEmpty_iff, List.filter_eq_nil_iff] at allDeclared
      simpa using allDeclared path listed
    · cases success

private theorem countP_diagnosticsOf (generator : String) (unit : Option String)
    (notes : List Note) :
    (diagnosticsOf generator unit notes).countP (·.level == .error) = errorCount notes := by
  rw [diagnosticsOf, List.countP_map, List.countP_filter, errorCount]
  apply List.countP_congr
  intro note _
  cases level : note.level <;> simp [level]

/-- The end of a task: files, a reason to skip it, or a failure. -/
theorem close_cases (task : Task) (notes : List Note) (outcome : Except Failure Produced) :
    (∃ files, outcome >>= task.generator.files task.unit = .ok files ∧
      (task.close notes outcome).result = { task.blank with
        state := .generated, files
        diagnostics := diagnosticsOf task.blank.generator task.blank.unit notes }) ∨
    (∃ reason, (task.close notes outcome).result = { task.blank with
        state := .skipped, reason := some reason
        diagnostics := diagnosticsOf task.blank.generator task.blank.unit notes }) ∨
    ∃ failure, outcome >>= task.generator.files task.unit = .error failure ∧
      (task.close notes outcome).result = (failedResult task.blank notes failure
        (task.generator.wording task.unit failure)).result := by
  unfold Task.close
  split
  · rename_i files made
    exact Or.inl ⟨files, made, rfl⟩
  · rename_i reason made
    exact Or.inr (Or.inl ⟨reason, rfl⟩)
  · rename_i failure _ made
    exact Or.inr (Or.inr ⟨failure, made, rfl⟩)

theorem answers_result (registry : Registry) (site : Site) :
    Answers site (site.result registry) := by
  unfold Site.result
  cases site.accepted registry with
  | error failure => exact ⟨rfl, rfl, rfl, Or.inr (Or.inr rfl), nofun, fun _ => rfl⟩
  | ok accepted =>
    cases accepted with
    | false => exact ⟨rfl, rfl, rfl, Or.inr (Or.inl rfl), nofun, fun _ => rfl⟩
    | true =>
      change Answers site (site.task.close _ _).result
      rcases close_cases site.task (site.task.generator.generate site.task.unit registry).notes
          (site.task.generator.generate site.task.unit registry).outcome with
        ⟨files, made, same⟩ | ⟨reason, same⟩ | ⟨failure, made, same⟩
      · obtain ⟨produced, _, checked⟩ := bind_eq_ok_iff.mp made
        rw [same]
        exact ⟨rfl, rfl, rfl, Or.inl rfl, fun _ => files_announced checked, nofun⟩
      · rw [same]
        exact ⟨rfl, rfl, rfl, Or.inr (Or.inl rfl), nofun, fun _ => rfl⟩
      · rw [same]
        exact ⟨rfl, rfl, rfl, Or.inr (Or.inr rfl), nofun, fun _ => rfl⟩

/-- A failed site says what was raised there, behind what its generator noted. -/
theorem failed_result {registry : Registry} {site : Site}
    (failed : (site.result registry).state = .failed) : ∃ failure notes,
      site.Raised registry failure ∧ errorCount notes = site.errorsNoted registry ∧
      site.result registry = (failedResult site.task.blank notes failure
        (site.generator.wording site.unit failure)).result := by
  unfold Site.result at failed ⊢
  cases asked : site.accepted registry with
  | error failure =>
    exact ⟨failure, [], Or.inl asked, by simp [Site.errorsNoted, asked, errorCount], rfl⟩
  | ok accepted =>
    rw [asked] at failed
    cases accepted with
    | false => cases failed
    | true =>
      change (site.task.close _ _).result.state = _ at failed
      change ∃ failure notes, _ ∧ _ ∧ (site.task.close _ _).result = _
      rcases close_cases site.task (site.task.generator.generate site.task.unit registry).notes
          (site.task.generator.generate site.task.unit registry).outcome with
        ⟨_, _, same⟩ | ⟨_, same⟩ | ⟨failure, made, same⟩
      · rw [same] at failed
        cases failed
      · rw [same] at failed
        cases failed
      · exact ⟨failure, _, Or.inr ⟨asked, made⟩, by simp [Site.errorsNoted, asked, Site.task], same⟩

/-- The result of every site conforms. -/
theorem conforms_result (registry : Registry) {wordings : Wordings} {site : Site}
    (told : site.IsTold wordings) : Conforms registry wordings site (site.result registry) where
  toAnswers := answers_result registry site
  reported := by
    intro failed
    obtain ⟨failure, notes, raised, _, same⟩ := failed_result failed
    rw [same]
    refine ⟨failure, _, diagnosticsOf site.task.blank.generator site.task.blank.unit notes, _,
      raised, rfl, reports_of_isTold told failure, ?_⟩
    simp only [failedResult, diagnosticsOf, List.filter_append, List.map_append]
    rfl
  counted := by
    intro failed
    obtain ⟨failure, notes, _, noted, same⟩ := failed_result failed
    rw [same]
    change (diagnosticsOf _ _ _).countP _ = _
    rw [countP_diagnosticsOf, ← noted]
    simp [errorCount]

/-- The results of a run that returns: generator by generator in the order of declaration, and
within one unit by unit, one for each site, as promised; in any wordings of the interpreter, which the
run is told. -/
theorem run_results_conform {registry : Registry} {generators : List Generator}
    {targets : List String} {workers : Int} {choices : Nat → Nat} {wordings : Wordings}
    {finished : Run} (returned : run registry (generators.map (Generator.told wordings)) targets
      workers choices = .ok finished) :
    List.Forall₂ (Conforms registry wordings)
      (sites registry (generators.map (Generator.told wordings)) targets)
      finished.outcome.results := by
  rw [results_of_run returned, List.forall₂_map_right_iff, List.forall₂_same]
  intro site member
  exact conforms_result registry (isTold_of_mem_sites member)

/-- Two entities. -/
def shop : Registry where
  units := [⟨.entity { offset := 0, name := "Order" }, false, none, 0⟩,
    ⟨.entity { offset := 0, name := "Item" }, false, none, 1⟩]
  distinct := by decide

/-- A generator that reports an error for every entity and cannot read the code of one of them. -/
def sheets : Generator where
  name := "sheets"
  target := "server"
  triggers := [⟨.entity, fun _ _ => .ok true⟩]
  outputs := byName fun name => [name ++ ".txt"]
  generate := fun unit _ => do
    Step.note .error "no columns"
    if unit.map Declared.name == some "Order" then Step.fail .unreadableCode
    return .text ""

/-- An interpreter that says one thing of all errors. -/
def terse : Wordings := fun _ _ _ => "invalid syntax"

theorem run_results_conform_shop : ∃ finished,
    run shop ([sheets].map (Generator.told terse)) ["server"] 2 id = .ok finished ∧
    finished.outcome.results.map (·.reason) = [some "invalid syntax", none] ∧
    List.Forall₂ (Conforms shop terse) (sites shop ([sheets].map (Generator.told terse)) ["server"])
      finished.outcome.results := by
  have reasons : ((run shop ([sheets].map (Generator.told terse)) ["server"] 2 id).map
      fun finished => finished.outcome.results.map (·.reason)) =
      .ok [some "invalid syntax", none] := by
    decide +kernel
  cases returned : run shop ([sheets].map (Generator.told terse)) ["server"] 2 id with
  | error failure =>
    rw [returned] at reasons
    cases reasons
  | ok finished =>
    rw [returned] at reasons
    exact ⟨finished, rfl, Except.ok.inj reasons, run_results_conform returned⟩

end Blueprint.Generation
