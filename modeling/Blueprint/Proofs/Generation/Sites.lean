import Blueprint.Generation.Engine

/-!
Every schedule of a pool ends with the results of the tasks run one by one. A job holds what its
task has said so far, so a step of one job leaves the others where they are; a pool in which no job
can go on has finished them all.

The sites of a run are the generators with the units that they look at, in the order of declaration.
A run has one result for each of its sites, and that result is a function of the site alone.
-/

namespace Blueprint.Generation

namespace Job

variable {registry : Registry} {job : Job}

/-- What a job holds comes from its own task: it has said a first part of its notes, or its result
is that of the task run alone. -/
def Faithful (registry : Registry) (job : Job) : Prop :=
  let step := job.task.generator.generate job.task.unit registry
  match job.progress with
  | .waiting => True
  | .running said left outcome => said ++ left = step.notes ∧ outcome = step.outcome
  | .finished result => result = (job.task.run registry).result

@[simp] theorem task_advance : (job.advance registry).1.task = job.task := by
  unfold advance
  split <;> rfl

/-- A step of a job keeps it to its task. -/
theorem Faithful.advance (faithful : job.Faithful registry) :
    (job.advance registry).1.Faithful registry := by
  obtain ⟨task, progress⟩ := job
  cases progress with
  | waiting => exact ⟨rfl, rfl⟩
  | finished result => exact faithful
  | running said left outcome =>
    obtain ⟨notes, same⟩ := faithful
    cases left with
    | cons note left => exact ⟨by simpa using notes, same⟩
    | nil =>
      have all : said = (task.generator.generate task.unit registry).notes := by
        simpa using notes
      simp only [Job.advance, Faithful, Task.run, all, same]

end Job

namespace Pool

variable {registry : Registry} {tasks : List Task} {pool : Pool}

/-- The jobs of a pool belong to some tasks, in order, and keep to them. -/
structure Faithful (registry : Registry) (tasks : List Task) (pool : Pool) : Prop where
  tasks : pool.jobs.map Job.task = tasks
  jobs : ∀ job ∈ pool.jobs, job.Faithful registry

private theorem faithful_of (registry : Registry) (tasks : List Task) :
    (Pool.of tasks).Faithful registry tasks where
  tasks := by simp [Pool.of, Function.comp_def]
  jobs := by
    intro job member
    obtain ⟨task, _, rfl⟩ := List.mem_map.mp member
    trivial

/-- One step of a pool. -/
theorem Faithful.advance (faithful : pool.Faithful registry tasks) (place : Nat) :
    (pool.advance registry place).Faithful registry tasks := by
  cases found : pool.jobs[place]? with
  | none => simpa [Pool.advance, found] using faithful
  | some job =>
    obtain ⟨inside, same⟩ := List.getElem?_eq_some_iff.mp found
    simp only [Pool.advance, found]
    refine ⟨?_, ?_⟩
    · rw [List.map_set, Job.task_advance, ← same, ← faithful.tasks]
      have within : place < (pool.jobs.map Job.task).length := by simpa using inside
      simpa using List.set_getElem_self within
    · intro other member
      rcases List.mem_or_eq_of_mem_set member with earlier | rfl
      · exact faithful.jobs other earlier
      · exact (faithful.jobs job (List.mem_of_getElem? found)).advance

theorem Faithful.drain (faithful : pool.Faithful registry tasks) (workers : Nat)
    (choices : Nat → Nat) : (pool.drain registry workers choices).Faithful registry tasks := by
  fun_induction Pool.drain registry workers choices pool with
  | case1 choices pool stuck => exact faithful
  | case2 choices pool place picked ih => exact ih (faithful.advance place)

theorem able_drain (registry : Registry) (pool : Pool) (workers : Nat) (choices : Nat → Nat) :
    (pool.drain registry workers choices).able workers = [] := by
  fun_induction Pool.drain registry workers choices pool with
  | case1 choices pool stuck =>
    have outside := List.getElem?_eq_none_iff.mp stuck
    rcases Nat.eq_zero_or_pos (pool.able workers).length with empty | nonempty
    · exact List.eq_nil_of_length_eq_zero empty
    · have inside := Nat.mod_lt (choices 0) nonempty
      omega
  | case2 choices pool place picked ih => exact ih

/-- A pool with a worker goes on as long as a job is left. -/
theorem finished_of_able_eq_nil {workers : Nat} (staffed : 0 < workers)
    (stuck : pool.able workers = []) {job : Job} (member : job ∈ pool.jobs) :
    ∃ result, job.progress = .finished result := by
  have unable : ∀ other ∈ pool.jobs, other.isAble (pool.hasRoom workers) = false := by
    intro other present
    obtain ⟨place, found⟩ := List.mem_iff_getElem?.mp present
    cases can : other.isAble (pool.hasRoom workers) with
    | false => rfl
    | true =>
      have listed := mem_able.mpr ⟨other, found, can⟩
      simp [stuck] at listed
  have idle : ∀ other ∈ pool.jobs, ¬ other.isRunning = true := by
    intro other present running
    have can := unable other present
    obtain ⟨task, progress⟩ := other
    cases progress with
    | running said left outcome => cases can
    | waiting => cases running
    | finished result => cases running
  have room : pool.hasRoom workers = true := by
    simpa [hasRoom, List.countP_eq_zero.mpr idle] using staffed
  have can := unable job member
  rw [room] at can
  obtain ⟨task, progress⟩ := job
  cases progress with
  | waiting => cases can
  | running said left outcome => cases can
  | finished result => exact ⟨result, rfl⟩

private theorem results_of_finished {jobs : List Job}
    (finished : ∀ job ∈ jobs, job.result? = some (job.task.run registry).result) :
    jobs.filterMap Job.result? =
      (jobs.map Job.task).map fun task => (task.run registry).result := by
  induction jobs with
  | nil => rfl
  | cons job jobs ih =>
    have here := finished job List.mem_cons_self
    have later := ih fun other member => finished other (List.mem_cons_of_mem job member)
    simp [here, later]

theorem results_drain (registry : Registry) (tasks : List Task) {workers : Nat}
    (staffed : 0 < workers) (choices : Nat → Nat) :
    ((Pool.of tasks).drain registry workers choices).results =
      tasks.map fun task => (task.run registry).result := by
  have faithful := (faithful_of registry tasks).drain workers choices
  have stuck := able_drain registry (Pool.of tasks) workers choices
  rw [Pool.results, results_of_finished, faithful.tasks]
  intro job member
  obtain ⟨result, ended⟩ := finished_of_able_eq_nil staffed stuck member
  have own := faithful.jobs job member
  simp only [Job.Faithful, ended] at own
  simp only [Job.result?, ended, own]

end Pool

theorem perform_results (registry : Registry) (workers : Nat) (choices : Nat → Nat)
    (tasks : List Task) :
    (perform registry workers choices tasks).1 =
      tasks.map fun task => (task.run registry).result := by
  unfold perform
  split
  · rename_i several
    simp only [Bool.and_eq_true, decide_eq_true_eq] at several
    exact Pool.results_drain registry tasks (by omega) choices
  · simp

/-- A generator at its place in a list, with a unit that it looks at or as an aggregate. -/
structure Site where
  place : Nat
  generator : Generator
  unit : Option (Declared Design.Unit)

/-- An aggregate runs: it has no triggers, or one of them accepts a unit. -/
def Generator.runsOver (generator : Generator) (registry : Registry) : Bool :=
  generator.triggers.isEmpty || generator.triggers.any fun trigger =>
    registry.units.any fun unit =>
      trigger.matches unit && (trigger.accepts unit registry matches .ok true)

/-- The sites of a generator: the units for which it has a trigger, or the whole registry once. -/
def sitesOf (registry : Registry) (generator : Generator) (place : Nat) : List Site :=
  if generator.isAggregate then
    if generator.runsOver registry then [⟨place, generator, none⟩] else []
  else (registry.units.filter fun unit => (generator.triggerFor? unit).isSome).map
    fun unit => ⟨place, generator, some unit⟩

/-- The sites of the generators whose targets are selected. -/
def sites (registry : Registry) (generators : List Generator) (targets : List String) :
    List Site :=
  (generators.zipIdx.filter fun placed => targets.contains placed.1.target).flatMap
    fun placed => sitesOf registry placed.1 placed.2

namespace Site

def task (site : Site) : Task := ⟨site.generator, site.unit⟩

/-- What the first trigger for the unit of a site says; aggregates need none. -/
def accepted (registry : Registry) (site : Site) : Except Failure Bool :=
  match site.unit with
  | none => .ok true
  | some unit => match site.generator.triggerFor? unit with
    | some trigger => trigger.accepts unit registry
    | none => .ok false

/-- What is left of a site whose condition fails. -/
def failed (site : Site) (failure : Failure) : Finished :=
  failedResult site.task.blank [] failure (site.generator.wording site.unit failure)

/-- The entry of a site in a plan: its task, or the result that is decided already. -/
def planned (registry : Registry) (site : Site) : Planned :=
  match site.accepted registry with
  | .ok true => .task site.task
  | .ok false => .decided { site.task.blank with state := .skipped, reason := some "predicate" }
  | .error failure => .decided (site.failed failure).result

/-- The result of a site. -/
def result (registry : Registry) (site : Site) : UnitResult :=
  match site.accepted registry with
  | .ok true => (site.task.run registry).result
  | .ok false => { site.task.blank with state := .skipped, reason := some "predicate" }
  | .error failure => (site.failed failure).result

end Site

/-- The result of an entry of a plan. -/
def Planned.result (registry : Registry) : Planned → UnitResult
  | .decided made => made
  | .task work => (work.run registry).result

theorem Site.result_planned (registry : Registry) (site : Site) :
    (site.planned registry).result registry = site.result registry := by
  unfold Site.planned Site.result
  cases site.accepted registry with
  | error failure => rfl
  | ok accepted => cases accepted <;> rfl

theorem weave_eq_ok (registry : Registry) (entries : List Planned) :
    weave entries ((entries.filterMap Planned.task?).map fun task => (task.run registry).result) =
      .ok (entries.map (Planned.result registry)) := by
  induction entries with
  | nil => rfl
  | cons entry entries ih =>
    cases entry with
    | decided result =>
      simp only [List.filterMap_cons, Planned.task?, weave, ih]
      rfl
    | task task =>
      simp only [List.filterMap_cons, Planned.task?, List.map_cons, weave, ih]
      rfl

/-- Workers and schedules do not show in the outcome of a run. -/
theorem run_outcome (registry : Registry) (generators : List Generator) (targets : List String)
    (workers : Int) (choices : Nat → Nat) :
    (run registry generators targets workers choices).map Run.outcome =
      (planAll registry (select targets generators)).map fun plan =>
        ⟨plan.entries.map (Planned.result registry)⟩ := by
  unfold run
  cases planned : planAll registry (select targets generators) with
  | error failure => simp only [planned]; rfl
  | ok plan =>
    have finished := perform_results registry (workerCount workers) choices plan.tasks
    have woven := weave_eq_ok registry plan.entries
    rw [← Plan.tasks, ← finished] at woven
    simp only [planned, bind, Except.bind, woven]
    rfl

/-- A run returns exactly if its plan does, and its results are those of the plan. -/
theorem run_of_plan (registry : Registry) (generators : List Generator) (targets : List String)
    (workers : Int) (choices : Nat → Nat) :
    (∃ failure, planAll registry (select targets generators) = .error failure ∧
      run registry generators targets workers choices = .error failure) ∨
    ∃ plan finished, planAll registry (select targets generators) = .ok plan ∧
      run registry generators targets workers choices = .ok finished ∧
      finished.outcome.results = plan.entries.map (Planned.result registry) := by
  have outcome := run_outcome registry generators targets workers choices
  cases planned : planAll registry (select targets generators) with
  | error failure =>
    rw [planned] at outcome
    cases returned : run registry generators targets workers choices with
    | error other =>
      rw [returned] at outcome
      cases outcome
      exact Or.inl ⟨failure, rfl, rfl⟩
    | ok finished =>
      rw [returned] at outcome
      cases outcome
  | ok plan =>
    rw [planned] at outcome
    cases returned : run registry generators targets workers choices with
    | error other =>
      rw [returned] at outcome
      cases outcome
    | ok finished =>
      rw [returned] at outcome
      have same : finished.outcome = ⟨plan.entries.map (Planned.result registry)⟩ :=
        Except.ok.inj outcome
      exact Or.inr ⟨plan, finished, rfl, rfl, by rw [same]⟩

section Plans

variable {registry : Registry} {generator : Generator}

private theorem planUnit_entries (place : Nat) {unit : Declared Design.Unit} {trigger : Trigger}
    (found : generator.triggerFor? unit = some trigger) :
    (planUnit generator registry unit trigger).entries =
      [(Site.mk place generator (some unit)).planned registry] := by
  have asked : (Site.mk place generator (some unit)).accepted registry =
      trigger.accepts unit registry := by
    simp [Site.accepted, found]
  unfold planUnit Site.planned
  rw [asked]
  cases trigger.accepts unit registry with
  | error failure => rfl
  | ok accepted => cases accepted <;> rfl

private theorem planUnits_entries (place : Nat) (units : List (Declared Design.Unit)) :
    (planUnits generator registry units).entries =
      ((units.filter fun unit => (generator.triggerFor? unit).isSome).map fun unit =>
        Site.mk place generator (some unit)).map (Site.planned registry) := by
  induction units with
  | nil => rfl
  | cons unit units ih =>
    unfold planUnits
    cases found : generator.triggerFor? unit with
    | none => simpa [found] using ih
    | some trigger =>
      simp only [Plan.append, planUnit_entries place found, ih]
      simp [found]

/-- The search for an accepted candidate answers whether there is one. -/
private theorem someAccepted_eq_any {candidates : List (Trigger × Declared Design.Unit)}
    {before after : List LogRecord} {answer : Bool}
    (answered : someAccepted generator registry candidates before = .ok (answer, after)) :
    answer = candidates.any fun candidate =>
      candidate.1.accepts candidate.2 registry matches .ok true := by
  induction candidates generalizing before with
  | nil =>
    cases answered
    rfl
  | cons candidate candidates ih =>
    obtain ⟨trigger, unit⟩ := candidate
    unfold someAccepted at answered
    cases asked : trigger.accepts unit registry with
    | ok accepted =>
      rw [asked] at answered
      cases accepted with
      | true =>
        cases answered
        simp [asked]
      | false => simpa [asked] using ih answered
    | error failure =>
      rw [asked] at answered
      simp only at answered
      split at answered
      · simpa [asked] using ih answered
      · cases answered

private theorem planAggregate_entries {plan : Plan} (place : Nat)
    (planned : planAggregate generator registry = .ok plan) :
    plan.entries =
      (if generator.runsOver registry then [Site.mk place generator none] else []).map
        (Site.planned registry) := by
  unfold planAggregate at planned
  split at planned
  · rename_i untriggered
    cases planned
    rw [Generator.runsOver, untriggered]
    rfl
  · rename_i triggered
    cases answered : someAccepted generator registry (candidates generator registry) [] with
    | error failure =>
      rw [answered] at planned
      cases planned
    | ok answer =>
      obtain ⟨accepted, records⟩ := answer
      have same : accepted = generator.runsOver registry := by
        rw [someAccepted_eq_any answered]
        simp [Generator.runsOver, triggered, candidates, List.any_flatMap, List.any_filter,
          Function.comp_def]
      rw [answered] at planned
      cases planned
      rw [same]
      cases generator.runsOver registry <;> rfl

private theorem planGenerator_entries {plan : Plan} (place : Nat)
    (planned : planGenerator registry generator = .ok plan) :
    plan.entries = (sitesOf registry generator place).map (Site.planned registry) := by
  unfold planGenerator at planned
  unfold sitesOf
  split at planned
  · rename_i aggregate
    rw [if_pos aggregate]
    exact planAggregate_entries place planned
  · rename_i perUnit
    rw [if_neg perUnit]
    cases planned
    exact planUnits_entries place registry.units

private theorem planAll_entries {placed : List (Generator × Nat)} {plan : Plan}
    (planned : planAll registry (placed.map Prod.fst) = .ok plan) :
    plan.entries =
      (placed.flatMap fun placed => sitesOf registry placed.1 placed.2).map
        (Site.planned registry) := by
  induction placed generalizing plan with
  | nil =>
    cases planned
    rfl
  | cons first placed ih =>
    obtain ⟨generator, place⟩ := first
    unfold planAll at planned
    obtain ⟨own, here, planned⟩ := bind_eq_ok_iff.mp planned
    obtain ⟨others, later, planned⟩ := bind_eq_ok_iff.mp planned
    cases planned
    simp only [Plan.append, List.map_append, List.flatMap_cons, planGenerator_entries place here,
      ih later]

end Plans

/-- A site stands at the place of its generator. -/
theorem of_mem_sitesOf {registry : Registry} {generator : Generator} {place : Nat}
    {site : Site} (member : site ∈ sitesOf registry generator place) :
    generator = site.generator ∧ place = site.place := by
  unfold sitesOf at member
  split at member
  · split at member
    · rw [List.mem_singleton.mp member]
      exact ⟨rfl, rfl⟩
    · cases member
  · obtain ⟨unit, _, rfl⟩ := List.mem_map.mp member
    exact ⟨rfl, rfl⟩

private theorem select_eq (targets : List String) (generators : List Generator) :
    select targets generators =
      (generators.zipIdx.filter fun placed => targets.contains placed.1.target).map Prod.fst := by
  have whole := List.filter_map (f := Prod.fst) (l := generators.zipIdx)
    (p := fun generator => targets.contains generator.target)
  rw [List.zipIdx_map_fst] at whole
  exact whole

theorem entries_of_plan {registry : Registry} {generators : List Generator} {targets : List String}
    {plan : Plan} (planned : planAll registry (select targets generators) = .ok plan) :
    plan.entries = (sites registry generators targets).map (Site.planned registry) := by
  rw [select_eq] at planned
  exact planAll_entries planned

/-- The results of a run that returns are those of its sites, in order. -/
theorem results_of_run {registry : Registry} {generators : List Generator} {targets : List String}
    {workers : Int} {choices : Nat → Nat} {finished : Run}
    (returned : run registry generators targets workers choices = .ok finished) :
    finished.outcome.results =
      (sites registry generators targets).map (Site.result registry) := by
  rcases run_of_plan registry generators targets workers choices with
    ⟨failure, _, failed⟩ | ⟨plan, same, planned, again, results⟩
  · rw [returned] at failed
    cases failed
  · rw [returned] at again
    cases again
    rw [results, entries_of_plan planned, List.map_map]
    exact List.map_congr_left fun site _ => Site.result_planned registry site

end Blueprint.Generation
