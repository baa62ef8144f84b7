import Blueprint.Proofs.Generation.Isolation

namespace Blueprint.Generation

/-- A candidate behind which the search of an aggregate goes on: it is refused, or its condition
raises a design error. -/
def PassedOver (registry : Registry) (candidate : Trigger × Declared Design.Unit) : Prop :=
  candidate.1.accepts candidate.2 registry = .ok false ∨
    ∃ failure, candidate.1.accepts candidate.2 registry = .error failure ∧ failure.isDesign = true

/-- A failure that is no design error ends the search over candidates: a condition raises it before
any of them is accepted. -/
inductive Interrupts (registry : Registry) (failure : Failure) :
    List (Trigger × Declared Design.Unit) → Prop where
  | here {trigger : Trigger} {unit : Declared Design.Unit}
      {rest : List (Trigger × Declared Design.Unit)}
      (raised : trigger.accepts unit registry = .error failure)
      (foreign : failure.isDesign = false) : Interrupts registry failure ((trigger, unit) :: rest)
  | later {candidate : Trigger × Declared Design.Unit}
      {rest : List (Trigger × Declared Design.Unit)} (passed : PassedOver registry candidate)
      (ended : Interrupts registry failure rest) : Interrupts registry failure (candidate :: rest)

/-- An aggregate whose search is ended by a failure that is no design error. -/
def Generator.InterruptedBy (generator : Generator) (registry : Registry) (failure : Failure) :
    Prop :=
  generator.isAggregate = true ∧ Interrupts registry failure (candidates generator registry)

/-- One of the triggers of a generator accepts a unit that it looks at. -/
def Generator.SomeAccepts (generator : Generator) (registry : Registry) : Prop :=
  ∃ trigger ∈ generator.triggers, ∃ unit ∈ registry.units,
    trigger.matches unit = true ∧ trigger.accepts unit registry = .ok true

/-- How the condition at a site decides its entry in a plan: it fails the unit exactly where it
raises. -/
structure Decides (registry : Registry) (site : Site) (entry : Planned) : Prop where
  failed : (∃ result, entry = .decided result ∧ result.state = .failed) ↔
    ∃ failure, site.accepted registry = .error failure
  skipped : (∃ result, entry = .decided result ∧ result.state = .skipped) ↔
    site.accepted registry = .ok false
  triggered : entry = .task site.task ↔ site.accepted registry = .ok true

section Plans

variable {registry : Registry} {generator : Generator}

/-- The search fails exactly where it is interrupted. -/
theorem someAccepted_eq_error_iff (generator : Generator)
    {tried : List (Trigger × Declared Design.Unit)} (records : List LogRecord)
    {failure : Failure} :
    someAccepted generator registry tried records = .error failure ↔
      Interrupts registry failure tried := by
  induction tried generalizing records with
  | nil =>
    constructor
    · intro failed
      cases failed
    · intro ended
      cases ended
  | cons candidate tried ih =>
    obtain ⟨trigger, unit⟩ := candidate
    unfold someAccepted
    constructor
    · intro failed
      cases asked : trigger.accepts unit registry with
      | ok accepted =>
        rw [asked] at failed
        cases accepted with
        | true => cases failed
        | false => exact .later (Or.inl asked) ((ih _).mp failed)
      | error raised =>
        rw [asked] at failed
        simp only at failed
        split at failed
        · rename_i design
          exact .later (Or.inr ⟨raised, asked, design⟩) ((ih _).mp failed)
        · rename_i foreign
          cases failed
          exact .here asked (by simpa using foreign)
    · intro ended
      cases ended with
      | here raised foreign => simp [raised, foreign]
      | later passed ended =>
        rcases passed with refused | ⟨raised, asked, design⟩
        · have asked : trigger.accepts unit registry = .ok false := refused
          rw [asked]
          exact (ih _).mpr ended
        · have asked : trigger.accepts unit registry = .error raised := asked
          rw [asked]
          simp only [design, ↓reduceIte]
          exact (ih _).mpr ended

/-- A generator cannot be planned exactly where its search is interrupted. -/
theorem planGenerator_eq_error_iff {failure : Failure} :
    planGenerator registry generator = .error failure ↔
      generator.InterruptedBy registry failure := by
  unfold planGenerator Generator.InterruptedBy
  by_cases aggregate : generator.isAggregate = true
  · rw [if_pos aggregate]
    unfold planAggregate
    by_cases untriggered : generator.triggers.isEmpty = true
    · have none : candidates generator registry = [] := by
        simp [candidates, List.isEmpty_iff.mp untriggered]
      rw [if_pos untriggered, none]
      constructor
      · intro failed
        cases failed
      · rintro ⟨_, ended⟩
        cases ended
    · rw [if_neg untriggered, ← someAccepted_eq_error_iff generator []]
      cases someAccepted generator registry (candidates generator registry) [] with
      | error raised => simp [Except.map, aggregate]
      | ok answer => simp [Except.map]
  · simp [aggregate]

/-- An aggregate stands in a plan exactly if it has no triggers or one of them accepts a unit. -/
theorem runsOver_iff :
    generator.runsOver registry = true ↔
      generator.triggers = [] ∨ generator.SomeAccepts registry := by
  simp only [Generator.runsOver, Generator.SomeAccepts, Bool.or_eq_true, List.isEmpty_iff,
    List.any_eq_true, Bool.and_eq_true]
  constructor
  · rintro (untriggered | ⟨trigger, mine, unit, declared, looks, accepts⟩)
    · exact Or.inl untriggered
    · refine Or.inr ⟨trigger, mine, unit, declared, looks, ?_⟩
      cases asked : trigger.accepts unit registry with
      | error failure => simp [asked] at accepts
      | ok accepted =>
        cases accepted with
        | false => simp [asked] at accepts
        | true => rfl
  · rintro (untriggered | ⟨trigger, mine, unit, declared, looks, accepts⟩)
    · exact Or.inl untriggered
    · exact Or.inr ⟨trigger, mine, unit, declared, looks, by rw [accepts]⟩

end Plans

private theorem decides_planned (registry : Registry) (site : Site) :
    Decides registry site (site.planned registry) := by
  unfold Site.planned
  cases asked : site.accepted registry with
  | error failure =>
    exact ⟨by simp [asked, Site.failed, failedResult], by simp [asked, Site.failed, failedResult],
      by simp [asked]⟩
  | ok accepted => cases accepted <;> exact ⟨by simp [asked], by simp [asked], by simp [asked]⟩

/-- The sites of a run: a selected generator at its place, with each unit for which it has a trigger
or, as an aggregate that runs, with none. -/
theorem mem_sites_iff {registry : Registry} {generators : List Generator} {targets : List String}
    {place : Nat} {generator : Generator} {unit : Option (Declared Design.Unit)} :
    ⟨place, generator, unit⟩ ∈ sites registry generators targets ↔
      (generators[place]? = some generator ∧ generator.target ∈ targets) ∧
        match unit with
        | none => generator.isAggregate = true ∧
            (generator.triggers = [] ∨ generator.SomeAccepts registry)
        | some unit => generator.isAggregate = false ∧ unit ∈ registry.units ∧
            (generator.triggerFor? unit).isSome = true := by
  have here : ⟨place, generator, unit⟩ ∈ sites registry generators targets ↔
      (generators[place]? = some generator ∧ generator.target ∈ targets) ∧
        ⟨place, generator, unit⟩ ∈ sitesOf registry generator place := by
    simp only [sites, List.mem_flatMap, List.mem_filter, List.mem_zipIdx_iff_getElem?,
      List.contains_iff_mem]
    constructor
    · rintro ⟨⟨other, index⟩, chosen, member⟩
      obtain ⟨rfl, rfl⟩ := of_mem_sitesOf member
      exact ⟨chosen, member⟩
    · rintro ⟨chosen, member⟩
      exact ⟨(generator, place), chosen, member⟩
  rw [here, sitesOf]
  by_cases aggregate : generator.isAggregate = true
  · rw [if_pos aggregate, ← runsOver_iff]
    cases unit with
    | none => split <;> simp [*]
    | some unit => split <;> simp [*]
  · rw [if_neg aggregate]
    cases unit with
    | none => simp [aggregate]
    | some unit => simp [aggregate]

/-- Generators can be planned exactly if none of them is interrupted. -/
theorem exists_plan_iff {registry : Registry} {generators : List Generator} :
    (∃ plan, planAll registry generators = .ok plan) ↔
      ∀ generator ∈ generators, ∀ failure, ¬ generator.InterruptedBy registry failure := by
  induction generators with
  | nil => simp [planAll]
  | cons generator generators ih =>
    have own : (∃ plan, planGenerator registry generator = .ok plan) ↔
        ∀ failure, ¬ generator.InterruptedBy registry failure := by
      simp only [← planGenerator_eq_error_iff]
      cases planGenerator registry generator <;> simp
    rw [List.forall_mem_cons, ← own, ← ih, planAll]
    constructor
    · rintro ⟨plan, planned⟩
      obtain ⟨first, here, planned⟩ := bind_eq_ok_iff.mp planned
      obtain ⟨others, later, _⟩ := bind_eq_ok_iff.mp planned
      exact ⟨⟨first, here⟩, ⟨others, later⟩⟩
    · rintro ⟨⟨first, here⟩, ⟨others, later⟩⟩
      exact ⟨first.append others, by rw [here, later]; rfl⟩

/-- A plan and a run return exactly if no condition raises, before a unit is accepted, what ends the
search of a selected aggregate. Then a unit fails without being run exactly where its condition
raises, and an aggregate is planned exactly if it has no triggers or one of them accepts a unit. -/
theorem run_returns_iff_uninterrupted (registry : Registry) (generators : List Generator)
    (targets : List String) :
    ((∃ plan, planAll registry (select targets generators) = .ok plan) ↔
      ∀ generator ∈ select targets generators, ∀ failure,
        ¬ generator.InterruptedBy registry failure) ∧
    (∀ workers choices,
      (∃ finished, run registry generators targets workers choices = .ok finished) ↔
        ∀ generator ∈ select targets generators, ∀ failure,
          ¬ generator.InterruptedBy registry failure) ∧
    (∀ plan, planAll registry (select targets generators) = .ok plan →
      List.Forall₂ (Decides registry) (sites registry generators targets) plan.entries ∧
      ∀ workers choices, ∃ finished,
        run registry generators targets workers choices = .ok finished ∧
        finished.outcome.results = plan.entries.map (Planned.result registry)) ∧
    ∀ (place : Nat) (generator : Generator), generators[place]? = some generator →
      generator.target ∈ targets → generator.isAggregate = true →
      (⟨place, generator, none⟩ ∈ sites registry generators targets ↔
        generator.triggers = [] ∨ generator.SomeAccepts registry) := by
  refine ⟨exists_plan_iff, ?_, ?_, ?_⟩
  · intro workers choices
    rw [← exists_plan_iff]
    rcases run_of_plan registry generators targets workers choices with
      ⟨failure, planned, returned⟩ | ⟨plan, finished, planned, returned, _⟩
    · simp [planned, returned]
    · simp [planned, returned]
  · intro plan planned
    constructor
    · rw [entries_of_plan planned, List.forall₂_map_right_iff, List.forall₂_same]
      intro site _
      exact decides_planned registry site
    · intro workers choices
      rcases run_of_plan registry generators targets workers choices with
        ⟨failure, broken, _⟩ | ⟨same, finished, again, returned, results⟩
      · rw [planned] at broken
        cases broken
      · rw [planned] at again
        cases again
        exact ⟨finished, returned, results⟩
  · intro place generator found selected aggregate
    rw [mem_sites_iff]
    simp [found, selected, aggregate]

/-- A condition that raises a failure on one entity and accepts the others. -/
def strictOn (name : String) (failure : Failure) : Trigger where
  kind := .entity
  accepts := fun unit _ => if unit.name == name then .error failure else .ok true

/-- An aggregate over the entities that a trigger accepts. -/
def indexOver (trigger : Trigger) : Generator where
  name := "index"
  target := "server"
  isAggregate := true
  triggers := [trigger]
  outputs := fun _ => .ok ["index.txt"]
  generate := fun _ _ => return .text ""

/-- A generator whose condition lacks a key on one entity, and an aggregate that is told so by a
design error. -/
def strictGenerators : List Generator :=
  [{ sheets with triggers := [strictOn "Order" (.missingKey "'total'")] },
    indexOver (strictOn "Order" (.design "no total"))]

theorem run_returns_iff_uninterrupted_shop : ∃ plan finished,
    planAll shop (select ["server"] strictGenerators) = .ok plan ∧
    run shop strictGenerators ["server"] 2 id = .ok finished ∧
    List.Forall₂ (Decides shop) (sites shop strictGenerators ["server"]) plan.entries ∧
    finished.outcome.results.map (·.state) = [.failed, .generated, .generated] := by
  have states : ((run shop strictGenerators ["server"] 2 id).map fun finished =>
      finished.outcome.results.map (·.state)) = .ok [.failed, .generated, .generated] := by
    decide +kernel
  obtain ⟨_, _, runs, _⟩ := run_returns_iff_uninterrupted shop strictGenerators ["server"]
  rcases run_of_plan shop strictGenerators ["server"] 2 id with
    ⟨failure, _, failed⟩ | ⟨plan, finished, planned, returned, _⟩
  · rw [failed] at states
    cases states
  · rw [returned] at states
    exact ⟨plan, finished, planned, returned, (runs plan planned).1, Except.ok.inj states⟩

/-- A key that the condition of an aggregate lacks on one entity ends the run, although the
condition accepts the other entity and a generator stands before that asks for nothing. -/
theorem missing_key_ends_run_shop :
    run shop [sheets, indexOver (strictOn "Order" (.missingKey "'total'"))] ["server"] 1 id =
        .error (.missingKey "'total'") ∧
      (indexOver (strictOn "Order" (.missingKey "'total'"))).SomeAccepts shop := by
  refine ⟨rfl, strictOn "Order" (.missingKey "'total'"), List.mem_singleton_self _,
    ⟨.entity { offset := 0, name := "Item" }, false, none, 1⟩, ?_, rfl, rfl⟩
  simp [shop]

end Blueprint.Generation
