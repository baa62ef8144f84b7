import Blueprint.Proofs.Generation.Results

/-!
What does not show in the results of a run: the number of workers and the schedule of the pool; and,
at any other site, what a generator does on one unit.
-/

namespace Blueprint.Generation

/-- The generator with another way to generate. -/
def Generator.regenerating (generator : Generator)
    (generate : Option (Declared Design.Unit) → Registry → Step Produced) : Generator :=
  { generator with generate }

section Plans

variable {registry : Registry} {generator : Generator}
  {changed : Option (Declared Design.Unit) → Registry → Step Produced}

private theorem someAccepted_regenerating (tried : List (Trigger × Declared Design.Unit))
    (records : List LogRecord) :
    someAccepted (generator.regenerating changed) registry tried records =
      someAccepted generator registry tried records := by
  induction tried generalizing records with
  | nil => rfl
  | cons candidate tried ih =>
    obtain ⟨trigger, unit⟩ := candidate
    simp only [someAccepted, ih]
    rfl

/-- Why a generator cannot be planned. -/
def planFailure? (registry : Registry) (generator : Generator) : Option Failure :=
  match planGenerator registry generator with
  | .ok _ => none
  | .error failure => some failure

/-- Whether a generator can be planned does not depend on what it generates. -/
theorem planFailure?_regenerating (registry : Registry) (generator : Generator)
    (changed : Option (Declared Design.Unit) → Registry → Step Produced) :
    planFailure? registry (generator.regenerating changed) = planFailure? registry generator := by
  unfold planFailure? planGenerator
  by_cases aggregate : generator.isAggregate = true
  · have alike : (generator.regenerating changed).isAggregate = true := aggregate
    rw [if_pos aggregate, if_pos alike]
    unfold planAggregate
    by_cases untriggered : generator.triggers.isEmpty = true
    · have alone : (generator.regenerating changed).triggers.isEmpty = true := untriggered
      rw [if_pos untriggered, if_pos alone]
    · have triggered : ¬ (generator.regenerating changed).triggers.isEmpty = true := untriggered
      have same : candidates (generator.regenerating changed) registry =
          candidates generator registry := rfl
      rw [if_neg untriggered, if_neg triggered, someAccepted_regenerating, same]
      cases someAccepted generator registry (candidates generator registry) [] <;> rfl
  · have alike : ¬ (generator.regenerating changed).isAggregate = true := aggregate
    rw [if_neg aggregate, if_neg alike]

theorem planAll_eq_error_iff {generators : List Generator} {failure : Failure} :
    planAll registry generators = .error failure ↔
      generators.findSome? (planFailure? registry) = some failure := by
  induction generators with
  | nil => simp [planAll]
  | cons generator generators ih =>
    rw [List.findSome?_cons, planFailure?, planAll]
    cases planGenerator registry generator with
    | error other => simp [bind, Except.bind]
    | ok plan =>
      simp only
      rw [← ih]
      cases planAll registry generators with
      | error other => simp [bind, Except.bind]
      | ok others => simp [bind, Except.bind, pure, Except.pure]

end Plans

theorem run_eq_error_iff {registry : Registry} {generators : List Generator}
    {targets : List String} {workers : Int} {choices : Nat → Nat} {failure : Failure} :
    run registry generators targets workers choices = .error failure ↔
      (select targets generators).findSome? (planFailure? registry) = some failure := by
  rw [← planAll_eq_error_iff]
  rcases run_of_plan registry generators targets workers choices with
    ⟨raised, planned, returned⟩ | ⟨plan, finished, planned, returned, _⟩
  · simp [planned, returned]
  · simp [planned, returned]

section Sites

variable {registry : Registry} {targets : List String} {front back : List Generator}
  {generator : Generator} {unit : Option (Declared Design.Unit)}
  {changed : Option (Declared Design.Unit) → Registry → Step Produced}

/-- Two sites have the same result, unless the first stands for the given place and unit. -/
def AlikeBut (registry : Registry) (place : Nat) (unit : Option (Declared Design.Unit))
    (first second : Site) : Prop :=
  ¬ (first.place = place ∧ first.unit = unit) → first.result registry = second.result registry

/-- A generator that changes on one unit gives the same results on the others. -/
private theorem alikeBut_regenerating
    (elsewhere : ∀ other, other ≠ unit → changed other registry = generator.generate other registry)
    (place : Nat) (seen : Option (Declared Design.Unit)) :
    AlikeBut registry place unit ⟨place, generator, seen⟩
      ⟨place, generator.regenerating changed, seen⟩ := by
  intro outside
  have differs : seen ≠ unit := fun same => outside ⟨rfl, same⟩
  have step : (generator.regenerating changed).generate seen registry =
      generator.generate seen registry := elsewhere seen differs
  have same : (Task.mk generator seen).run registry =
      (Task.mk (generator.regenerating changed) seen).run registry := by
    simp only [Task.run, step]
    rfl
  unfold Site.result
  simp only [Site.task, same]
  rfl

private theorem sitesOf_regenerating
    (elsewhere : ∀ other, other ≠ unit → changed other registry = generator.generate other registry)
    (place : Nat) :
    List.Forall₂ (AlikeBut registry place unit) (sitesOf registry generator place)
      (sitesOf registry (generator.regenerating changed) place) := by
  unfold sitesOf
  by_cases aggregate : generator.isAggregate = true
  · have alike : (generator.regenerating changed).isAggregate = true := aggregate
    have same : (generator.regenerating changed).runsOver registry =
        generator.runsOver registry := rfl
    rw [if_pos aggregate, if_pos alike, same]
    split
    · exact .cons (alikeBut_regenerating elsewhere place none) .nil
    · exact .nil
  · have alike : ¬ (generator.regenerating changed).isAggregate = true := aggregate
    rw [if_neg aggregate, if_neg alike]
    apply List.forall₂_map_left_iff.mpr
    apply List.forall₂_map_right_iff.mpr
    apply List.forall₂_same.mpr
    intro seen _
    exact alikeBut_regenerating elsewhere place (some seen)

/-- The sites of two lists that differ in what one generator does on one unit. -/
theorem sites_regenerating
    (elsewhere : ∀ other, other ≠ unit →
      changed other registry = generator.generate other registry) :
    List.Forall₂ (AlikeBut registry front.length unit)
      (sites registry (front ++ generator :: back) targets)
      (sites registry (front ++ generator.regenerating changed :: back) targets) := by
  have same (part : List Site) : List.Forall₂ (AlikeBut registry front.length unit) part part :=
    List.forall₂_same.mpr fun _ _ _ => rfl
  have target : (generator.regenerating changed).target = generator.target := rfl
  simp only [sites, List.zipIdx_append, List.zipIdx_cons, List.filter_append, List.filter_cons,
    List.flatMap_append, target, Nat.zero_add]
  apply List.rel_append (same _)
  split
  · rw [List.flatMap_cons, List.flatMap_cons]
    exact List.rel_append (sitesOf_regenerating elsewhere front.length) (same _)
  · exact same _

end Sites

/-- A generator and a unit stand at one position of a run. -/
theorem sites_pairwise (registry : Registry) (generators : List Generator)
    (targets : List String) :
    (sites registry generators targets).Pairwise fun first second =>
      ¬ (first.place = second.place ∧ first.unit = second.unit) := by
  apply List.pairwise_flatMap.mpr
  constructor
  · intro placed _
    unfold sitesOf
    split
    · split
      · exact List.pairwise_singleton _ _
      · exact .nil
    · have distinct : registry.units.Nodup := List.Pairwise.of_map Declared.key
        (fun _ _ differs same => differs (congrArg Declared.key same)) registry.distinct
      refine List.Pairwise.map _ ?_ (distinct.filter _)
      rintro first second differs ⟨_, same⟩
      exact differs (Option.some.inj same)
  · have places : (generators.zipIdx.filter fun placed =>
        targets.contains placed.1.target).Pairwise fun one other => one.2 ≠ other.2 := by
      apply List.Pairwise.filter
      apply List.pairwise_map.mp
      rw [List.zipIdx_map_snd]
      exact List.nodup_range'
    refine places.imp ?_
    rintro one other differs first inOne second inOther ⟨same, _⟩
    rw [← (of_mem_sitesOf inOne).2, ← (of_mem_sitesOf inOther).2] at same
    exact differs same

private theorem getElem?_of_forall₂ {α : Type} {related : α → α → Prop} {first second : List α}
    (alike : List.Forall₂ related first second) (position : Nat) :
    (first[position]? = none ∧ second[position]? = none) ∨
      ∃ one other, first[position]? = some one ∧ second[position]? = some other ∧
        related one other := by
  induction alike generalizing position with
  | nil => exact Or.inl ⟨rfl, rfl⟩
  | cons here _ ih =>
    cases position with
    | zero => exact Or.inr ⟨_, _, rfl, rfl, here⟩
    | succ position => exact ih position

section Runs

variable {registry : Registry} {targets : List String} {front back : List Generator}
  {generator : Generator} {unit : Option (Declared Design.Unit)}
  {changed : Option (Declared Design.Unit) → Registry → Step Produced}
  {workers otherWorkers : Int} {choices otherChoices : Nat → Nat}

private theorem findSome?_regenerating :
    (select targets (front ++ generator.regenerating changed :: back)).findSome?
        (planFailure? registry) =
      (select targets (front ++ generator :: back)).findSome? (planFailure? registry) := by
  have target : (generator.regenerating changed).target = generator.target := rfl
  simp only [select, List.filter_append, List.filter_cons, List.findSome?_append, target]
  split
  · rw [List.findSome?_cons, List.findSome?_cons, planFailure?_regenerating]
  · rfl

private theorem run_regenerating_error {failure : Failure} :
    run registry (front ++ generator.regenerating changed :: back) targets otherWorkers
        otherChoices = .error failure ↔
      run registry (front ++ generator :: back) targets workers choices = .error failure := by
  rw [run_eq_error_iff, run_eq_error_iff, findSome?_regenerating]

/-- Their results are equal at every other position. -/
private theorem run_regenerating_results {first second : Run}
    (elsewhere : ∀ other, other ≠ unit → changed other registry = generator.generate other registry)
    (before : run registry (front ++ generator :: back) targets workers choices = .ok first)
    (after : run registry (front ++ generator.regenerating changed :: back) targets otherWorkers
      otherChoices = .ok second) :
    first.outcome.results.length = second.outcome.results.length ∧
      ∀ position : Nat,
        (∀ site : Site,
          (sites registry (front ++ generator :: back) targets)[position]? = some site →
          ¬ (site.place = front.length ∧ site.unit = unit)) →
        first.outcome.results[position]? = second.outcome.results[position]? := by
  have alike : List.Forall₂ (AlikeBut registry front.length unit)
      (sites registry (front ++ generator :: back) targets)
      (sites registry (front ++ generator.regenerating changed :: back) targets) :=
    sites_regenerating elsewhere
  rw [results_of_run before, results_of_run after]
  refine ⟨by simpa using alike.length_eq, ?_⟩
  intro position outside
  rw [List.getElem?_map, List.getElem?_map]
  rcases getElem?_of_forall₂ alike position with
    ⟨absent, alsoAbsent⟩ | ⟨one, other, here, there, pair⟩
  · rw [absent, alsoAbsent]
  · rw [here, there]
    exact congrArg some (pair (outside one here))

end Runs

/-- The outcome of a run is that of a serial run, whatever the workers and the schedule. If two
lists of generators differ only in what one generator does on one unit, both runs fail with the same
failure, or both return and their results are equal at every position but the one at which that
generator meets that unit; there is no second one. -/
theorem run_schedule_isolation (registry : Registry) (targets : List String) :
    (∀ generators workers choices serial,
      (run registry generators targets workers choices).map Run.outcome =
        (run registry generators targets 1 serial).map Run.outcome) ∧
    (∀ (front back : List Generator) (generator : Generator)
        (unit : Option (Declared Design.Unit))
        (changed : Option (Declared Design.Unit) → Registry → Step Produced),
      (∀ other, other ≠ unit → changed other registry = generator.generate other registry) →
      ∀ workers choices otherWorkers otherChoices,
        (∃ failure,
          run registry (front ++ generator :: back) targets workers choices = .error failure ∧
          run registry (front ++ { generator with generate := changed } :: back) targets
            otherWorkers otherChoices = .error failure) ∨
        ∃ first second,
          run registry (front ++ generator :: back) targets workers choices = .ok first ∧
          run registry (front ++ { generator with generate := changed } :: back) targets
            otherWorkers otherChoices = .ok second ∧
          first.outcome.results.length = second.outcome.results.length ∧
          ∀ position : Nat,
            (∀ site : Site,
              (sites registry (front ++ generator :: back) targets)[position]? = some site →
              ¬ (site.place = front.length ∧ site.unit = unit)) →
            first.outcome.results[position]? = second.outcome.results[position]?) ∧
    ∀ generators, (sites registry generators targets).Pairwise fun one other =>
      ¬ (one.place = other.place ∧ one.unit = other.unit) := by
  refine ⟨?_, ?_, fun generators => sites_pairwise registry generators targets⟩
  · intro generators workers choices serial
    rw [run_outcome, run_outcome]
  · intro front back generator unit changed elsewhere workers choices otherWorkers otherChoices
    cases before : run registry (front ++ generator :: back) targets workers choices with
    | error failure => exact Or.inl ⟨failure, rfl, run_regenerating_error.mpr before⟩
    | ok first =>
      cases after : run registry (front ++ generator.regenerating changed :: back) targets
          otherWorkers otherChoices with
      | error failure =>
        rw [run_regenerating_error.mp after] at before
        cases before
      | ok second =>
        exact Or.inr ⟨first, second, rfl, after, run_regenerating_results elsewhere before after⟩

/-- An aggregate over a registry. -/
def overview : Generator where
  name := "overview"
  target := "server"
  isAggregate := true
  triggers := []
  outputs := fun _ => .ok ["overview.txt"]
  generate := fun _ _ => return .text ""

/-- The aggregate fails where it is run, once for the whole registry. -/
def brokenOverview (unit : Option (Declared Design.Unit)) (registry : Registry) : Step Produced :=
  match unit with
  | none => Step.fail (.raised "RuntimeError" "no overview")
  | some _ => overview.generate unit registry

theorem run_schedule_isolation_shop : ∃ first second,
    run shop [sheets, overview] ["server"] 2 id = .ok first ∧
    run shop [sheets, { overview with generate := brokenOverview }] ["server"] 1 id = .ok second ∧
    first.outcome.results[0]? = second.outcome.results[0]? ∧
    first.outcome.results[1]? = second.outcome.results[1]? := by
  have elsewhere : ∀ other, other ≠ none →
      brokenOverview other shop = overview.generate other shop := by
    intro other present
    cases other with
    | none => exact absurd rfl present
    | some unit => rfl
  have returns : (run shop ([sheets] ++ overview :: []) ["server"] 2 id).isOk = true := by
    decide +kernel
  have met : (sites shop ([sheets] ++ overview :: []) ["server"]).map Site.place = [0, 0, 1] := rfl
  have early : ∀ position < 2, ∀ site : Site,
      (sites shop ([sheets] ++ overview :: []) ["server"])[position]? = some site →
      ¬ (site.place = 1 ∧ site.unit = none) := by
    intro position small site found last
    have listed := congrArg (Option.map Site.place) found
    rw [← List.getElem?_map, met, Option.map_some, last.1] at listed
    have cases : position = 0 ∨ position = 1 := by omega
    rcases cases with rfl | rfl <;> simp at listed
  rcases (run_schedule_isolation shop ["server"]).2.1 [sheets] [] overview none brokenOverview
      elsewhere 2 id 1 id with ⟨failure, before, _⟩ | ⟨first, second, before, after, _, equal⟩
  · rw [before] at returns
    cases returns
  · exact ⟨first, second, before, after, equal 0 (early 0 (by omega)),
      equal 1 (early 1 (by omega))⟩

end Blueprint.Generation
