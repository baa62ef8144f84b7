import Blueprint.Generation.Pool

/-!
The engine: for every generator it finds the units that trigger it, runs the generator for each of
them and collects the files. A unit that fails produces nothing and leaves the others alone. Results
come generator by generator and, within one, unit by unit.
-/

namespace Blueprint.Generation

/-- An entry of a plan: a result that is decided already, or a task. -/
inductive Planned where
  | decided (result : UnitResult)
  | task (task : Task)

/-- The task of an entry that is one. -/
def Planned.task? : Planned → Option Task
  | .task work => some work
  | .decided _ => none

/-- A plan with the records that were left while it was made. -/
structure Plan where
  entries : List Planned := []
  records : List LogRecord := []

/-- One plan followed by another. -/
def Plan.append (first second : Plan) : Plan :=
  ⟨first.entries ++ second.entries, first.records ++ second.records⟩

/-- The tasks of a plan. -/
def Plan.tasks (plan : Plan) : List Task := plan.entries.filterMap Planned.task?

/-- The plan for a unit that a generator looks at. A condition that fails, fails this unit only. -/
def planUnit (generator : Generator) (registry : Registry) (unit : Declared Design.Unit)
    (trigger : Trigger) : Plan :=
  let result : UnitResult :=
    { generator := generator.name, unit := some unit.name, kind := some unit.kind }
  match trigger.accepts unit registry with
  | .ok true => ⟨[.task ⟨generator, some unit⟩], []⟩
  | .ok false =>
    ⟨[.decided { result with state := .skipped, reason := some "predicate" }],
      [engineRecord .debug ("  [SKIP] " ++ result.label ++ ": not applicable")]⟩
  | .error failure =>
    let failed := failedResult result [] failure (generator.wording (some unit) failure)
    ⟨[.decided failed.result], failed.records⟩

/-- The plan for all units that a generator looks at. -/
def planUnits (generator : Generator) (registry : Registry) : List (Declared Design.Unit) → Plan
  | [] => {}
  | unit :: rest =>
    match generator.triggerFor? unit with
    | some trigger =>
      (planUnit generator registry unit trigger).append (planUnits generator registry rest)
    | none => planUnits generator registry rest

/-- Whether some candidate of an aggregate is accepted, with the records up to the answer. Design
errors pass a candidate over; any other failure ends the search. -/
def someAccepted (generator : Generator) (registry : Registry) :
    List (Trigger × Declared Design.Unit) → List LogRecord → Except Failure (Bool × List LogRecord)
  | [], records => .ok (false, records)
  | (trigger, unit) :: rest, records =>
    match trigger.accepts unit registry with
    | .ok true => .ok (true, records)
    | .ok false => someAccepted generator registry rest records
    | .error failure =>
      if failure.isDesign then
        someAccepted generator registry rest (records ++ [engineRecord .debug
          ("  [SKIP] " ++ generator.name ++ ": " ++ unit.name ++ " not applicable (" ++
            failure.message ++ ")")])
      else .error failure

/-- The candidates of an aggregate: trigger by trigger, the units that it looks at. -/
def candidates (generator : Generator) (registry : Registry) :
    List (Trigger × Declared Design.Unit) :=
  generator.triggers.flatMap fun trigger =>
    (registry.units.filter trigger.matches).map fun unit => (trigger, unit)

/-- The plan for an aggregate: one task if it has no triggers or some unit is accepted. -/
def planAggregate (generator : Generator) (registry : Registry) : Except Failure Plan :=
  if generator.triggers.isEmpty then .ok ⟨[.task ⟨generator, none⟩], []⟩
  else (someAccepted generator registry (candidates generator registry) []).map
    fun (accepted, records) => ⟨if accepted then [.task ⟨generator, none⟩] else [], records⟩

/-- The plan for a generator. -/
def planGenerator (registry : Registry) (generator : Generator) : Except Failure Plan :=
  if generator.isAggregate then planAggregate generator registry
  else .ok (planUnits generator registry registry.units)

/-- The plan for generators in order. -/
def planAll (registry : Registry) : List Generator → Except Failure Plan
  | [] => .ok {}
  | generator :: rest => do
    let first ← planGenerator registry generator
    let others ← planAll registry rest
    return first.append others

/-- The generators whose targets are selected. -/
def select (targets : List String) (generators : List Generator) : List Generator :=
  generators.filter fun generator => targets.contains generator.target

/-- The announced paths of every task of a plan. -/
def announced (plan : Plan) : Except Failure (List (String × Option String × List String)) :=
  plan.tasks.mapM fun task => do
    let paths ← task.generator.outputs task.unit
    return (task.generator.name, task.unit.map Declared.name, paths)

/-- How many tasks may run side by side; there is at least one worker. -/
def workerCount (workers : Int) : Nat := max 1 workers.toNat

/-- Runs tasks, side by side if there are several of them and several workers: their results in the
order of the tasks, and the records that they left. -/
def perform (registry : Registry) (workers : Nat) (choices : Nat → Nat) (tasks : List Task) :
    List UnitResult × List LogRecord :=
  if 1 < workers && 1 < tasks.length then
    let pool := (Pool.of tasks).drain registry workers choices
    (pool.results, pool.records)
  else
    let finished := tasks.map (·.run registry)
    (finished.map (·.result), finished.flatMap (·.records))

/-- The results of a plan in order: those decided already, and in the places of the tasks the
finished ones, which are taken one after the other. -/
def weave : List Planned → List UnitResult → Except Failure (List UnitResult)
  | [], _ => .ok []
  | .decided result :: entries, finished => do return result :: (← weave entries finished)
  | .task _ :: entries, result :: finished => do return result :: (← weave entries finished)
  | .task _ :: _, [] => .error (.raised "StopIteration" "")

/-- A run: its results and its log. -/
structure Run where
  outcome : RunResult
  records : List LogRecord

/-- Runs generators over a registry. Only a failure of the plan itself is a failure of the run. -/
def run (registry : Registry) (generators : List Generator) (targets : List String)
    (workers : Int) (choices : Nat → Nat) : Except Failure Run := do
  let selected := select targets generators
  let plan ← planAll registry selected
  let (finished, records) := perform registry (workerCount workers) choices plan.tasks
  let results ← weave plan.entries finished
  let outcome : RunResult := ⟨results⟩
  let count (state : UnitState) : String := toString (outcome.inState state).length
  let start := engineRecord .info ("[ENGINE] " ++ toString plan.tasks.length ++
    " task(s) across " ++ toString selected.length ++ " generator(s)")
  let finish := engineRecord .info ("[ENGINE] generated " ++ count .generated ++ ", skipped " ++
    count .skipped ++ ", failed " ++ count .failed)
  return { outcome, records := plan.records ++ start :: records ++ [finish] }

end Blueprint.Generation
