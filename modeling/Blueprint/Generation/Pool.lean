import Blueprint.Generation.Task

/-!
The pool: tasks that run side by side and share a log. A task waits for a worker, says one thing
after another into notes of its own and into the log, and ends. Which of the tasks that can go on
does so next is free: the choices say it, and any order of steps is some sequence of choices.
-/

namespace Blueprint.Generation

/-- How far a task has come: it waits, it has said some of what it has to say, or it has ended. -/
inductive Progress where
  | waiting
  | running (said left : List Note) (outcome : Except Failure Produced)
  | finished (result : UnitResult)

/-- A task in a pool. -/
structure Job where
  task : Task
  progress : Progress

namespace Job

/-- One step of a job, with the records that it leaves. -/
def advance (registry : Registry) (job : Job) : Job × List LogRecord :=
  match job.progress with
  | .waiting =>
    let step := job.task.generator.generate job.task.unit registry
    (⟨job.task, .running [] step.notes step.outcome⟩, [])
  | .running said (note :: left) outcome =>
    (⟨job.task, .running (said ++ [note]) left outcome⟩, [job.task.record note])
  | .running said [] outcome =>
    let closed := job.task.close said outcome
    (⟨job.task, .finished closed.result⟩, closed.records)
  | .finished result => (⟨job.task, .finished result⟩, [])

/-- The job has a worker. -/
def isRunning (job : Job) : Bool :=
  match job.progress with
  | .running .. => true
  | _ => false

/-- The job can go on; one that waits needs a free worker. -/
def isAble (hasRoom : Bool) (job : Job) : Bool :=
  match job.progress with
  | .waiting => hasRoom
  | .running .. => true
  | .finished _ => false

def result? (job : Job) : Option UnitResult :=
  match job.progress with
  | .finished result => some result
  | _ => none

/-- The number of steps that a job has before it. -/
def work (registry : Registry) (job : Job) : Nat :=
  match job.progress with
  | .waiting => (job.task.generator.generate job.task.unit registry).notes.length + 2
  | .running _ left _ => left.length + 1
  | .finished _ => 0

theorem work_advance {registry : Registry} {job : Job} {hasRoom : Bool}
    (able : job.isAble hasRoom = true) :
    (job.advance registry).1.work registry < job.work registry := by
  obtain ⟨task, progress⟩ := job
  cases progress with
  | waiting => simp [advance, work]
  | running said left outcome => cases left <;> simp [advance, work]
  | finished result => cases able

end Job

/-- Tasks in the order in which they were handed in, and the log that they share. -/
structure Pool where
  jobs : List Job
  records : List LogRecord

namespace Pool

/-- A pool in which every task waits. -/
def of (tasks : List Task) : Pool := ⟨tasks.map (⟨·, .waiting⟩), []⟩

/-- Some worker is free. -/
def hasRoom (workers : Nat) (pool : Pool) : Bool := pool.jobs.countP Job.isRunning < workers

/-- The places of the jobs that can go on. -/
def able (workers : Nat) (pool : Pool) : List Nat :=
  (List.range pool.jobs.length).filter fun place =>
    pool.jobs[place]?.any (Job.isAble (pool.hasRoom workers))

/-- One step of the job at a place. -/
def advance (registry : Registry) (place : Nat) (pool : Pool) : Pool :=
  match pool.jobs[place]? with
  | some job =>
    let (changed, records) := job.advance registry
    ⟨pool.jobs.set place changed, pool.records ++ records⟩
  | none => pool

/-- The results of the jobs that have ended, in the order in which the tasks were handed in. -/
def results (pool : Pool) : List UnitResult := pool.jobs.filterMap Job.result?

/-- The number of steps that the jobs have before them. -/
def work (registry : Registry) (pool : Pool) : Nat :=
  pool.jobs.foldr (fun job total => job.work registry + total) 0

theorem mem_able {workers place : Nat} {pool : Pool} :
    place ∈ pool.able workers ↔
      ∃ job, pool.jobs[place]? = some job ∧ job.isAble (pool.hasRoom workers) = true := by
  simp only [able, List.mem_filter, List.mem_range, Option.any_eq_true]
  constructor
  · rintro ⟨_, job, found, can⟩
    exact ⟨job, found, can⟩
  · rintro ⟨job, found, can⟩
    exact ⟨(List.getElem?_eq_some_iff.mp found).1, job, found, can⟩

private theorem total_set_lt {registry : Registry} {jobs : List Job} {place : Nat}
    {job changed : Job} (found : jobs[place]? = some job)
    (less : changed.work registry < job.work registry) :
    (jobs.set place changed).foldr (fun job total => job.work registry + total) 0 <
      jobs.foldr (fun job total => job.work registry + total) 0 := by
  induction jobs generalizing place with
  | nil => simp at found
  | cons first jobs ih =>
    cases place with
    | zero =>
      obtain rfl : first = job := by simpa using found
      simpa using less
    | succ place =>
      have inside : jobs[place]? = some job := by simpa using found
      simpa using ih inside

theorem work_advance {registry : Registry} {workers place : Nat} {pool : Pool}
    (member : place ∈ pool.able workers) :
    (pool.advance registry place).work registry < pool.work registry := by
  obtain ⟨job, found, can⟩ := mem_able.mp member
  simp only [advance, found, work]
  exact total_set_lt found (Job.work_advance can)

/-- One of the places, whatever number is given. -/
def pick? (choice : Nat) (places : List Nat) : Option Nat := places[choice % places.length]?

theorem mem_of_pick? {choice place : Nat} {places : List Nat}
    (picked : pick? choice places = some place) : place ∈ places :=
  List.mem_of_getElem? picked

/-- Lets jobs go on until none can. -/
def drain (registry : Registry) (workers : Nat) (choices : Nat → Nat) (pool : Pool) : Pool :=
  match picked : pick? (choices 0) (pool.able workers) with
  | none => pool
  | some place =>
    (pool.advance registry place).drain registry workers fun time => choices (time + 1)
termination_by pool.work registry
decreasing_by exact work_advance (mem_of_pick? picked)

end Pool

end Blueprint.Generation
