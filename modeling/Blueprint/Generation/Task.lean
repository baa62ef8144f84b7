import Blueprint.Generation.Generator

/-!
Tasks and their results. A task runs a generator for a unit, or once as an aggregate; it ends with
files, is skipped, or fails and produces nothing. What it noted on the way stays with its result.
-/

namespace Blueprint.Generation

open Design (UnitKind)

/-- Where a unit stands on its way through a generator. -/
inductive UnitState where
  | pending | triggered | generated | skipped | failed
  deriving DecidableEq, Repr

def UnitState.name : UnitState → String
  | pending => "Pending"
  | triggered => "Triggered"
  | generated => "Generated"
  | skipped => "Skipped"
  | failed => "Failed"

/-- A warning or an error with where it arose. -/
structure Diagnostic where
  level : Level
  message : String
  generator : Option String
  unit : Option String
  deriving DecidableEq, Repr

/-- The name of a level in a diagnostic. -/
def levelWord : Level → String
  | .debug => "DEBUG"
  | .info => "INFO"
  | .warning => "WARNING"
  | .error => "ERROR"

/-- A diagnostic on a line, given its level in capitals. -/
def diagnosticText (level message : String) (places : List (Option String)) : String :=
  let places := places.filterMap fun place => place.filter (!·.isEmpty)
  if places.isEmpty then level ++ ": " ++ message
  else level ++ " " ++ "/".intercalate places ++ ": " ++ message

def Diagnostic.text (diagnostic : Diagnostic) : String :=
  diagnosticText (levelWord diagnostic.level) diagnostic.message
    [diagnostic.generator, diagnostic.unit]

/-- What became of a unit under a generator; aggregates have no unit. -/
structure UnitResult where
  generator : String
  unit : Option String
  kind : Option UnitKind
  state : UnitState := .pending
  files : List (String × String) := []
  diagnostics : List Diagnostic := []
  reason : Option String := none

/-- A name that is there. -/
def named? (name : String) : Option String := if name.isEmpty then none else some name

/-- A result by its generator and unit. -/
def UnitResult.label (result : UnitResult) : String :=
  match result.unit.bind named? with
  | some unit => result.generator ++ "/" ++ unit
  | none => result.generator

/-- The results of a run, in order. -/
structure RunResult where
  results : List UnitResult

namespace RunResult

/-- All files; on a path given twice the later content wins at the earlier place. -/
def files (run : RunResult) : List (String × String) :=
  run.results.foldl (fun files result => OrderedMap.putAll files result.files) []

/-- The results in a state. -/
def inState (run : RunResult) (state : UnitState) : List UnitResult :=
  run.results.filter (·.state == state)

/-- All diagnostics, in order. -/
def diagnostics (run : RunResult) : List Diagnostic := run.results.flatMap (·.diagnostics)

/-- Nothing failed. -/
def ok (run : RunResult) : Bool := (run.inState .failed).isEmpty

/-- The state of the first result of a generator and a unit. -/
def stateOf? (run : RunResult) (generator : String) (unit : Option String) : Option UnitState :=
  (run.results.find? fun result =>
    result.generator == generator && result.unit == unit).map (·.state)

end RunResult

/-- The tag of a level in the text of a record. -/
def noteTag : Level → String
  | .warning => "[WARN] "
  | .error => "[FAIL] "
  | _ => ""

/-- The record of a note that a generator leaves about a unit. -/
def noteRecord (generator : String) (unit : Option String) (note : Note) : LogRecord :=
  let place := match unit.bind named? with
    | some name => "[" ++ name ++ "] "
    | none => ""
  ⟨loggerName (named? generator), note.level, "  " ++ noteTag note.level ++ place ++ note.text⟩

/-- The diagnostics among the notes of a generator about a unit. -/
def diagnosticsOf (generator : String) (unit : Option String) (notes : List Note) :
    List Diagnostic :=
  (notes.filter fun note => note.level == .warning || note.level == .error).map fun note =>
    ⟨note.level, note.text, named? generator, unit.bind named?⟩

/-- A record of the engine. -/
def engineRecord (level : Level) (text : String) : LogRecord := ⟨engineLogger, level, text⟩

/-- A result together with the records on the way to it. -/
structure Finished where
  result : UnitResult
  records : List LogRecord

/-- The result of a failure after some notes, with the records that the failure leaves. -/
def failedResult (result : UnitResult) (notes : List Note) (failure : Failure)
    (said : Option String) : Finished :=
  let last : Note := ⟨.error, failure.report said⟩
  { result := { result with
      files := [], state := .failed, reason := some (failure.message said)
      diagnostics := diagnosticsOf result.generator result.unit (notes ++ [last]) }
    records := [noteRecord result.generator result.unit last, engineRecord .debug "  traceback"] }

/-- A generator that is to run, for a unit or as an aggregate. -/
structure Task where
  generator : Generator
  unit : Option (Declared Design.Unit)

namespace Task

/-- The result of a task before it runs. -/
def blank (task : Task) : UnitResult :=
  { generator := task.generator.name
    unit := task.unit.map Declared.name
    kind := task.unit.map Declared.kind
    state := .triggered }

/-- The record of a note that a task leaves. -/
def record (task : Task) (note : Note) : LogRecord :=
  noteRecord task.blank.generator task.blank.unit note

/-- The end of a task, from what it noted and produced, with the records that its end leaves. -/
def close (task : Task) (notes : List Note) (outcome : Except Failure Produced) : Finished :=
  let blank := task.blank
  let diagnostics := diagnosticsOf blank.generator blank.unit notes
  match outcome >>= task.generator.files task.unit with
  | .ok files =>
    { result := { blank with state := .generated, files, diagnostics }
      records := [engineRecord .info
        ("  [OK] " ++ blank.label ++ " (" ++ toString files.length ++ " file(s))")] }
  | .error (.skipped reason) =>
    { result := { blank with state := .skipped, reason := some reason, diagnostics }
      records := [engineRecord .info ("  [SKIP] " ++ blank.label ++ ": " ++ reason)] }
  | .error failure =>
    failedResult blank notes failure (task.generator.wording task.unit failure)

/-- Runs a task from beginning to end. -/
def run (task : Task) (registry : Registry) : Finished :=
  let step := task.generator.generate task.unit registry
  let closed := task.close step.notes step.outcome
  { closed with records := step.notes.map task.record ++ closed.records }

end Task

end Blueprint.Generation
