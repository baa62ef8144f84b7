import Blueprint.OrderedMap
import Blueprint.Registry
import Blueprint.Step
import Blueprint.Text.Case
import Blueprint.Text.Lines

/-!
What a generator is: the units that trigger it, the paths it announces for a unit, and the step that
produces them. A generator of units runs once for each unit that triggers it; an aggregate runs once
for the whole registry. Every generator has a logger of its own below the root; records that warn or
report an error are tagged unless their text starts with a tag.
-/

namespace Blueprint.Generation

/-- The logger above all others. -/
def rootLogger : String := "ddsl.gen"

/-- The part of a name after its last dot. -/
def lastSegment (name : String) : String :=
  String.ofList ((name.toList.reverse.takeWhile (· != '.')).reverse)

/-- The logger of a name; the root for none and for its own name. -/
def loggerName (name : Option String) : String :=
  match name with
  | none => rootLogger
  | some name => if name == rootLogger then rootLogger else rootLogger ++ "." ++ lastSegment name

/-- The logger of the engine itself. -/
def engineLogger : String := rootLogger ++ ".engine"

/-- A record of the log. -/
structure LogRecord where
  logger : String
  level : Level
  text : String
  deriving DecidableEq, Repr

/-- The levels by their names. -/
def levelNumbers : List (String × Nat) :=
  [("CRITICAL", 50), ("FATAL", 50), ("ERROR", 40), ("WARN", 30), ("WARNING", 30), ("INFO", 20),
    ("DEBUG", 10), ("NOTSET", 0)]

/-- The number of a level by its name, whatever its case. -/
def levelNumber? (name : String) : Option Nat := levelNumbers.lookup (Text.upper name)

/-- The level of the log: flags for more or less win over a name. -/
def resolveLevel (verbose quiet : Bool) (name : Option String) : Nat :=
  if verbose then 10
  else if quiet then 30
  else (name.bind levelNumber?).getD 20

/-- The tag of a level by its number. -/
def levelTag? (level : Nat) : Option String :=
  if level == 30 then some "[WARN]" else if level == 40 || level == 50 then some "[FAIL]" else none

/-- The line of a record: its text, tagged if it warns or reports an error and has no tag. -/
def logLine (level : Nat) (text : String) : String :=
  match levelTag? level with
  | some tag =>
    if (Text.trimStart text.toList).head? == some '[' then text else tag ++ " " ++ text
  | none => text

/-- The least level that a log at a level shows; a log without a level of its own shows warnings. -/
def threshold (level : Nat) : Nat := if level == 0 then 30 else level

/-- What a log prints of records given by level and text. Without a configured level it tags
nothing. -/
def printedLines (configured : Option Nat) (records : List (Nat × String)) : List String :=
  (records.filter fun record => decide (threshold (configured.getD 0) ≤ record.1)).map fun record =>
    if configured.isSome then logLine record.1 record.2 else record.2

def LogRecord.line (record : LogRecord) : String := logLine record.level.number record.text

open Design (UnitKind)

/-- A kind of unit with a condition, which may fail. -/
structure Trigger where
  kind : UnitKind
  accepts : Declared Design.Unit → Registry → Except Failure Bool

/-- The trigger looks at units of this kind. -/
def Trigger.matches (trigger : Trigger) (unit : Declared Design.Unit) : Bool :=
  unit.kind == trigger.kind

/-- What a generator gives: the text of its only file, or files by their paths. -/
inductive Produced where
  | text (content : String)
  | files (files : List (String × String))

/-- A generator. An aggregate is run without a unit. Announcing the paths for a unit may fail. What the
interpreter says of its own errors depends on the code at hand; it is told of a run where it is known. -/
structure Generator where
  name : String
  target : String
  isAggregate : Bool := false
  triggers : List Trigger
  outputs : Option (Declared Design.Unit) → Except Failure (List String)
  generate : Option (Declared Design.Unit) → Registry → Step Produced
  wording : Option (Declared Design.Unit) → Failure → Option String := fun _ _ => none

namespace Generator

/-- A generator of a run that is told how the interpreter words its own errors. -/
def told (wordings : String → Option (Declared Design.Unit) → Failure → String)
    (generator : Generator) : Generator :=
  { generator with wording := fun unit failure => some (wordings generator.name unit failure) }

/-- The first trigger that looks at a unit. -/
def triggerFor? (generator : Generator) (unit : Declared Design.Unit) : Option Trigger :=
  generator.triggers.find? (·.matches unit)

/-- The files of what was produced. Only announced paths may be produced. -/
def files (generator : Generator) (unit : Option (Declared Design.Unit)) (produced : Produced) :
    Except Failure (List (String × String)) := do
  let announced ← generator.outputs unit
  match produced with
  | .text content => match announced with
    | [path] => return [(path, content)]
    | _ => throw (.notOneOutput generator.name announced.length)
  | .files files =>
    let undeclared := (files.map (·.1)).filter fun path => !announced.contains path
    if undeclared.isEmpty then return OrderedMap.ofList files
    else throw (.undeclaredOutputs generator.name undeclared)

end Generator

/-- The unit does not come from a library. -/
def notLibrary (unit : Declared Design.Unit) (_ : Registry) : Except Failure Bool :=
  .ok !unit.isLibrary

/-- The unit is an entity that gets server code: it is not from a library and has a data source. -/
def serverEntity (unit : Declared Design.Unit) (registry : Registry) : Except Failure Bool :=
  if unit.isLibrary then .ok false
  else match unit.unit.entity? with
    | some entity => (registry.dataSourceFor entity).map (·.isSome)
    | none => .ok false

/-- Runs a step on the unit of a generator if a view shows it; other units produce nothing. -/
def onUnit {α : Type} (view : Design.Unit → Option α) (run : Declared α → Registry → Step Produced)
    (unit : Option (Declared Design.Unit)) (registry : Registry) : Step Produced :=
  match unit with
  | some declared => match view declared.unit with
    | some shown => run (declared.withUnit shown) registry
    | none => return .files []
  | none => return .files []

/-- The paths for the unit of a generator by its name. -/
def byName (paths : String → List String) (unit : Option (Declared Design.Unit)) :
    Except Failure (List String) :=
  match unit with
  | some declared => .ok (paths declared.name)
  | none => .ok []

end Blueprint.Generation
