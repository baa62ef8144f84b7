import Blueprint.Design.Unit

/-!
Steps of generation and why they fail. A step leaves notes and gives a value or fails; what it noted
before it failed stays. Steps are values, so the same step always says and gives the same. Causes
that lie in the design are design errors; the others come from code that an author supplied or from
the way a generator was put together.
-/

namespace Blueprint

open Design (UnitKind)

/-- Why a step of generation fails. -/
inductive Failure where
  /-- A unit refers to another that is not declared. -/
  | unitNotFound (kind : UnitKind) (name : String) (referrer : Option String)
  /-- A source tree lacks a declaration that it should have. -/
  | missingDeclaration (tree declaration : String)
  | repeatedUnit (kind : UnitKind) (name : String)
  | mixinsOfOther (kind : UnitKind) (name : String)
  | repeatedForeignKey (entity key first second : String)
  | requiredAfterOptional (behavior param : String)
  /-- A generator gave one text but announced another number of files. -/
  | notOneOutput (generator : String) (announced : Nat)
  /-- A generator gave files that it did not announce. -/
  | undeclaredOutputs (generator : String) (paths : List String)
  /-- A design error in a generator's own words. -/
  | design (text : String)
  /-- A condition for generating a unit is not met; this is no error. -/
  | skipped (reason : String)
  /-- Server code cannot be read. -/
  | unreadableCode
  /-- An imports block holds another statement. -/
  | notAnImport (statement : String)
  | unknownSplicePosition (position : String)
  /-- A value that cannot be used, in a generator's own words. -/
  | badValue (text : String)
  /-- A key that is missing, in a generator's own words. -/
  | missingKey (text : String)
  /-- Values of the wrong kinds. -/
  | wrongType
  /-- A place beyond the end of a list. -/
  | outOfRange
  /-- A failure of any other kind, in a generator's own words. -/
  | raised (kind text : String)
  deriving DecidableEq, Repr

namespace Failure

/-- The name under which a failure is reported. -/
def kindName : Failure → String
  | unitNotFound .. => "UnitNotFoundError"
  | missingDeclaration .. => "MissingDeclarationError"
  | repeatedUnit .. => "DuplicateUnitError"
  | mixinsOfOther .. | repeatedForeignKey .. | requiredAfterOptional .. | notOneOutput ..
  | undeclaredOutputs .. | design .. => "DesignError"
  | skipped .. => "GenerationSkipped"
  | unreadableCode => "SyntaxError"
  | notAnImport .. | unknownSplicePosition .. | badValue .. => "ValueError"
  | missingKey .. => "KeyError"
  | wrongType => "TypeError"
  | outOfRange => "IndexError"
  | raised kind _ => kind

/-- The cause lies in the design. -/
def isDesign : Failure → Bool
  | unitNotFound .. | missingDeclaration .. | repeatedUnit .. | mixinsOfOther ..
  | repeatedForeignKey .. | requiredAfterOptional .. | notOneOutput .. | undeclaredOutputs ..
  | design .. => true
  | _ => false

/-- The wording of a failure; none for those that the interpreter words. -/
def message? : Failure → Option String
  | unitNotFound kind name referrer =>
    let origin := match referrer with
      | some origin => s!" (referenced by '{origin}')"
      | none => ""
    some s!"{kind.name} '{name}' not found{origin}."
  | missingDeclaration tree declaration => some s!"Could not find {declaration} in {tree}."
  | repeatedUnit kind name => some s!"{kind.name} with name '{name}' is declared more than once."
  | mixinsOfOther kind name => some s!"{kind.name} '{name}' cannot apply mixins."
  | repeatedForeignKey entity key first second =>
    some s!"Entity '{entity}': foreign key '{key}' is used by both '{first}' and '{second}'."
  | requiredAfterOptional behavior param =>
    some s!"Behavior '{behavior}': required parameter '{param}' follows an optional one."
  | notOneOutput generator announced =>
    some s!"Generator '{generator}' returned a single file but declares {announced} outputs."
  | undeclaredOutputs generator paths =>
    let list := ", ".intercalate paths
    some s!"Generator '{generator}' produced undeclared paths: {list}"
  | design text | skipped text | badValue text | missingKey text | raised _ text => some text
  | notAnImport statement =>
    some s!"Only import statements are allowed in an imports block, got: {statement}"
  | unknownSplicePosition position => some s!"Unknown splice position '{position}'."
  | unreadableCode | wrongType | outOfRange => none

/-- The wording of a failure, or its name when it has no other. What the interpreter says of an error
that it words may be known. -/
def message (failure : Failure) (said : Option String := none) : String :=
  (failure.message?.or said).getD failure.kindName

/-- A failure as it is reported: design errors by their wording, the others with their name in
front. -/
def report (failure : Failure) (said : Option String := none) : String :=
  match failure.message?.or said with
  | some text => if failure.isDesign then text else s!"{failure.kindName}: {text}"
  | none => failure.kindName

end Failure

@[simp] theorem ok_bind {ε α β : Type} (value : α) (next : α → Except ε β) :
    (.ok value >>= next : Except ε β) = next value := rfl

@[simp] theorem error_bind {ε α β : Type} (failure : ε) (next : α → Except ε β) :
    (.error failure >>= next : Except ε β) = .error failure := rfl

theorem bind_eq_ok_iff {ε α β : Type} {first : Except ε α} {next : α → Except ε β} {result : β} :
    (first >>= next) = .ok result ↔ ∃ value, first = .ok value ∧ next value = .ok result := by
  cases first with
  | ok value => simp
  | error failure => simp

/-- How much a note matters. -/
inductive Level where
  | debug | info | warning | error
  deriving DecidableEq, Repr

/-- The number by which levels are compared. -/
def Level.number : Level → Nat
  | .debug => 10
  | .info => 20
  | .warning => 30
  | .error => 40

/-- Something that a step has to say. -/
structure Note where
  level : Level
  text : String
  deriving DecidableEq, Repr

/-- A step: its notes, and its value or why it failed. -/
structure Step (α : Type) where
  notes : List Note
  outcome : Except Failure α

namespace Step

variable {α β : Type}

/-- Gives a value and says nothing. -/
def give (value : α) : Step α := ⟨[], .ok value⟩

/-- Fails and says nothing. -/
def fail (failure : Failure) : Step α := ⟨[], .error failure⟩

/-- One step after another. A failure keeps the notes left so far. -/
def andThen (first : Step α) (next : α → Step β) : Step β :=
  match first.outcome with
  | .ok value => ⟨first.notes ++ (next value).notes, (next value).outcome⟩
  | .error failure => ⟨first.notes, .error failure⟩

instance : Monad Step where
  pure := give
  bind := andThen

@[simp] theorem outcome_pure (value : α) : (pure value : Step α).outcome = .ok value := rfl

/-- The outcomes of a chain of steps are a chain of outcomes. -/
@[simp] theorem outcome_bind (first : Step α) (next : α → Step β) :
    (first >>= next).outcome = first.outcome >>= fun value => (next value).outcome := by
  change (first.andThen next).outcome = _
  unfold andThen
  cases first.outcome with
  | ok value => rfl
  | error failure => rfl

theorem bind_eq_ok_iff {first : Step α} {next : α → Step β} {result : β} :
    (first >>= next).outcome = .ok result ↔
      ∃ value, first.outcome = .ok value ∧ (next value).outcome = .ok result := by
  rw [outcome_bind]
  exact Blueprint.bind_eq_ok_iff

/-- Leaves a note. -/
def note (level : Level) (text : String) : Step PUnit := ⟨[⟨level, text⟩], .ok ⟨⟩⟩

def debug (text : String) : Step PUnit := note .debug text

def warning (text : String) : Step PUnit := note .warning text

/-- The step without its notes. -/
def silently (step : Step α) : Step α := { step with notes := [] }

/-- The step of an outcome. -/
def ofExcept (outcome : Except Failure α) : Step α := ⟨[], outcome⟩

@[simp] theorem outcome_fail (failure : Failure) :
    (fail failure : Step α).outcome = .error failure := rfl

@[simp] theorem outcome_note (level : Level) (text : String) :
    (note level text).outcome = .ok ⟨⟩ := rfl

@[simp] theorem outcome_debug (text : String) : (debug text).outcome = .ok ⟨⟩ := rfl

@[simp] theorem outcome_silently (step : Step α) : step.silently.outcome = step.outcome := rfl

@[simp] theorem outcome_ofExcept (outcome : Except Failure α) :
    (ofExcept outcome).outcome = outcome := rfl

/-- The warnings and errors among the notes. -/
def problems (step : Step α) : List Note :=
  step.notes.filter fun note => note.level == .warning || note.level == .error

end Step

end Blueprint
