import Blueprint.Json.Basic
import Blueprint.Json.Reader
import Blueprint.Text.Lines
import Blueprint.Text.Case

/-!
Checks on values from outside: settings, request bodies and new rows. A check gives the value that
was meant or the cause why there is none; an issue says where in the input the cause lies. Integers
are read generously: from true and false, from decimals without a fraction and from texts.

Settings come from environment variables. Names are found whatever their case; of two that differ
only in case the later wins. Values are texts; lists and maps are written as JSON.
-/

namespace Blueprint.Validation

/-- Why a value is refused. -/
inductive Cause where
  | missing
  | notText
  | notInteger
  | unreadableInteger
  /-- The text of an integer has too many digits. -/
  | oversizedInteger
  | fraction
  | notFinite
  | notList
  | notMap
  | notPath
  /-- The input is no object for the model of a name. -/
  | notModel (model : String)
  /-- The input is no object that fields could be taken from. -/
  | notObject
  /-- A rule of the model's own is broken. -/
  | rule (text : String)
  deriving DecidableEq, Repr

namespace Cause

/-- The wording of a cause. -/
def message : Cause → String
  | missing => "Field required"
  | notText => "Input should be a valid string"
  | notInteger => "Input should be a valid integer"
  | unreadableInteger => "Input should be a valid integer, unable to parse string as an integer"
  | oversizedInteger => "Unable to parse input string as an integer, exceeded maximum size"
  | fraction => "Input should be a valid integer, got a number with a fractional part"
  | notFinite => "Input should be a finite number"
  | notList => "Input should be a valid list"
  | notMap => "Input should be a valid dictionary"
  | notPath => "Input is not a valid path for <class 'pathlib.Path'>"
  | notModel model => s!"Input should be a valid dictionary or instance of {model}"
  | notObject => "Input should be a valid dictionary or object to extract fields from"
  | rule text => "Value error, " ++ text

/-- The code of a cause in a response. -/
def code : Cause → String
  | missing => "missing"
  | notText => "string_type"
  | notInteger => "int_type"
  | unreadableInteger => "int_parsing"
  | oversizedInteger => "int_parsing_size"
  | fraction => "int_from_float"
  | notFinite => "finite_number"
  | notList => "list_type"
  | notMap => "dict_type"
  | notPath => "path_type"
  | notModel _ => "model_type"
  | notObject => "model_attributes_type"
  | rule _ => "value_error"

end Cause

/-- A refused part of an input: where it stands, why, and what was given. -/
structure Issue where
  place : List String
  cause : Cause
  input : Json
  deriving Repr

/-- An issue deeper inside a value. -/
def Issue.within (part : String) (issue : Issue) : Issue :=
  { issue with place := part :: issue.place }

/-- The most digits that the text of an integer may have. -/
def digitLimit : Nat := 4300

/-- The value of digits with single underscores between them. -/
def groupedDigits? (previous : Option Char) (value : Nat) : List Char → Option Nat
  | [] => if previous.any Char.isDigit then some value else none
  | c :: rest =>
    if c.isDigit then groupedDigits? (some c) (value * 10 + (c.toNat - '0'.toNat)) rest
    else if c == '_' && previous.any Char.isDigit then groupedDigits? (some c) value rest
    else none

/-- A text without a point and the zeros after it. -/
def dropZeroFraction (text : List Char) : List Char :=
  let whole := text.takeWhile (· != '.')
  match text.dropWhile (· != '.') with
  | _ :: zeros => if zeros.all (· == '0') then whole else text
  | [] => text

/-- The integer that a text spells: blanks around it, a sign, single underscores between its digits
and a fraction of zeros are allowed. -/
def integerOfText? (text : String) : Option Int :=
  let signed := Text.trim text.toList
  let digits : List Char → Option Nat := fun chars => groupedDigits? none 0 (dropZeroFraction chars)
  match signed with
  | '-' :: rest => (digits rest).map fun n => -(n : Int)
  | '+' :: rest => (digits rest).map Int.ofNat
  | _ => (digits signed).map Int.ofNat

/-- Reads an integer. -/
def integer : Json → Except Cause Int
  | .bool value => .ok (if value then 1 else 0)
  | .int value => .ok value
  | .float value =>
    match value.ratio?, value.toInt? with
    | none, _ => .error .notFinite
    | some _, none => .error .fraction
    | some _, some value => .ok value
  | .str text =>
    if text.length > digitLimit then .error .oversizedInteger
    else match integerOfText? text with
      | some value => .ok value
      | none => .error .unreadableInteger
  | _ => .error .notInteger

/-- Reads a text. -/
def text : Json → Except Cause String
  | .str value => .ok value
  | _ => .error .notText

/-- Reads a value that may be null. -/
def optional {α : Type} (read : Json → Except Cause α) : Json → Except Cause (Option α)
  | .null => .ok none
  | value => (read value).map some

/-- What became of a field: its value, or its issues. -/
abbrev Checked (α : Type) := Except (List Issue) α

/-- Checks a value that stands at a place. -/
def checkAt {α : Type} (place : List String) (read : Json → Except Cause α) (input : Json) :
    Checked α :=
  match read input with
  | .ok value => .ok value
  | .error cause => .error [⟨place, cause, input⟩]

/-- The issues of a check. -/
def issuesOf {α : Type} : Checked α → List Issue
  | .ok _ => []
  | .error issues => issues

/-- Checks every item of a list and gathers all issues. -/
def each {α : Type} (check : Nat → Json → Checked α) : Nat → List Json → Checked (List α)
  | _, [] => .ok []
  | n, item :: rest =>
    match check n item, each check (n + 1) rest with
    | .ok value, .ok values => .ok (value :: values)
    | first, others => .error (issuesOf first ++ issuesOf others)

end Blueprint.Validation

namespace Blueprint

/-- Environment variables with their values. -/
abbrev Environment := List (String × String)

/-- The value of a variable, whatever the case of its name. -/
def Environment.value? (environment : Environment) (name : String) : Option String :=
  (environment.reverse.find? fun entry => Text.lower entry.1 == Text.lower name).map (·.2)

/-- Why settings cannot be read. -/
inductive SettingsFault where
  /-- The variable of a field does not hold JSON. -/
  | unreadable (field : String)
  | invalid (issues : List Validation.Issue)
  deriving Repr

/-- The value of a variable that holds JSON; null stands for none. -/
def Environment.json? (environment : Environment) (name field : String) :
    Except SettingsFault (Option Json) :=
  match environment.value? name with
  | none => .ok none
  | some text =>
    match Json.parse? text with
    | none => .error (.unreadable field)
    | some .null => .ok none
    | some value => .ok (some value)

/-- The wording for a variable that does not hold JSON. -/
def unreadableMessage (field : String) : String :=
  s!"error parsing value for field \"{field}\" from source \"EnvSettingsSource\""

end Blueprint
