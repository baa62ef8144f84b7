import Blueprint.Design.Unit
import Blueprint.Text.Case

/-!
Checking the options of properties and methods. Every option has a type; an option may be written in
camel case or with underscores. All problems of a bag are reported together: those of the known
options in the order of their declaration, then the options that are not known.
-/

namespace Blueprint.Design

/-- What is wrong with an option. -/
inductive OptionIssue where
  | notBoolean
  | unclearBoolean
  | notText
  | notObject
  | notRule
  | notReadMode
  | notScope
  | missing
  | unknown
  deriving DecidableEq, Repr

/-- The wording of an issue. -/
def OptionIssue.message : OptionIssue → String
  | .notBoolean => "Input should be a valid boolean"
  | .unclearBoolean => "Input should be a valid boolean, unable to interpret input"
  | .notText => "Input should be a valid string"
  | .notObject => "Input should be a valid dictionary"
  | .notRule => "Input should be a valid dictionary or instance of ConditionalRule"
  | .notReadMode => "Input should be 'Automatically' or 'On Demand'"
  | .notScope => "Input should be 'public', 'private' or 'protected'"
  | .missing => "Field required"
  | .unknown => "Extra inputs are not permitted"

/-- An issue and the option it concerns, with the path to it. -/
structure OptionProblem where
  path : List String
  issue : OptionIssue
  deriving DecidableEq, Repr

/-- A problem as it is shown. -/
def OptionProblem.message (problem : OptionProblem) : String :=
  ".".intercalate problem.path ++ ": " ++ problem.issue.message

/-- Reads the value of an option, or says what is wrong with it. -/
abbrev OptionType (α : Type) := Json → Except (List OptionProblem) α

namespace OptionType

private def refuse {α : Type} (issue : OptionIssue) : Except (List OptionProblem) α :=
  .error [⟨[], issue⟩]

/-- Texts that stand for yes. -/
def yesTexts : List String := ["1", "on", "t", "true", "y", "yes"]

/-- Texts that stand for no. -/
def noTexts : List String := ["0", "off", "f", "false", "n", "no"]

/-- Yes or no: also as zero or one and as one of the usual words. -/
def boolean : OptionType Bool
  | .bool value => .ok value
  | .int 0 => .ok false
  | .int 1 => .ok true
  | .int _ => refuse .unclearBoolean
  | .float value =>
    match value.toInt? with
    | some 0 => .ok false
    | some 1 => .ok true
    | _ => refuse .notBoolean
  | .str value =>
    let word := Text.lower value
    if yesTexts.contains word then .ok true
    else if noTexts.contains word then .ok false
    else refuse .unclearBoolean
  | _ => refuse .notBoolean

/-- A text. -/
def text : OptionType String
  | .str value => .ok value
  | _ => refuse .notText

/-- An object of anything. -/
def object : OptionType (List (String × Json))
  | .obj fields => .ok fields
  | _ => refuse .notObject

/-- When to read or save. -/
def readMode : OptionType ReadMode
  | .str "Automatically" => .ok .automatically
  | .str "On Demand" => .ok .onDemand
  | _ => refuse .notReadMode

/-- Who may call a method. -/
def scope : OptionType Scope
  | .str "public" => .ok .anyone
  | .str "private" => .ok .itself
  | .str "protected" => .ok .subclasses
  | _ => refuse .notScope

end OptionType

/-- Collects problems while the options of a bag are read. -/
abbrev Checking := StateM (List OptionProblem)

/-- An option's name with underscores: `displayName` is `display_name`. -/
def underscored (name : String) : String :=
  String.ofList (name.toList.flatMap fun c => if c.isUpper then ['_', c.toLower] else [c])

/-- The key by which an option is given. The name in camel case comes first. -/
def givenKey? (bag : List (String × Json)) (name : String) : Option String :=
  [name, underscored name].find? fun key => OrderedMap.has key bag

/-- Reads an option if it is given. -/
def option {α : Type} (bag : List (String × Json)) (name : String) (type : OptionType α) :
    Checking (Option α) := do
  match givenKey? bag name with
  | none => return none
  | some key =>
    match type ((bag.lookup key).getD .null) with
    | .ok value => return some value
    | .error problems =>
      modify (· ++ problems.map fun problem => { problem with path := key :: problem.path })
      return none

/-- Reports the given keys that belong to none of the named options. -/
def refuseOthers (bag : List (String × Json)) (names : List String) : Checking PUnit := do
  let known := names.filterMap (givenKey? bag)
  modify (· ++ (bag.filter fun entry => !known.contains entry.1).map
    fun entry => ⟨[entry.1], .unknown⟩)

/-- The result of a checking that found no problem. -/
def Checking.result {α : Type} (checking : Checking α) : Except (List OptionProblem) α :=
  match checking.run [] with
  | (value, []) => .ok value
  | (_, problems) => .error problems

/-- A rule with a condition, given as an object or by its condition alone. -/
def OptionType.rule : OptionType ConditionalRule
  | .str condition => .ok { condition }
  | .obj fields => Checking.result do
    let condition ← option fields "condition" OptionType.text
    if !OrderedMap.has "condition" fields then modify (· ++ [⟨["condition"], .missing⟩])
    let message ← option fields "message" OptionType.text
    refuseOthers fields ["condition", "message"]
    return { condition := condition.getD "", message }
  | _ => .error [⟨[], .notRule⟩]

/-- The names of the options of a property. -/
def PropertyOptions.names : List String :=
  ["id", "required", "column", "hidden", "disabled", "displayName", "placeholder", "helpText",
    "presentAs", "requiredWhen", "excludeWhen", "disabledWhen", "belongsTo", "hasMany", "hasOne",
    "references", "foreignKey", "input", "read", "save", "onChangeCall", "afterReadCall",
    "include", "order"]

/-- The options of a property. -/
def PropertyOptions.check (bag : List (String × Json)) :
    Except (List OptionProblem) PropertyOptions := Checking.result do
  let id ← option bag "id" OptionType.boolean
  let required ← option bag "required" OptionType.boolean
  let column ← option bag "column" OptionType.object
  let hidden ← option bag "hidden" OptionType.boolean
  let disabled ← option bag "disabled" OptionType.boolean
  let displayName ← option bag "displayName" OptionType.text
  let placeholder ← option bag "placeholder" OptionType.text
  let helpText ← option bag "helpText" OptionType.text
  let presentAs ← option bag "presentAs" OptionType.text
  let requiredWhen ← option bag "requiredWhen" OptionType.rule
  let excludeWhen ← option bag "excludeWhen" OptionType.rule
  let disabledWhen ← option bag "disabledWhen" OptionType.rule
  let belongsTo ← option bag "belongsTo" OptionType.boolean
  let hasMany ← option bag "hasMany" OptionType.boolean
  let hasOne ← option bag "hasOne" OptionType.boolean
  let references ← option bag "references" OptionType.boolean
  let foreignKey ← option bag "foreignKey" OptionType.text
  let input ← option bag "input" OptionType.boolean
  let read ← option bag "read" OptionType.readMode
  let save ← option bag "save" OptionType.readMode
  let onChangeCall ← option bag "onChangeCall" OptionType.text
  let afterReadCall ← option bag "afterReadCall" OptionType.text
  let included ← option bag "include" OptionType.text
  let order ← option bag "order" OptionType.text
  refuseOthers bag PropertyOptions.names
  return { id, required, column, hidden, disabled, displayName, placeholder, helpText, presentAs,
           requiredWhen, excludeWhen, disabledWhen, belongsTo, hasMany, hasOne, references,
           foreignKey, input, read, save, onChangeCall, afterReadCall, included, order }

/-- The options of a method. -/
def MethodOptions.check (bag : List (String × Json)) :
    Except (List OptionProblem) MethodOptions := Checking.result do
  let callOnLoad ← option bag "callOnLoad" OptionType.boolean
  let callAfterLoad ← option bag "callAfterLoad" OptionType.boolean
  let scope ← option bag "scope" OptionType.scope
  refuseOthers bag ["callOnLoad", "callAfterLoad", "scope"]
  return { callOnLoad, callAfterLoad, scope }

end Blueprint.Design
