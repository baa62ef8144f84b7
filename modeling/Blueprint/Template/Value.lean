import Blueprint.Naming
import Blueprint.Records.Value
import Blueprint.Server.Package
import Blueprint.ServerCode.Grammar
import Blueprint.Text.Lines

/-!
The values of expressions in templates. An expression is written as in server code, with two
readings of its own: a bar passes a value through a filter, and `is` asks a question about it. A
name that is not given has no value, and putting it to any use fails.
-/

namespace Blueprint.Template

open ServerCode

/-- Why a template cannot be filled. -/
inductive Fault where
  /-- A value is used that was not given. -/
  | undefined (message : String)
  | wrongKind
  /-- The template cannot be read. -/
  | unreadable
  deriving DecidableEq, Repr

/-- What an expression gives: a value, or none with the report for its use. -/
inductive Operand where
  | value (value : Json)
  | undefined (message : String)

/-- The value of an operand that is used. -/
def Operand.use : Operand → Except Fault Json
  | .value found => .ok found
  | .undefined message => .error (.undefined message)

/-- The names of a template with their values. -/
abbrev Context := List (String × Json)

/-- What a value is called in a report. -/
def kindLabel : Json → String
  | .null => "None"
  | .bool _ => "bool object"
  | .int _ => "int object"
  | .float _ => "float object"
  | .str _ => "str object"
  | .arr _ => "list object"
  | .obj _ => "dict object"

/-- The value of a name. -/
def named (context : Context) (name : String) : Operand :=
  match context.lookup name with
  | some value => .value value
  | none => match name with
    | "true" | "True" => .value (.bool true)
    | "false" | "False" => .value (.bool false)
    | "none" | "None" => .value .null
    | _ => .undefined s!"{Text.quoted name} is undefined"

/-- A member of a value. -/
def member (value : Json) (name : String) : Operand :=
  match value.field? name with
  | some found => .value found
  | none => .undefined s!"{Text.quoted (kindLabel value)} has no attribute {Text.quoted name}"

/-- The part of a value at an index. -/
def part (value index : Json) : Operand :=
  match value, index with
  | .arr items, .int n =>
    let place := if n < 0 then n + items.length else n
    match if place < 0 then none else items[place.toNat]? with
    | some item => .value item
    | none => .undefined s!"{kindLabel value} has no element {n}"
  | value, .str name => member value name
  | value, index =>
    .undefined s!"{kindLabel value} has no element {(Literal.ofJson index).print}"

/-- The items of a value that can be gone through. -/
def itemsOf : Json → Except Fault (List Json)
  | .arr items => .ok items
  | .obj fields => .ok (fields.map fun field => .str field.1)
  | .str text => .ok (text.toList.map fun c => .str c.toString)
  | _ => .error .wrongKind

/-- A value as it is put out. -/
def shown (value : Json) : String := (Literal.ofJson value).plain

/-- The text of a value that has to be one. -/
def textOf : Json → Except Fault String
  | .str text => .ok text
  | _ => .error .wrongKind

/-- How many parts a value has. -/
def sizeOf? : Json → Except Fault Nat
  | .str text => .ok text.length
  | value => (itemsOf value).map List.length

/-- A text with its first letter in capitals and the others small. -/
def capitalized (text : String) : String :=
  Text.upper (String.ofList (text.toList.take 1)) ++ Text.lower (String.ofList (text.toList.drop 1))

/-- Passes a value through a filter with arguments. -/
def applyFilter (name : String) (value : Json) (arguments : List Json) : Except Fault Json :=
  let naming (change : String → String) : Except Fault Json := do
    return .str (change (← if value.isTruthy then textOf value else .ok ""))
  match name, arguments with
  | "snake", [] => naming snakeCase
  | "kebab", [] => naming kebabCase
  | "pascal", [] => naming pascalCase
  | "camel", [] => naming camelCase
  | "py", [] => .ok (.str (Literal.ofJson value).print)
  | "toml", [] => .ok (.str (Server.tomlText value))
  | "json", [] => .ok (.str value.compact)
  | "join", arguments => do
    let divider := (arguments.head?.map shown).getD ""
    return .str (divider.intercalate ((← itemsOf value).map shown))
  | "upper", [] => .ok (.str (Text.upper (shown value)))
  | "lower", [] => .ok (.str (Text.lower (shown value)))
  | "capitalize", [] => .ok (.str (capitalized (shown value)))
  | "trim", [] => .ok (.str (Text.strip (shown value)))
  | "string", [] => .ok (.str (shown value))
  | "length", [] | "count", [] => return .nat (← sizeOf? value)
  | "list", [] => return .arr (← itemsOf value)
  | "reverse", [] => return .arr (← itemsOf value).reverse
  | "sort", [] => return .arr ((← itemsOf value).mergeSort fun a b => a.order b != .gt)
  | "first", [] => do
    match (← itemsOf value).head? with
    | some item => .ok item
    | none => .error (.undefined "No first item, sequence was empty.")
  | "last", [] => do
    match (← itemsOf value).getLast? with
    | some item => .ok item
    | none => .error (.undefined "No last item, sequence was empty.")
  | "default", _ | "d", _ => .ok value
  | "replace", [old, new] =>
    .ok (.str ((shown value).replace (shown old) (shown new)))
  | _, _ => .error .unreadable

/-- A method of a value without arguments. -/
def callMethod (value : Json) (name : String) : Except Fault Json :=
  match value, name with
  | .obj fields, "items" => .ok (.arr (fields.map fun field => .arr [.str field.1, field.2]))
  | .obj fields, "keys" => .ok (.strings (fields.map (·.1)))
  | .obj fields, "values" => .ok (.arr (fields.map (·.2)))
  | .str text, "upper" => .ok (.str (Text.upper text))
  | .str text, "lower" => .ok (.str (Text.lower text))
  | .str text, "strip" => .ok (.str (Text.strip text))
  | value, name => (member value name).use.bind fun _ => .error .wrongKind

/-- The answer to a question about an operand. -/
def ask (question : String) (operand : Operand) : Except Fault Bool :=
  match question, operand with
  | "defined", .value _ | "undefined", .undefined _ => .ok true
  | "defined", .undefined _ | "undefined", .value _ => .ok false
  | question, operand => do
    match question, ← operand.use with
    | "none", value => return value.isNull
    | "string", .str _ | "mapping", .obj _ | "iterable", .arr _ | "iterable", .obj _
    | "iterable", .str _ | "sequence", .arr _ | "sequence", .str _ | "sequence", .obj _
    | "boolean", .bool _ | "integer", .int _ | "number", .int _ | "number", .float _
    | "true", .bool true | "false", .bool false => return true
    | "odd", .int n => return n % 2 == 1
    | "even", .int n => return n % 2 == 0
    | _, _ => return false

/-- The outcome of a comparison of two values. -/
def compared (comparison : Comparison) (a b : Json) : Except Fault Bool :=
  let ordered (test : Ordering → Bool) : Except Fault Bool :=
    if a.comparable b then .ok (test (a.order b)) else .error .wrongKind
  let within : Except Fault Bool := match a, b with
    | .str part, .str text => .ok (Text.holds part.toList text.toList)
    | a, b => return (← itemsOf b).any (a.same ·)
  match comparison with
  | .equal => .ok (a.same b)
  | .notEqual => .ok (!a.same b)
  | .less => ordered (· == .lt)
  | .lessEqual => ordered (· != .gt)
  | .greater => ordered (· == .gt)
  | .greaterEqual => ordered (· != .lt)
  | .within => within
  | .notWithin => within.map (!·)
  | .same | .notSame => .error .unreadable

/-- The outcome of an operation on two values. -/
def combined (operator : BinaryOperator) (a b : Json) : Except Fault Json :=
  match operator, a, b with
  | .add, .int a, .int b => .ok (.int (a + b))
  | .add, .str a, .str b => .ok (.str (a ++ b))
  | .add, .arr a, .arr b => .ok (.arr (a ++ b))
  | .subtract, .int a, .int b => .ok (.int (a - b))
  | .multiply, .int a, .int b => .ok (.int (a * b))
  | _, _, _ => .error .wrongKind

mutual

/-- What an expression gives. -/
def evaluate (context : Context) : Expr → Except Fault Operand
  | .name name => .ok (named context name)
  | .constant value => match value with
    | .none => .ok (.value .null)
    | .bool value => .ok (.value (.bool value))
    | .int value => .ok (.value (.nat value))
    | .float value => .ok (.value (.float value))
    | .text value _ => .ok (.value (.str value))
    | _ => .error .unreadable
  | .tuple items | .list items => return .value (.arr (← evaluateAll context items))
  | .attribute value name => return member (← (← evaluate context value).use) name
  | .subscript value index => do
    return part (← (← evaluate context value).use) (← (← evaluate context index).use)
  | .conditional body test otherwise => do
    if (← (← evaluate context test).use).isTruthy then evaluate context body
    else evaluate context otherwise
  | .unary .not operand => return .value (.bool !(← (← evaluate context operand).use).isTruthy)
  | .unary .minus operand => do
    match ← (← evaluate context operand).use with
    | .int value => return .value (.int (-value))
    | _ => .error .wrongKind
  | .logic .and operands => evaluateAnd context operands
  | .logic .or operands => evaluateOr context operands
  | .compare first [.mk .same (.name question)] =>
    return .value (.bool (← ask question (← evaluate context first)))
  | .compare first [.mk .same (.constant .none)] =>
    return .value (.bool (← ask "none" (← evaluate context first)))
  | .compare first [.mk .notSame (.name question)] =>
    return .value (.bool !(← ask question (← evaluate context first)))
  | .compare first [.mk .notSame (.constant .none)] =>
    return .value (.bool !(← ask "none" (← evaluate context first)))
  | .compare first [.mk comparison second] => do
    let first ← (← evaluate context first).use
    return .value (.bool (← compared comparison first (← (← evaluate context second).use)))
  | .binary left .bitOr (.name filter) => do
    return .value (← applyFilter filter (← (← evaluate context left).use) [])
  | .binary left .bitOr (.call (.name filter) arguments _) => do
    let arguments ← evaluateAll context arguments
    match filter == "default" || filter == "d", ← evaluate context left with
    | true, .undefined _ => return .value (arguments.headD (.str ""))
    | _, operand => return .value (← applyFilter filter (← operand.use) arguments)
  | .binary left operator right => do
    let left ← (← evaluate context left).use
    return .value (← combined operator left (← (← evaluate context right).use))
  | .call (.attribute value method) [] [] => do
    return .value (← callMethod (← (← evaluate context value).use) method)
  | _ => .error .unreadable

/-- The values of expressions. -/
def evaluateAll (context : Context) : List Expr → Except Fault (List Json)
  | [] => .ok []
  | item :: items => do
    let value ← (← evaluate context item).use
    return value :: (← evaluateAll context items)

/-- The first operand that stands for no, or the last. -/
def evaluateAnd (context : Context) : List Expr → Except Fault Operand
  | [] => .ok (.value (.bool true))
  | [operand] => evaluate context operand
  | operand :: rest => do
    let value ← (← evaluate context operand).use
    if value.isTruthy then evaluateAnd context rest else return .value value

/-- The first operand that stands for yes, or the last. -/
def evaluateOr (context : Context) : List Expr → Except Fault Operand
  | [] => .ok (.value (.bool false))
  | [operand] => evaluate context operand
  | operand :: rest => do
    let value ← (← evaluate context operand).use
    if value.isTruthy then return .value value else evaluateOr context rest

end

end Blueprint.Template
