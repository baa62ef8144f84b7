import Blueprint.Step
import Blueprint.Text.Lines
import Blueprint.ServerCode.ExprGrammar

/-!
The grammar of statements, and reading whole texts: modules, expressions and blocks that an author
may have indented.
-/

namespace Blueprint.ServerCode

namespace Rule

/-- Names between dots. -/
def dottedName : Rule String := do return ".".intercalate (← sepBy1 name (sign "."))

/-- Something imported, perhaps under another name. -/
def importedAs (imported : Rule String) : Rule Alias := do
  let name ← imported
  return { name, asName := ← optional (after (word "as") Rule.name) }

def importModules : Rule Statement := do
  word "import"
  return .importModules (← sepBy1 (importedAs dottedName) (sign ","))

/-- The dots before a module that is given relative to the importing one. -/
def dots : Rule Nat := do
  let found ← many (firstOf [do sign "."; return 1, do sign "..."; return 3])
  return found.foldl (· + ·) 0

/-- The names that are imported from a module. -/
def importedNames : Rule (List Alias) :=
  firstOf [
    between "(" ")" (do return (← commaList (importedAs name)).1),
    do
      let (names, comma) ← commaList (importedAs name)
      check (!comma)
      return names,
    do sign "*"; return [{ name := "*" }]]

def importFrom : Rule Statement := do
  word "from"
  let level ← dots
  let module ← optional dottedName
  check (module.isSome || level != 0)
  word "import"
  return .importFrom module (← importedNames) level

/-- Operators that change a target in place. -/
def augmentations : List (String × BinaryOperator) :=
  [("+=", .add), ("-=", .subtract), ("*=", .multiply), ("@=", .matrixMultiply), ("/=", .divide),
    ("%=", .modulo), ("&=", .bitAnd), ("|=", .bitOr), ("^=", .bitXor), ("<<=", .shiftLeft),
    (">>=", .shiftRight), ("**=", .power), ("//=", .floorDivide)]

/-- What stands on the right of an assignment. -/
def assigned (rules : Rules) : Rule Expr :=
  firstOf [yieldExpression rules, starExpressions rules rules.expression]

/-- An annotated target, perhaps with a value. -/
def annotated (rules : Rules) : Rule Statement := do
  let bracketed ← sees (sign "(")
  let target ← rules.primary
  sign ":"
  check target.isPlace
  let hint ← rules.expression
  let value ← optional (after (sign "=") (assigned rules))
  let bare := match target with
    | .name _ => bracketed
    | _ => false
  return .annotate target bare hint value

/-- An expression, an assignment to one target or more, or a change in place. -/
def assignment (rules : Rules) : Rule Statement := do
  let first ← assigned rules
  let operator ← optional
    (firstOf (augmentations.map fun entry => do sign entry.1; return entry.2))
  match operator with
  | some operator =>
    check first.isPlace
    return .augment first operator (← assigned rules)
  | none =>
    let rest ← many (after (sign "=") (assigned rules))
    match rest.getLast? with
    | none => return .expr first
    | some value =>
      let targets := first :: rest.dropLast
      check (Expr.areTargets targets)
      return .assign targets value

def raised (rules : Rules) : Rule Statement := do
  word "raise"
  match ← optional rules.expression with
  | none => return .raise none none
  | some error => return .raise (some error) (← optional (after (word "from") rules.expression))

def asserted (rules : Rules) : Rule Statement := do
  word "assert"
  let test ← rules.expression
  return .assert test (← optional (after (sign ",") rules.expression))

def deleted (rules : Rules) : Rule Statement := do
  word "del"
  let (targets, _) ← commaList rules.primary
  check (Expr.areDeletable targets)
  return .delete targets

def names (lead : String) : Rule (List String) := do
  word lead
  sepBy1 name (sign ",")

/-- A statement on one line. -/
def simpleStatement (rules : Rules) : Rule Statement :=
  firstOf [
    annotated rules,
    assignment rules,
    do
      word "return"
      return .ret (← optional (starExpressions rules rules.expression)),
    importModules, importFrom, raised rules,
    do word "pass"; return .pass,
    deleted rules, asserted rules,
    do word "break"; return .breakLoop,
    do word "continue"; return .continueLoop,
    do return .globals (← names "global"),
    do return .nonlocals (← names "nonlocal")]

/-- Statements on one line, between semicolons. -/
def simpleStatements (rules : Rules) : Rule (List Statement) := do
  let statements ← sepBy1 (simpleStatement rules) (sign ";")
  let _ ← flag (sign ";")
  newline
  return statements

/-- A block after a word and a colon; nothing if the word is not there. -/
def blockAfter (lead : String) (block : Rule (List Statement)) : Rule (List Statement) := do
  let found ← optional (do word lead; sign ":"; block)
  return found.getD []

/-- The rest of a branch: further branches, and what to do otherwise. -/
def otherwise (rules : Rules) (block : Rule (List Statement)) : Rule (List Statement) := do
  let branches ← many (do
    word "elif"
    let test ← namedExpression rules
    sign ":"
    return (test, ← block))
  let last ← blockAfter "else" block
  return branches.foldr (fun entry rest => [.branch entry.1 entry.2 rest]) last

def branch (rules : Rules) (block : Rule (List Statement)) : Rule Statement := do
  word "if"
  let test ← namedExpression rules
  sign ":"
  let body ← block
  return .branch test body (← otherwise rules block)

def whileLoop (rules : Rules) (block : Rule (List Statement)) : Rule Statement := do
  word "while"
  let test ← namedExpression rules
  sign ":"
  let body ← block
  return .whileLoop test body (← blockAfter "else" block)

def forLoop (rules : Rules) (block : Rule (List Statement)) : Rule Statement := do
  let isAsync ← flag (word "async")
  word "for"
  let target ← targets rules
  word "in"
  let iterable ← starExpressions rules rules.expression
  sign ":"
  let body ← block
  return .forLoop isAsync target iterable body (← blockAfter "else" block)

def withItem (rules : Rules) : Rule WithItem := do
  let value ← rules.expression
  return { value, target := ← optional (after (word "as") (target rules)) }

/-- A block with values that are closed behind it; the values may stand in brackets together. -/
def withBlock (rules : Rules) (block : Rule (List Statement)) : Rule Statement := do
  let isAsync ← flag (word "async")
  word "with"
  let items ← firstOf [
    do
      let (items, _) ← between "(" ")" (commaList (withItem rules))
      sign ":"
      return items,
    do
      let items ← sepBy1 (withItem rules) (sign ",")
      sign ":"
      return items]
  return .withBlock isAsync items (← block)

def handler (rules : Rules) (block : Rule (List Statement)) (ofGroups : Bool) : Rule Handler := do
  word "except"
  if ofGroups then sign "*"
  let type ← optional rules.expression
  check (type.isSome || !ofGroups)
  let name ← if type.isSome then optional (after (word "as") name) else done none
  sign ":"
  return .mk type name (← block)

def attempt (rules : Rules) (block : Rule (List Statement)) : Rule Statement := do
  word "try"
  sign ":"
  let body ← block
  let plain ← many (handler rules block false)
  let grouped ← if plain.isEmpty then many (handler rules block true) else done []
  let handlers := plain ++ grouped
  let otherwise ← if handlers.isEmpty then done [] else blockAfter "else" block
  let always ← blockAfter "finally" block
  check (!handlers.isEmpty || !always.isEmpty)
  return .attempt (!grouped.isEmpty) body handlers otherwise always

def decorators (rules : Rules) : Rule (List Expr) :=
  many (do
    sign "@"
    let decorator ← namedExpression rules
    newline
    return decorator)

def function (rules : Rules) (block : Rule (List Statement)) (decorators : List Expr) :
    Rule Statement := do
  let isAsync ← flag (word "async")
  word "def"
  let name ← name
  let params ← between "(" ")" (params rules true)
  let returns ← optional (after (sign "->") rules.expression)
  sign ":"
  return .function isAsync name params returns decorators (← block)

def classDef (rules : Rules) (block : Rule (List Statement)) (decorators : List Expr) :
    Rule Statement := do
  word "class"
  let name ← name
  let (bases, keywords) := (← optional (arguments rules)).getD ([], [])
  sign ":"
  return .classDef name bases keywords decorators (← block)

/-- A class or a function with its decorators. -/
def definition (rules : Rules) (block : Rule (List Statement)) : Rule Statement := do
  let decorators ← decorators rules
  firstOf [function rules block decorators, classDef rules block decorators]

/-- The statements of a line: one with blocks, or simple ones. -/
def statements (rules : Rules) (block : Rule (List Statement)) : Rule (List Statement) :=
  let compound := firstOf [definition rules block, branch rules block, whileLoop rules block,
    forLoop rules block, withBlock rules block, attempt rules block]
  firstOf [do return [← compound], simpleStatements rules]

/-- A block: statements on the same line, or deeper lines. -/
def block (rules : Rules) : Nat → Rule (List Statement)
  | 0 => never
  | depth + 1 => firstOf [
      do
        newline
        token fun found => if found = .indent then some ⟨⟩ else none
        let body ← atLeastOne (statements rules (block rules depth))
        token fun found => if found = .dedent then some ⟨⟩ else none
        return body.flatten,
      simpleStatements rules]

/-- The statements of a module. -/
def moduleBody (rules : Rules) (depth : Nat) : Rule (List Statement) := do
  return (← many (statements rules (block rules depth))).flatten

end Rule

/-- The value of a text that a rule reads whole. -/
def readWhole {α : Type} (rule : Rules → Nat → Rule α) (text : String) : Except Failure α :=
  let chars := text.toList
  let depth := chars.length + 1
  match (tokens? chars).bind (rule (Rules.ofDepth depth) depth) with
  | some (value, []) => if chars.contains '\x00' then .error .unreadableCode else .ok value
  | _ => .error .unreadableCode

/-- Reads a module. -/
def readModule (text : String) : Except Failure (List Statement) := readWhole Rule.moduleBody text

/-- Reads a single expression. -/
def readExpr (text : String) : Except Failure Expr :=
  readWhole (fun rules _ => do
    let (items, comma) ← Rule.commaList rules.expression
    let _ ← Rule.many Rule.newline
    return tupleOf (items, comma)) text

/-- Reads statements that may be indented as a whole. -/
def readBlock (text : String) : Except Failure (List Statement) :=
  readModule (Text.dedentString text)

end Blueprint.ServerCode
