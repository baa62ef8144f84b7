import Blueprint.ServerCode.QuotedText

/-!
The grammar of expressions. A rule refers to the rules for what stands inside an expression through
`Rules`; each such step takes at least one token, so as many levels of rules as there are tokens
read everything.
-/

namespace Blueprint.ServerCode

/-- The rules for the parts of an expression, and the reader of values inside texts. -/
structure Rules where
  expression : Rule Expr
  disjunction : Rule Expr
  inversion : Rule Expr
  bitOr : Rule Expr
  factor : Rule Expr
  primary : Rule Expr
  embedded : List Char → Option Expr

/-- Rules that read nothing. -/
def Rules.nothing : Rules where
  expression := Rule.never
  disjunction := Rule.never
  inversion := Rule.never
  bitOr := Rule.never
  factor := Rule.never
  primary := Rule.never
  embedded := fun _ => none

mutual

/-- An expression that can be assigned to. -/
def Expr.isTarget : Expr → Bool
  | .name _ | .attribute .. | .subscript .. => true
  | .starred value => match value with
    | .starred _ => false
    | value => value.isTarget
  | .tuple items | .list items => Expr.areTargets items
  | _ => false

/-- All expressions can be assigned to. -/
def Expr.areTargets : List Expr → Bool
  | [] => true
  | item :: items => item.isTarget && Expr.areTargets items

end

mutual

/-- An expression that can be deleted. -/
def Expr.isDeletable : Expr → Bool
  | .name _ | .attribute .. | .subscript .. => true
  | .tuple items | .list items => Expr.areDeletable items
  | _ => false

/-- All expressions can be deleted. -/
def Expr.areDeletable : List Expr → Bool
  | [] => true
  | item :: items => item.isDeletable && Expr.areDeletable items

end

/-- A name, a member or an item: what can be annotated or changed in place. -/
def Expr.isPlace : Expr → Bool
  | .name _ | .attribute .. | .subscript .. => true
  | _ => false

/-- One value, or a tuple of those between commas. -/
def tupleOf : List Expr × Bool → Expr
  | ([item], false) => item
  | (items, _) => .tuple items

namespace Rule

variable {α : Type}

/-- A value with a name for it inside an expression. -/
def assignmentExpression (inner : Rules) : Rule Expr := do
  let target ← name
  sign ":="
  return .named (.name target) (← inner.expression)

/-- An expression that may bind a name. -/
def namedExpression (inner : Rules) : Rule Expr :=
  firstOf [assignmentExpression inner, inner.expression]

/-- A value that stands for several. -/
def starredOr (operand rule : Rule Expr) : Rule Expr :=
  firstOf [do sign "*"; return .starred (← operand), rule]

/-- An expression or several, some with a star. -/
def starExpressions (inner : Rules) (expression : Rule Expr) : Rule Expr := do
  return tupleOf (← commaList (starredOr inner.bitOr expression))

/-- A value that is given out, and then comes another in. -/
def yieldExpression (inner : Rules) : Rule Expr := do
  word "yield"
  firstOf [do word "from"; return .yieldFrom (← inner.expression),
    do return .yield (← optional (starExpressions inner inner.expression))]

/-- A target of an assignment that is no tuple. -/
def target (inner : Rules) : Rule Expr := do
  let value ← starredOr inner.primary inner.primary
  check value.isTarget
  return value

/-- Targets between commas. -/
def targets (inner : Rules) : Rule Expr := do return tupleOf (← commaList (target inner))

/-- One `for` of a comprehension. -/
def clause (inner : Rules) : Rule Clause := do
  let isAsync ← flag (word "async")
  word "for"
  let target ← targets inner
  word "in"
  let iterable ← inner.disjunction
  let conditions ← many (after (word "if") inner.disjunction)
  return .mk isAsync target iterable conditions

def clauses (inner : Rules) : Rule (List Clause) := atLeastOne (clause inner)

/-- The items after the first of a row, each after a comma; a comma may end the row. -/
def furtherItems (item : Rule α) : Rule (List α × Bool) := do
  let items ← many (after (sign ",") item)
  return (items, ← flag (sign ","))

/-- An item of a display: a value that may bind a name, or one that stands for several. -/
def displayItem (inner : Rules) : Rule Expr := starredOr inner.bitOr (namedExpression inner)

/-- A display goes on with a rule for its items. -/
def seesClause : Rule Bool := sees (firstOf [word "for", word "async"])

/-- What stands between round brackets: nothing, a value given out, a generator, one value or a
tuple. -/
def bracketed (inner : Rules) : Rule Expr :=
  between "(" ")" (firstOf [
    yieldExpression inner,
    do
      let first ← displayItem inner
      if ← seesClause then
        check (first matches .starred _ |> not)
        return .comprehension .generator first (← clauses inner)
      else
        let (items, comma) ← furtherItems (displayItem inner)
        if items.isEmpty && !comma then
          check (first matches .starred _ |> not)
          return first
        else return .tuple (first :: items),
    done (.tuple [])])

/-- A list, given by its items or by a rule for them. -/
def listDisplay (inner : Rules) : Rule Expr :=
  between "[" "]" (firstOf [
    do
      let first ← displayItem inner
      if ← seesClause then
        check (first matches .starred _ |> not)
        return .comprehension .list first (← clauses inner)
      else
        let (items, _) ← furtherItems (displayItem inner)
        return .list (first :: items),
    done (.list [])])

/-- A key with its value, or a dictionary to take over. -/
def dictEntry (inner : Rules) : Rule DictEntry :=
  firstOf [do sign "**"; return .spread (← inner.bitOr),
    do
      let key ← inner.expression
      sign ":"
      return .pair key (← inner.expression)]

/-- The rest of a set after its first item. -/
def setFrom (inner : Rules) (first : Expr) : Rule Expr := do
  if ← seesClause then
    check (first matches .starred _ |> not)
    return .comprehension .set first (← clauses inner)
  else
    let (items, _) ← furtherItems (displayItem inner)
    return .set (first :: items)

/-- A dictionary or a set. -/
def braceDisplay (inner : Rules) : Rule Expr :=
  between "\x7b" "\x7d" (firstOf [
    do
      sign "**"
      let first ← inner.bitOr
      let (entries, _) ← furtherItems (dictEntry inner)
      return .dict (.spread first :: entries),
    do
      sign "*"
      setFrom inner (.starred (← inner.bitOr)),
    do setFrom inner (← assignmentExpression inner),
    do
      let first ← inner.expression
      match ← optional (after (sign ":") inner.expression) with
      | none => setFrom inner first
      | some value =>
        if ← seesClause then return .dictComprehension first value (← clauses inner)
        else
          let (entries, _) ← furtherItems (dictEntry inner)
          return .dict (.pair first value :: entries),
    done (.dict [])])

/-- Texts between quotes that follow each other. -/
def strings (inner : Rules) : Rule Expr := do
  let pieces ← atLeastOne (token fun
    | .string piece => some piece
    | _ => none)
  ofOption (joinStrings? inner.embedded pieces)

/-- An expression that nothing can split. -/
def atom (inner : Rules) : Rule Expr :=
  firstOf [
    do return .name (← name),
    do word "True"; return .constant (.bool true),
    do word "False"; return .constant (.bool false),
    do word "None"; return .constant .none,
    strings inner,
    token fun
      | .number value => some (.constant value)
      | _ => none,
    bracketed inner, listDisplay inner, braceDisplay inner,
    do sign "..."; return .constant .ellipsis]

/-- An argument of a call. -/
inductive Argument where
  | value (value : Expr)
  | starred (value : Expr)
  | keyword (keyword : Keyword)
  | spread (value : Expr)
  /-- A generator without brackets of its own, which stands alone. -/
  | generator (element : Expr) (clauses : List Clause)

def argument (inner : Rules) : Rule Argument :=
  firstOf [
    do sign "*"; return .starred (← inner.expression),
    do sign "**"; return .spread (← inner.expression),
    do
      let name ← name
      sign "="
      return .keyword (.named name (← inner.expression)),
    do
      let value ← namedExpression inner
      if ← seesClause then return .generator value (← clauses inner)
      else return .value value]

/-- The arguments of a call by kind. A plain argument follows no named one, and nothing but named
ones follows a dictionary. -/
def arrange : List Argument → Bool → Bool → Option (List Expr × List Keyword)
  | [], _, _ => some ([], [])
  | .value value :: rest, named, spread =>
    if named || spread then none
    else (arrange rest named spread).map fun found => (value :: found.1, found.2)
  | .starred value :: rest, named, spread =>
    if spread then none
    else (arrange rest named spread).map fun found => (.starred value :: found.1, found.2)
  | .keyword keyword :: rest, _, spread =>
    (arrange rest true spread).map fun found => (found.1, keyword :: found.2)
  | .spread value :: rest, named, _ =>
    (arrange rest named true).map fun found => (found.1, .spread value :: found.2)
  | .generator .. :: _, _, _ => none

/-- Arguments between round brackets. -/
def arguments (inner : Rules) : Rule (List Expr × List Keyword) :=
  between "(" ")" (do
    let found ← optional (commaList (argument inner))
    ofOption (arrange ((found.map (·.1)).getD []) false false))

/-- The arguments of a call: arguments between round brackets, or a generator alone. -/
def callArguments (inner : Rules) : Rule (List Expr × List Keyword) :=
  between "(" ")" (do
    match ← optional (commaList (argument inner)) with
    | some ([.generator element clauses], false) =>
      return ([.comprehension .generator element clauses], [])
    | found => ofOption (arrange ((found.map (·.1)).getD []) false false))

/-- The rest of a slice from its first colon on. -/
def sliceFrom (inner : Rules) (lower : Option Expr) : Rule Expr := do
  sign ":"
  let upper ← optional inner.expression
  let step ← optional (after (sign ":") (optional inner.expression))
  return .slice lower upper (step.getD none)

/-- A slice or a single index. -/
def sliceItem (inner : Rules) : Rule Expr :=
  firstOf [
    sliceFrom inner none,
    assignmentExpression inner,
    do
      let first ← inner.expression
      match ← optional (sliceFrom inner (some first)) with
      | some slice => return slice
      | none => return first]

/-- What stands between square brackets behind a value. -/
def index (inner : Rules) : Rule Expr :=
  between "[" "]" (do
    let items ← commaList (starredOr inner.expression (sliceItem inner))
    match items with
    | ([.starred value], _) => return .tuple [.starred value]
    | items => return tupleOf items)

/-- A step from a value to another. -/
def trailer (inner : Rules) : Rule (Expr → Expr) :=
  firstOf [
    do
      sign "."
      let member ← name
      return fun value => .attribute value member,
    do
      let (arguments, keywords) ← callArguments inner
      return fun value => .call value arguments keywords,
    do
      let index ← index inner
      return fun value => .subscript value index]

/-- An atom with the steps behind it. -/
def primary (inner : Rules) : Rule Expr := do
  let value ← atom inner
  let steps ← many (trailer inner)
  return steps.foldl (fun value step => step value) value

/-- A primary that may be waited for. -/
def awaited (inner : Rules) : Rule Expr :=
  firstOf [do word "await"; return .await (← inner.primary), primary inner]

/-- Signs and powers. -/
def factor (inner : Rules) : Rule Expr :=
  firstOf [
    do sign "+"; return .unary .plus (← inner.factor),
    do sign "-"; return .unary .minus (← inner.factor),
    do sign "~"; return .unary .invert (← inner.factor),
    do
      let base ← awaited inner
      let power ← optional (after (sign "**") inner.factor)
      match power with
      | some power => return .binary base .power power
      | none => return base]

/-- Operands joined from left to right by operators of one strength. -/
def leftAssociative (operators : List (String × BinaryOperator)) (operand : Rule Expr) :
    Rule Expr := do
  let first ← operand
  let rest ← many (do
    let operator ← firstOf (operators.map fun entry => do sign entry.1; return entry.2)
    return (operator, ← operand))
  return rest.foldl (fun left step => .binary left step.1 step.2) first

/-- The operators with two operands, the weakest first. -/
def binaryOperators : List (List (String × BinaryOperator)) :=
  [[("|", .bitOr)], [("^", .bitXor)], [("&", .bitAnd)],
    [("<<", .shiftLeft), (">>", .shiftRight)], [("+", .add), ("-", .subtract)],
    [("*", .multiply), ("/", .divide), ("//", .floorDivide), ("%", .modulo),
      ("@", .matrixMultiply)]]

def bitOr (inner : Rules) : Rule Expr :=
  binaryOperators.foldr leftAssociative (factor inner)

/-- The operator of a comparison. -/
def comparison : Rule Comparison :=
  firstOf [
    do sign "=="; return .equal,
    do sign "!="; return .notEqual,
    do sign "<="; return .lessEqual,
    do sign "<"; return .less,
    do sign ">="; return .greaterEqual,
    do sign ">"; return .greater,
    do word "not"; word "in"; return .notWithin,
    do word "in"; return .within,
    do word "is"; word "not"; return .notSame,
    do word "is"; return .same]

def compared (inner : Rules) : Rule Expr := do
  let first ← bitOr inner
  let rest ← many (do
    let comparison ← comparison
    return Compared.mk comparison (← bitOr inner))
  return if rest.isEmpty then first else .compare first rest

def inversion (inner : Rules) : Rule Expr :=
  firstOf [do word "not"; return .unary .not (← inner.inversion), compared inner]

/-- Operands between one logical operator. -/
def logic (operator : LogicOperator) (text : String) (operand : Rule Expr) : Rule Expr := do
  let operands ← sepBy1 operand (word text)
  match operands with
  | [single] => return single
  | operands => return .logic operator operands

def disjunction (inner : Rules) : Rule Expr := logic .or "or" (logic .and "and" (inversion inner))

/-- A piece of a list of parameters. -/
inductive ParamPiece where
  | slash
  | star
  | starred (param : Param)
  | plain (param : Param) (hasDefault : Bool)
  | spread (param : Param)

/-- A piece of a list of parameters, with annotations or without. -/
def paramPiece (inner : Rules) (annotated : Bool) : Rule ParamPiece :=
  let hint (rule : Rule Expr) : Rule (Option Expr) :=
    if annotated then optional (after (sign ":") rule) else done none
  firstOf [
    do sign "/"; return .slash,
    do
      sign "**"
      let name ← name
      return .spread (.mk name (← hint inner.expression) none),
    do
      sign "*"
      let found ← optional name
      match found with
      | some name =>
        return .starred (.mk name (← hint (starredOr inner.bitOr inner.expression)) none)
      | none => return .star,
    do
      let name ← name
      let hint ← hint inner.expression
      let default ← optional (after (sign "=") inner.expression)
      return .plain (.mk name hint default) default.isSome]

/-- Where the arranging of parameters stands. -/
structure ParamState where
  placed : List Param := []
  params : List Param := []
  hasDefault : Bool := false
  hasSlash : Bool := false
  rest : Option Param := none
  hasStar : Bool := false
  named : List Param := []
  namedRest : Option Param := none

/-- Takes one piece. A parameter with a default is not followed by one without, and what is given by
name only comes after a star. -/
def ParamState.take (state : ParamState) (piece : ParamPiece) : Option ParamState :=
  if state.namedRest.isSome then none
  else match piece with
    | .slash =>
      if state.hasSlash || state.hasStar || state.params.isEmpty then none
      else some { state with placed := state.params, params := [], hasSlash := true }
    | .star => if state.hasStar then none else some { state with hasStar := true }
    | .starred param =>
      if state.hasStar then none else some { state with rest := some param, hasStar := true }
    | .plain param hasDefault =>
      if state.hasStar then some { state with named := state.named ++ [param] }
      else if state.hasDefault && !hasDefault then none
      else some { state with params := state.params ++ [param], hasDefault }
    | .spread param =>
      if state.hasStar && state.rest.isNone && state.named.isEmpty then none
      else some { state with namedRest := some param }

/-- The parameters of some pieces. A star that stands alone is followed by a name. -/
def params? (pieces : List ParamPiece) : Option Params := do
  let state ← pieces.foldlM ParamState.take {}
  if state.hasStar && state.rest.isNone && state.named.isEmpty then none
  else some (.mk state.placed state.params state.rest state.named state.namedRest)

/-- Parameters, with annotations or without. -/
def params (inner : Rules) (annotated : Bool) : Rule Params := do
  let pieces ← optional (commaList (paramPiece inner annotated))
  ofOption (params? ((pieces.map (·.1)).getD []))

/-- A function without a name. -/
def lambda (inner : Rules) : Rule Expr := do
  word "lambda"
  let params ← params inner false
  sign ":"
  return .lambda params (← inner.expression)

/-- An expression: a choice between two values, a single value, or a function without a name. -/
def expression (inner : Rules) : Rule Expr :=
  firstOf [
    do
      let body ← disjunction inner
      let choice ← optional (do
        word "if"
        let test ← inner.disjunction
        word "else"
        return (test, ← inner.expression))
      match choice with
      | some (test, otherwise) => return .conditional body test otherwise
      | none => return body,
    lambda inner]

end Rule

/-- The rules one level up from some rules. -/
def Rules.step (inner : Rules) : Rules where
  expression := Rule.expression inner
  disjunction := Rule.disjunction inner
  inversion := Rule.inversion inner
  bitOr := Rule.bitOr inner
  factor := Rule.factor inner
  primary := Rule.primary inner
  embedded := fun code => do
    let tokens ← tokens? ('(' :: code ++ [')'])
    let (value, rest) ← Rule.starExpressions inner (Rule.expression inner) tokens
    if rest = [.newline] then some value else none

/-- The rules of a number of levels. -/
def Rules.ofDepth : Nat → Rules
  | 0 => Rules.nothing
  | depth + 1 => (Rules.ofDepth depth).step

end Blueprint.ServerCode
