import Blueprint.Decimal.Double
import Blueprint.Text.Quoted
import Blueprint.ServerCode.Tree

/-!
The one way in which a tree is written as code: a statement per line, four spaces for each level, a
blank line before every class and function, and brackets only where binding strength asks for them.
-/

namespace Blueprint.ServerCode

open Blueprint.Text

/-- How strongly a form of expression binds; a weaker form in a stronger place gets brackets. -/
abbrev Strength := Nat

namespace Strength

def named : Strength := 1
def tuple : Strength := 2
def yield : Strength := 3
def test : Strength := 4
def or : Strength := 5
def and : Strength := 6
def not : Strength := 7
def compare : Strength := 8
def bitOr : Strength := 9
def bitXor : Strength := 10
def bitAnd : Strength := 11
def shift : Strength := 12
def sum : Strength := 13
def term : Strength := 14
def factor : Strength := 15
def power : Strength := 16
def await : Strength := 17
def atom : Strength := 18

/-- The next stronger place. -/
def next (strength : Strength) : Strength := min (strength + 1) atom

end Strength

namespace UnaryOperator

def text : UnaryOperator → String
  | invert => "~"
  | not => "not "
  | plus => "+"
  | minus => "-"

def strength : UnaryOperator → Strength
  | not => Strength.not
  | _ => Strength.factor

end UnaryOperator

namespace BinaryOperator

def text : BinaryOperator → String
  | add => "+"
  | subtract => "-"
  | multiply => "*"
  | matrixMultiply => "@"
  | divide => "/"
  | modulo => "%"
  | shiftLeft => "<<"
  | shiftRight => ">>"
  | bitOr => "|"
  | bitXor => "^"
  | bitAnd => "&"
  | floorDivide => "//"
  | power => "**"

def strength : BinaryOperator → Strength
  | add | subtract => Strength.sum
  | multiply | matrixMultiply | divide | modulo | floorDivide => Strength.term
  | shiftLeft | shiftRight => Strength.shift
  | bitOr => Strength.bitOr
  | bitXor => Strength.bitXor
  | bitAnd => Strength.bitAnd
  | power => Strength.power

end BinaryOperator

namespace LogicOperator

def text : LogicOperator → String
  | and => "and"
  | or => "or"

def strength : LogicOperator → Strength
  | and => Strength.and
  | or => Strength.or

end LogicOperator

def Comparison.text : Comparison → String
  | equal => "=="
  | notEqual => "!="
  | less => "<"
  | lessEqual => "<="
  | greater => ">"
  | greaterEqual => ">="
  | same => "is"
  | notSame => "is not"
  | within => "in"
  | notWithin => "not in"

/-- The quotes a text may stand between, the preferred ones first. -/
def allQuotes : List (List Char) :=
  [['\''], ['"'], ['"', '"', '"'], ['\'', '\'', '\'']]

/-- The quotes of texts that span lines. -/
def longQuotes : List (List Char) := [['"', '"', '"'], ['\'', '\'', '\'']]

/-- One text stands somewhere in another. -/
def occursIn (part : List Char) : List Char → Bool
  | [] => part.isEmpty
  | c :: rest => part.isPrefixOf (c :: rest) || occursIn part rest

/-- A text as it stands between one of some quotes, and the quotes that fit it, the best first. Line
feeds and tabs are kept as they are unless they are to be escaped. If no quotes fit, the text gets
all its escapes. -/
def fitQuotes (text : List Char) (quotes : List (List Char)) (escapeBlanks : Bool) :
    List Char × List (List Char) :=
  let escaped := text.flatMap fun c =>
    if !escapeBlanks && (c == '\n' || c == '\t') then [c] else visible c
  let lined := if escaped.contains '\n' then quotes.filter (·.length == 3) else quotes
  let fitting := lined.filter fun quote => !occursIn quote escaped
  match fitting with
  | [] =>
    let whole := quotedChars text
    let quote := whole.take 1
    let chosen := (quotes.find? fun candidate => occursIn quote candidate).getD quote
    ((whole.drop 1).dropLast, [chosen])
  | _ => match escaped.getLast? with
    | none => (escaped, fitting)
    | some last =>
      let clashes (quote : List Char) : Bool := quote.head? == some last
      let best := (fitting.filter fun quote => !clashes quote) ++ fitting.filter clashes
      if best.head?.any clashes then (escaped.dropLast ++ ['\\', last], best) else (escaped, best)

/-- A text between the best of some quotes, with few backslashes. -/
def textBetween (quotes : List (List Char)) (text : String) : String :=
  let fitted := fitQuotes text.toList quotes false
  let quote := fitted.2.head?.getD ['\'']
  String.ofList (quote ++ fitted.1 ++ quote)

/-- The parts of a text with values, each fitted to quotes that suit all parts so far; nothing if no
quotes suit all. -/
def fitParts : List (List Char × Bool) → List (List Char) → List Char →
    Option (List Char × List (List Char))
  | [], quotes, done => some (done, quotes)
  | (part, isPlain) :: rest, quotes, done =>
    let fitted := fitQuotes part quotes isPlain
    if fitted.2.any quotes.contains then fitParts rest fitted.2 (done ++ fitted.1) else none

/-- A text with values, from its parts and whether each is plain text. -/
def formattedText (parts : List (List Char × Bool)) : String :=
  match fitParts parts allQuotes [] with
  | some (text, quotes) =>
    let quote := quotes.head?.getD ['\'']
    String.ofList ('f' :: quote ++ text ++ quote)
  | none =>
    let quote := ['\'', '\'', '\'']
    let text := parts.flatMap fun part => ((quotedChars ('"' :: part.1)).drop 2).dropLast
    String.ofList ('f' :: quote ++ text ++ quote)

/-- The text of a decimal. Numbers that cannot be written become what computes them. -/
def floatText (value : Double) : String :=
  match value with
  | .nan => "(1e309-1e309)"
  | .infinite negative => if negative then "-1e309" else "1e309"
  | value => value.text

/-- A decimal without the fraction that only tells it from an integer. -/
def shortFloatText (value : Double) : String :=
  if value.whole?.isSome then value.shortText else floatText value

/-- A constant. Inside a text with values, backslashes are avoided. -/
def Constant.print (inText : Bool) : Constant → String
  | none => "None"
  | bool true => "True"
  | bool false => "False"
  | ellipsis => "..."
  | int value => toString value
  | float value => floatText value
  | imaginary value => shortFloatText value ++ "j"
  | text value marked =>
    (if marked then "u" else "") ++
      (if inText then textBetween allQuotes value else quoted value)
  | bytes value => quotedBytes value

/-- A text in round brackets if asked for. -/
def bracketIf (condition : Bool) (text : String) : String :=
  if condition then "(" ++ text ++ ")" else text

/-- Items between commas; a single item keeps its comma. -/
def itemsText : List String → String
  | [item] => item ++ ","
  | items => ", ".intercalate items

/-- Braces in plain text are written twice. -/
def doubleBraces (text : List Char) : List Char :=
  text.flatMap fun c => if c == '\x7b' || c == '\x7d' then [c, c] else [c]

/-- The opening brace of a value is kept apart from one that opens the value itself. -/
def braced (text : String) : String :=
  if text.startsWith "\x7b" then "\x7b " ++ text else "\x7b" ++ text

mutual

/-- The text of an expression in a place of the given strength. -/
def Expr.print (inText : Bool) (place : Strength) : Expr → String
  | .name id => id
  | .constant value => value.print inText
  | .formatted parts =>
    if inText then
      "f" ++ textBetween allQuotes
        (String.ofList ((FormatPart.printAll parts).flatMap (·.1)))
    else formattedText (FormatPart.printAll parts)
  | .tuple items =>
    bracketIf (items.isEmpty || Strength.tuple < place)
      (itemsText (Expr.printAll inText Strength.test items))
  | .list items => "[" ++ ", ".intercalate (Expr.printAll inText Strength.test items) ++ "]"
  | .set items =>
    if items.isEmpty then "\x7b*()\x7d"
    else "\x7b" ++ ", ".intercalate (Expr.printAll inText Strength.test items) ++ "\x7d"
  | .dict entries => "\x7b" ++ ", ".intercalate (DictEntry.printAll inText entries) ++ "\x7d"
  | .unary operator operand =>
    bracketIf (operator.strength < place)
      (operator.text ++ operand.print inText operator.strength)
  | .binary left operator right =>
    let own := operator.strength
    let leftPlace := if operator == .power then own.next else own
    let rightPlace := if operator == .power then own else own.next
    bracketIf (own < place)
      (left.print inText leftPlace ++ " " ++ operator.text ++ " " ++
        right.print inText rightPlace)
  | .logic operator operands =>
    bracketIf (operator.strength < place)
      ((" " ++ operator.text ++ " ").intercalate
        (Expr.printRising inText operator.strength operands))
  | .compare first rest =>
    bracketIf (Strength.compare < place)
      (first.print inText Strength.compare.next ++ Compared.printAll inText rest)
  | .call function arguments keywords =>
    function.print inText Strength.atom ++ "(" ++
      ", ".intercalate (Expr.printAll inText Strength.test arguments ++
        Keyword.printAll inText keywords) ++ ")"
  | .attribute value member =>
    let gap := match value with
      | .constant (.int _) | .constant (.bool _) => " "
      | _ => ""
    value.print inText Strength.atom ++ gap ++ "." ++ member
  | .subscript value index =>
    let inner := match index with
      | .tuple (item :: items) => itemsText (Expr.printAll inText Strength.test (item :: items))
      | other => other.print inText Strength.test
    value.print inText Strength.atom ++ "[" ++ inner ++ "]"
  | .slice lower upper step =>
    Expr.printOption inText Strength.test "" lower ++ ":" ++
      Expr.printOption inText Strength.test "" upper ++
      Expr.printOption inText Strength.test ":" step
  | .starred value => "*" ++ value.print inText Strength.bitOr
  | .lambda params body =>
    let params := ", ".intercalate (params.print inText)
    bracketIf (Strength.test < place)
      ("lambda" ++ (if params.isEmpty then "" else " " ++ params) ++ ": " ++
        body.print inText Strength.test)
  | .conditional body test otherwise =>
    bracketIf (Strength.test < place)
      (body.print inText Strength.test.next ++ " if " ++ test.print inText Strength.test.next ++
        " else " ++ otherwise.print inText Strength.test)
  | .named target value =>
    bracketIf (Strength.named < place)
      (target.print inText Strength.atom ++ " := " ++ value.print inText Strength.atom)
  | .await value =>
    bracketIf (Strength.await < place) ("await " ++ value.print inText Strength.atom)
  | .yield value =>
    bracketIf (Strength.yield < place)
      ("yield" ++ Expr.printOption inText Strength.atom " " value)
  | .yieldFrom value =>
    bracketIf (Strength.yield < place) ("yield from " ++ value.print inText Strength.atom)
  | .comprehension kind element clauses =>
    let inner := element.print inText Strength.test ++ Clause.printAll inText clauses
    match kind with
    | .list => "[" ++ inner ++ "]"
    | .set => "\x7b" ++ inner ++ "\x7d"
    | .generator => "(" ++ inner ++ ")"
  | .dictComprehension key value clauses =>
    "\x7b" ++ key.print inText Strength.test ++ ": " ++ value.print inText Strength.test ++
      Clause.printAll inText clauses ++ "\x7d"

/-- The texts of expressions in places of one strength. -/
def Expr.printAll (inText : Bool) (place : Strength) : List Expr → List String
  | [] => []
  | item :: items => item.print inText place :: Expr.printAll inText place items

/-- The texts of expressions in places that get stronger from one to the next. -/
def Expr.printRising (inText : Bool) (place : Strength) : List Expr → List String
  | [] => []
  | item :: items => item.print inText place.next :: Expr.printRising inText place.next items

/-- The text of an expression after a lead; nothing if there is none. -/
def Expr.printOption (inText : Bool) (place : Strength) (lead : String) : Option Expr → String
  | none => ""
  | some value => lead ++ value.print inText place

/-- The text of a part inside quotes that are still to be chosen. -/
def FormatPart.print : FormatPart → List Char × Bool
  | .text value => (doubleBraces value.toList, true)
  | .value value conversion format =>
    let conversion := match conversion with
      | some c => "!" ++ c.toString
      | none => ""
    (braced (value.print true Strength.test.next) ++ conversion ++ FormatPart.printFormat format
      ++ "\x7d" |>.toList, false)

/-- The texts of parts, each with whether it is plain text. -/
def FormatPart.printAll : List FormatPart → List (List Char × Bool)
  | [] => []
  | part :: parts => part.print :: FormatPart.printAll parts

/-- The text of a format. -/
def FormatPart.printFormat : Option (List FormatPart) → String
  | none => ""
  | some parts => ":" ++ String.ofList ((FormatPart.printAll parts).flatMap (·.1))

def DictEntry.print (inText : Bool) : DictEntry → String
  | .pair key value => key.print inText Strength.test ++ ": " ++ value.print inText Strength.test
  | .spread value => "**" ++ value.print inText Strength.bitOr

def DictEntry.printAll (inText : Bool) : List DictEntry → List String
  | [] => []
  | entry :: entries => entry.print inText :: DictEntry.printAll inText entries

def Compared.print (inText : Bool) : Compared → String
  | .mk comparison operand =>
    " " ++ comparison.text ++ " " ++ operand.print inText Strength.compare.next

def Compared.printAll (inText : Bool) : List Compared → String
  | [] => ""
  | step :: steps => step.print inText ++ Compared.printAll inText steps

def Keyword.print (inText : Bool) : Keyword → String
  | .named name value => name ++ "=" ++ value.print inText Strength.test
  | .spread value => "**" ++ value.print inText Strength.test

def Keyword.printAll (inText : Bool) : List Keyword → List String
  | [] => []
  | keyword :: keywords => keyword.print inText :: Keyword.printAll inText keywords

def Clause.print (inText : Bool) : Clause → String
  | .mk isAsync target iterable conditions =>
    (if isAsync then " async for " else " for ") ++ target.print inText Strength.tuple ++
      " in " ++ iterable.print inText Strength.test.next ++
      String.join (Clause.printConditions inText conditions)

def Clause.printAll (inText : Bool) : List Clause → String
  | [] => ""
  | clause :: clauses => clause.print inText ++ Clause.printAll inText clauses

def Clause.printConditions (inText : Bool) : List Expr → List String
  | [] => []
  | condition :: conditions =>
    (" if " ++ condition.print inText Strength.test.next) ::
      Clause.printConditions inText conditions

/-- A parameter after a lead of stars. -/
def Param.print (inText : Bool) (lead : String) : Param → String
  | .mk name hint default =>
    lead ++ name ++ Expr.printOption inText Strength.test ": " hint ++
      Expr.printOption inText Strength.test "=" default

def Param.printAll (inText : Bool) : List Param → List String
  | [] => []
  | param :: params => param.print inText "" :: Param.printAll inText params

def Param.printOption (inText : Bool) (lead : String) : Option Param → List String
  | none => []
  | some param => [param.print inText lead]

/-- The texts of parameters, with the marks that stand between their kinds. -/
def Params.print (inText : Bool) : Params → List String
  | .mk placed params rest named namedRest =>
    let slash := if placed.isEmpty then [] else ["/"]
    let star := match rest with
      | some _ => []
      | none => if named.isEmpty then [] else ["*"]
    Param.printAll inText placed ++ slash ++ Param.printAll inText params ++ star ++
      Param.printOption inText "*" rest ++ Param.printAll inText named ++
      Param.printOption inText "**" namedRest

end

/-- The text of an expression where no brackets are due. -/
def Expr.text (value : Expr) : String := value.print false Strength.test

/-- The text of an expression after a lead; nothing if there is none. -/
def Expr.textOption (lead : String) (value : Option Expr) : String :=
  Expr.printOption false Strength.test lead value

def Alias.text (imported : Alias) : String :=
  match imported.asName with
  | some name => imported.name ++ " as " ++ name
  | none => imported.name

def Alias.texts (names : List Alias) : String := ", ".intercalate (names.map Alias.text)

def WithItem.text (item : WithItem) : String :=
  item.value.text ++ Expr.textOption " as " item.target

/-- A line at a level of indentation. -/
def lineAt (level : Nat) (text : String) : String :=
  "".pushn ' ' (4 * level) ++ text

/-- The line of a text that documents what it stands first in. -/
def documentation? : Statement → Option String
  | .expr (.constant (.text value marked)) =>
    some ((if marked then "u" else "") ++ textBetween longQuotes value)
  | _ => none

/-- The lines of decorators. -/
def decoratorLines (level : Nat) (decorators : List Expr) : List String :=
  decorators.map fun decorator => lineAt level ("@" ++ decorator.text)

mutual

/-- The lines of a statement. -/
def Statement.lines (level : Nat) : Statement → List String
  | .expr value => [lineAt level (value.print false Strength.yield)]
  | .assign targets value =>
    [lineAt level
      (String.join (targets.map fun target => target.print false Strength.tuple ++ " = ") ++
        value.text)]
  | .annotate target bracketed hint value =>
    [lineAt level (bracketIf bracketed target.text ++ ": " ++ hint.text ++
      Expr.textOption " = " value)]
  | .augment target operator value =>
    [lineAt level (target.text ++ " " ++ operator.text ++ "= " ++ value.text)]
  | .ret value => [lineAt level ("return" ++ Expr.textOption " " value)]
  | .raise error cause =>
    [lineAt level ("raise" ++ Expr.textOption " " error ++ Expr.textOption " from " cause)]
  | .assert test reason =>
    [lineAt level ("assert " ++ test.text ++ Expr.textOption ", " reason)]
  | .delete targets => [lineAt level ("del " ++ ", ".intercalate (targets.map Expr.text))]
  | .globals names => [lineAt level ("global " ++ ", ".intercalate names)]
  | .nonlocals names => [lineAt level ("nonlocal " ++ ", ".intercalate names)]
  | .pass => [lineAt level "pass"]
  | .breakLoop => [lineAt level "break"]
  | .continueLoop => [lineAt level "continue"]
  | .importModules names => [lineAt level ("import " ++ Alias.texts names)]
  | .importFrom module names dots =>
    [lineAt level ("from " ++ "".pushn '.' dots ++ module.getD "" ++ " import " ++
      Alias.texts names)]
  | .branch test body otherwise =>
    lineAt level ("if " ++ test.text ++ ":") :: Statement.linesOf (level + 1) body ++
      Statement.elseLines level otherwise
  | .whileLoop test body otherwise =>
    lineAt level ("while " ++ test.text ++ ":") :: Statement.linesOf (level + 1) body ++
      Statement.blockLines level "else:" otherwise
  | .forLoop isAsync target iterable body otherwise =>
    lineAt level ((if isAsync then "async for " else "for ") ++
        target.print false Strength.tuple ++ " in " ++ iterable.text ++ ":") ::
      Statement.linesOf (level + 1) body ++ Statement.blockLines level "else:" otherwise
  | .withBlock isAsync items body =>
    lineAt level ((if isAsync then "async with " else "with ") ++
        ", ".intercalate (items.map WithItem.text) ++ ":") ::
      Statement.linesOf (level + 1) body
  | .attempt ofGroups body handlers otherwise always =>
    lineAt level "try:" :: Statement.linesOf (level + 1) body ++
      Handler.linesOf level (if ofGroups then "except*" else "except") handlers ++
      Statement.blockLines level "else:" otherwise ++
      Statement.blockLines level "finally:" always
  | .function isAsync name params returns decorators body =>
    "" :: decoratorLines level decorators ++
      lineAt level ((if isAsync then "async def " else "def ") ++ name ++ "(" ++
        ", ".intercalate (params.print false) ++ ")" ++ Expr.textOption " -> " returns ++ ":") ::
      Statement.scopeLines (level + 1) body
  | .classDef name bases keywords decorators body =>
    let arguments := Expr.printAll false Strength.test bases ++ Keyword.printAll false keywords
    "" :: decoratorLines level decorators ++
      lineAt level ("class " ++ name ++
        (if arguments.isEmpty then "" else "(" ++ ", ".intercalate arguments ++ ")") ++ ":") ::
      Statement.scopeLines (level + 1) body

/-- The lines of statements. -/
def Statement.linesOf (level : Nat) : List Statement → List String
  | [] => []
  | statement :: rest => statement.lines level ++ Statement.linesOf level rest

/-- The lines of a body that may start with its documentation. -/
def Statement.scopeLines (level : Nat) : List Statement → List String
  | [] => []
  | statement :: rest =>
    (match documentation? statement with
      | some text => [lineAt level text]
      | none => statement.lines level) ++ Statement.linesOf level rest

/-- The lines of a block after its head; nothing for an empty block. -/
def Statement.blockLines (level : Nat) (head : String) : List Statement → List String
  | [] => []
  | statement :: rest =>
    lineAt level head ::
      (statement.lines (level + 1) ++ Statement.linesOf (level + 1) rest)

/-- The lines of the other branch; a branch that stands alone there continues the chain. -/
def Statement.elseLines (level : Nat) : List Statement → List String
  | [] => []
  | [.branch test body otherwise] =>
    lineAt level ("elif " ++ test.text ++ ":") :: Statement.linesOf (level + 1) body ++
      Statement.elseLines level otherwise
  | statement :: rest =>
    lineAt level "else:" ::
      (statement.lines (level + 1) ++ Statement.linesOf (level + 1) rest)

/-- The lines of a handler. -/
def Handler.lines (level : Nat) (word : String) : Handler → List String
  | .mk type name body =>
    lineAt level (word ++ Expr.textOption " " type ++
        (match name with
          | some name => " as " ++ name
          | none => "") ++ ":") ::
      Statement.linesOf (level + 1) body

/-- The lines of handlers. -/
def Handler.linesOf (level : Nat) (word : String) : List Handler → List String
  | [] => []
  | handler :: rest => handler.lines level word ++ Handler.linesOf level word rest

end

/-- Code has no blank line at its start. -/
def withoutLead : List String → List String
  | "" :: lines => lines
  | lines => lines

/-- The text of a statement that stands alone. -/
def Statement.text (statement : Statement) : String :=
  "\n".intercalate (withoutLead (statement.lines 0))

/-- The text of a whole module. -/
def moduleText (body : List Statement) : String :=
  "\n".intercalate (withoutLead (Statement.scopeLines 0 body))

end Blueprint.ServerCode
