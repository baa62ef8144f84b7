import Blueprint.ServerCode.Tree

/-!
Where code touches the place its records are kept: the data source of a class or of one of its
records, wherever it stands in a statement.
-/

namespace Blueprint.ServerCode

mutual

/-- The expression reads the data source of a class or a record. -/
def Expr.usesStore : Expr → Bool
  | .name _ | .constant _ => false
  | .formatted parts => FormatPart.anyUsesStore parts
  | .tuple items | .list items | .set items => Expr.anyUsesStore items
  | .dict entries => DictEntry.anyUsesStore entries
  | .unary _ operand => operand.usesStore
  | .binary left _ right => left.usesStore || right.usesStore
  | .logic _ operands => Expr.anyUsesStore operands
  | .compare first rest => first.usesStore || Compared.anyUsesStore rest
  | .call function arguments keywords =>
    function.usesStore || Expr.anyUsesStore arguments || Keyword.anyUsesStore keywords
  | .attribute value member =>
    (member == "data_source" && (match value with
      | .name owner => owner == "cls" || owner == "self"
      | _ => false)) || value.usesStore
  | .subscript value index => value.usesStore || index.usesStore
  | .slice lower upper step =>
    Expr.optionUsesStore lower || Expr.optionUsesStore upper || Expr.optionUsesStore step
  | .starred value => value.usesStore
  | .lambda params body => params.usesStore || body.usesStore
  | .conditional body test otherwise =>
    body.usesStore || test.usesStore || otherwise.usesStore
  | .named target value => target.usesStore || value.usesStore
  | .await value => value.usesStore
  | .yield value => Expr.optionUsesStore value
  | .yieldFrom value => value.usesStore
  | .comprehension _ element clauses => element.usesStore || Clause.anyUsesStore clauses
  | .dictComprehension key value clauses =>
    key.usesStore || value.usesStore || Clause.anyUsesStore clauses

def Expr.anyUsesStore : List Expr → Bool
  | [] => false
  | item :: items => item.usesStore || Expr.anyUsesStore items

def Expr.optionUsesStore : Option Expr → Bool
  | none => false
  | some value => value.usesStore

def FormatPart.usesStore : FormatPart → Bool
  | .text _ => false
  | .value value _ format => value.usesStore || FormatPart.formatUsesStore format

def FormatPart.anyUsesStore : List FormatPart → Bool
  | [] => false
  | part :: parts => part.usesStore || FormatPart.anyUsesStore parts

def FormatPart.formatUsesStore : Option (List FormatPart) → Bool
  | none => false
  | some parts => FormatPart.anyUsesStore parts

def DictEntry.usesStore : DictEntry → Bool
  | .pair key value => key.usesStore || value.usesStore
  | .spread value => value.usesStore

def DictEntry.anyUsesStore : List DictEntry → Bool
  | [] => false
  | entry :: entries => entry.usesStore || DictEntry.anyUsesStore entries

def Compared.usesStore : Compared → Bool
  | .mk _ operand => operand.usesStore

def Compared.anyUsesStore : List Compared → Bool
  | [] => false
  | step :: steps => step.usesStore || Compared.anyUsesStore steps

def Keyword.usesStore : Keyword → Bool
  | .named _ value | .spread value => value.usesStore

def Keyword.anyUsesStore : List Keyword → Bool
  | [] => false
  | keyword :: keywords => keyword.usesStore || Keyword.anyUsesStore keywords

def Clause.usesStore : Clause → Bool
  | .mk _ target iterable conditions =>
    target.usesStore || iterable.usesStore || Expr.anyUsesStore conditions

def Clause.anyUsesStore : List Clause → Bool
  | [] => false
  | clause :: clauses => clause.usesStore || Clause.anyUsesStore clauses

def Param.usesStore : Param → Bool
  | .mk _ hint default =>
    Expr.optionUsesStore hint || Expr.optionUsesStore default

def Param.anyUsesStore : List Param → Bool
  | [] => false
  | param :: params => param.usesStore || Param.anyUsesStore params

def Param.optionUsesStore : Option Param → Bool
  | none => false
  | some param => param.usesStore

def Params.usesStore : Params → Bool
  | .mk placed params rest named namedRest =>
    Param.anyUsesStore placed || Param.anyUsesStore params || Param.optionUsesStore rest ||
      Param.anyUsesStore named || Param.optionUsesStore namedRest

end

/-- The value or the target of a `with` reads the data source. -/
def WithItem.usesStore (item : WithItem) : Bool :=
  item.value.usesStore || Expr.optionUsesStore item.target

mutual

/-- The statement reads the data source of a class or a record. -/
def Statement.usesStore : Statement → Bool
  | .expr value => value.usesStore
  | .assign targets value => Expr.anyUsesStore targets || value.usesStore
  | .annotate target _ hint value =>
    target.usesStore || hint.usesStore || Expr.optionUsesStore value
  | .augment target _ value => target.usesStore || value.usesStore
  | .ret value => Expr.optionUsesStore value
  | .raise error cause => Expr.optionUsesStore error || Expr.optionUsesStore cause
  | .assert test reason => test.usesStore || Expr.optionUsesStore reason
  | .delete targets => Expr.anyUsesStore targets
  | .globals _ | .nonlocals _ | .pass | .breakLoop | .continueLoop | .importModules _
  | .importFrom .. => false
  | .branch test body otherwise =>
    test.usesStore || Statement.anyUsesStore body || Statement.anyUsesStore otherwise
  | .whileLoop test body otherwise =>
    test.usesStore || Statement.anyUsesStore body || Statement.anyUsesStore otherwise
  | .forLoop _ target iterable body otherwise =>
    target.usesStore || iterable.usesStore || Statement.anyUsesStore body ||
      Statement.anyUsesStore otherwise
  | .withBlock _ items body => items.any WithItem.usesStore || Statement.anyUsesStore body
  | .attempt _ body handlers otherwise always =>
    Statement.anyUsesStore body || Handler.anyUsesStore handlers ||
      Statement.anyUsesStore otherwise || Statement.anyUsesStore always
  | .function _ _ params returns decorators body =>
    params.usesStore || Expr.optionUsesStore returns || Expr.anyUsesStore decorators ||
      Statement.anyUsesStore body
  | .classDef _ bases keywords decorators body =>
    Expr.anyUsesStore bases || Keyword.anyUsesStore keywords || Expr.anyUsesStore decorators ||
      Statement.anyUsesStore body

def Statement.anyUsesStore : List Statement → Bool
  | [] => false
  | statement :: rest => statement.usesStore || Statement.anyUsesStore rest

def Handler.usesStore : Handler → Bool
  | .mk type _ body => Expr.optionUsesStore type || Statement.anyUsesStore body

def Handler.anyUsesStore : List Handler → Bool
  | [] => false
  | handler :: rest => handler.usesStore || Handler.anyUsesStore rest

end

end Blueprint.ServerCode
