import Blueprint.Decimal.Double

/-!
Server code as trees: expressions, statements and what they are made of. A tree keeps what the code
says and drops how it was laid out: comments, blank lines, redundant brackets and the choice of
quotes.
-/

namespace Blueprint.ServerCode

/-- A constant of server code. -/
inductive Constant where
  | none
  | bool (value : Bool)
  | ellipsis
  | int (value : Nat)
  | float (value : Double)
  | imaginary (value : Double)
  /-- A text; it may carry a mark that has no meaning. -/
  | text (value : String) (marked : Bool)
  | bytes (value : List UInt8)
  deriving DecidableEq, Repr

/-- Operators with one operand. -/
inductive UnaryOperator where
  | invert | not | plus | minus
  deriving DecidableEq, Repr

/-- Operators with two operands. -/
inductive BinaryOperator where
  | add | subtract | multiply | matrixMultiply | divide | modulo | shiftLeft | shiftRight
  | bitOr | bitXor | bitAnd | floorDivide | power
  deriving DecidableEq, Repr

/-- Operators that decide whether their later operands are looked at. -/
inductive LogicOperator where
  | and | or
  deriving DecidableEq, Repr

/-- Comparisons, which may be chained. -/
inductive Comparison where
  | equal | notEqual | less | lessEqual | greater | greaterEqual | same | notSame | within
  | notWithin
  deriving DecidableEq, Repr

/-- What a comprehension builds. -/
inductive ComprehensionKind where
  | list | set | generator
  deriving DecidableEq, Repr

mutual

/-- An expression. -/
inductive Expr where
  | name (id : String)
  | constant (value : Constant)
  /-- A text with values in it. -/
  | formatted (parts : List FormatPart)
  | tuple (items : List Expr)
  | list (items : List Expr)
  | set (items : List Expr)
  | dict (entries : List DictEntry)
  | unary (operator : UnaryOperator) (operand : Expr)
  | binary (left : Expr) (operator : BinaryOperator) (right : Expr)
  | logic (operator : LogicOperator) (operands : List Expr)
  | compare (first : Expr) (rest : List Compared)
  | call (function : Expr) (arguments : List Expr) (keywords : List Keyword)
  | attribute (value : Expr) (member : String)
  | subscript (value index : Expr)
  | slice (lower upper step : Option Expr)
  | starred (value : Expr)
  | lambda (params : Params) (body : Expr)
  | conditional (body test otherwise : Expr)
  | named (target value : Expr)
  | await (value : Expr)
  | yield (value : Option Expr)
  | yieldFrom (value : Expr)
  | comprehension (kind : ComprehensionKind) (element : Expr) (clauses : List Clause)
  | dictComprehension (key value : Expr) (clauses : List Clause)

/-- A piece of a text with values: plain text, or a value with a conversion and a format. -/
inductive FormatPart where
  | text (value : String)
  | value (value : Expr) (conversion : Option Char) (format : Option (List FormatPart))

/-- An entry of a dictionary, or another dictionary whose entries are taken over. -/
inductive DictEntry where
  | pair (key value : Expr)
  | spread (value : Expr)

/-- One step of a chain of comparisons. -/
inductive Compared where
  | mk (comparison : Comparison) (operand : Expr)

/-- An argument with a name, or a dictionary of such arguments. -/
inductive Keyword where
  | named (name : String) (value : Expr)
  | spread (value : Expr)

/-- One `for` of a comprehension with its conditions. -/
inductive Clause where
  | mk (isAsync : Bool) (target iterable : Expr) (conditions : List Expr)

/-- A parameter with its type hint and default value. -/
inductive Param where
  | mk (name : String) (hint default : Option Expr)

/-- The parameters of a function: those given by place only, by place or name, the one that takes
further places, those given by name only, and the one that takes further names. -/
inductive Params where
  | mk (placed params : List Param) (rest : Option Param) (named : List Param)
      (namedRest : Option Param)

end

instance : Inhabited Expr := ⟨.constant .none⟩

namespace Param

/-- The name of a parameter. -/
def name : Param → String
  | mk name _ _ => name

/-- A parameter without type hint and default value. -/
def plain (name : String) : Param := mk name none none

end Param

namespace Params

/-- No parameters. -/
def empty : Params := mk [] [] none [] none

/-- Parameters given by place or name. -/
def of (params : List Param) : Params := mk [] params none [] none

/-- The parameters given by place or name. -/
def params : Params → List Param
  | mk _ params _ _ _ => params

end Params

/-- A name that is imported and the name it is bound to when that differs. -/
structure Alias where
  name : String
  asName : Option String := none
  deriving DecidableEq, Repr

/-- A name that is imported as it is. -/
def Alias.plain (name : String) : Alias := { name }

/-- A value of a `with` and what it is bound to. -/
structure WithItem where
  value : Expr
  target : Option Expr

mutual

/-- A statement; blocks are lists of statements. -/
inductive Statement where
  | expr (value : Expr)
  | assign (targets : List Expr) (value : Expr)
  /-- An annotated target; a bare name may stand in brackets. -/
  | annotate (target : Expr) (bracketed : Bool) (hint : Expr) (value : Option Expr)
  | augment (target : Expr) (operator : BinaryOperator) (value : Expr)
  | ret (value : Option Expr)
  | raise (error cause : Option Expr)
  | assert (test : Expr) (reason : Option Expr)
  | delete (targets : List Expr)
  | globals (names : List String)
  | nonlocals (names : List String)
  | pass
  | breakLoop
  | continueLoop
  | importModules (names : List Alias)
  | importFrom (module : Option String) (names : List Alias) (level : Nat)
  | branch (test : Expr) (body otherwise : List Statement)
  | whileLoop (test : Expr) (body otherwise : List Statement)
  | forLoop (isAsync : Bool) (target iterable : Expr) (body otherwise : List Statement)
  | withBlock (isAsync : Bool) (items : List WithItem) (body : List Statement)
  /-- A block whose errors are handled; handlers of groups take parts of an error. -/
  | attempt (ofGroups : Bool) (body : List Statement) (handlers : List Handler)
      (otherwise always : List Statement)
  | function (isAsync : Bool) (name : String) (params : Params) (returns : Option Expr)
      (decorators : List Expr) (body : List Statement)
  | classDef (name : String) (bases : List Expr) (keywords : List Keyword)
      (decorators : List Expr) (body : List Statement)

/-- A handler of errors. -/
inductive Handler where
  | mk (type : Option Expr) (name : Option String) (body : List Statement)

end

instance : Inhabited Statement := ⟨.pass⟩

namespace Statement

/-- The name of a class that a statement defines. -/
def className? : Statement → Option String
  | classDef name _ _ _ _ => some name
  | _ => none

/-- The name of a function that a statement defines. -/
def functionName? : Statement → Option String
  | function _ name _ _ _ _ => some name
  | _ => none

/-- The statement does nothing. -/
def isPass : Statement → Bool
  | pass => true
  | _ => false

/-- An import of either form. -/
def isImport : Statement → Bool
  | importModules _ | importFrom .. => true
  | _ => false

end Statement

end Blueprint.ServerCode
