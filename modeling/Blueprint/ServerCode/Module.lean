import Blueprint.ServerCode.Grammar
import Blueprint.ServerCode.Persistence
import Blueprint.ServerCode.Printer
import Blueprint.ScalarType

/-!
Modules of server code that are edited as trees: imports are merged, methods and functions added,
and code spliced in around the statement that touches the data source. Bodies that an author wrote
are never read; a placeholder stands for each and its text is put in when the module is rendered.
Trees for generated code are built in short ways, and what is to become a name is checked to be one.
-/

namespace Blueprint.ServerCode

open Blueprint.Text

/-- Where code is spliced in: before or after the statement that touches the data source. -/
inductive SplicePosition where
  | before | after
  deriving DecidableEq, Repr

/-- A module that is being edited. -/
structure Module where
  name : String
  body : List Statement
  /-- The bodies that placeholders stand for, by their numbers. -/
  bodies : List String := []
  /-- How many statements were spliced in behind the data source of each method. -/
  afterSplices : List ((String × String) × Nat) := []

namespace Module

/-- A module from its text. -/
def read (name text : String) : Except Failure Module := do
  return { name, body := ← readModule text }

/-- The class of a name. -/
def findClass? (module : Module) (name : String) : Option Statement :=
  module.body.find? fun statement => statement.className? == some name

/-- The statements of a class. -/
def classBody : Statement → List Statement
  | .classDef _ _ _ _ body => body
  | _ => []

/-- The statements of the class of a name, which must be there. -/
def getClass (module : Module) (name : String) : Except Failure (List Statement) :=
  match module.findClass? name with
  | some found => .ok (classBody found)
  | none => .error (.missingDeclaration module.name ("class " ++ name))

/-- The function of a name among some statements. -/
def findFunction? (name : String) (body : List Statement) : Option Statement :=
  body.find? fun statement => statement.functionName? == some name

/-- The method of a class, which must be there. -/
def getMethod (module : Module) (className method : String) : Except Failure Statement := do
  let body ← module.getClass className
  match findFunction? method body with
  | some found => return found
  | none => throw (.missingDeclaration module.name ("method " ++ className ++ "." ++ method))

/-- The function of a name, which must be there. -/
def getFunction (module : Module) (name : String) : Except Failure Statement :=
  match findFunction? name module.body with
  | some found => .ok found
  | none => .error (.missingDeclaration module.name ("function " ++ name))

/-- The class is there and has the method. -/
def hasMethod (module : Module) (className method : String) : Bool :=
  match module.findClass? className with
  | some found => (findFunction? method (classBody found)).isSome
  | none => false

/-- A constant that stands alone, as documentation does. -/
def isLoneConstant : Statement → Bool
  | .expr (.constant _) => true
  | _ => false

/-- The place for the next import: behind the last one, or behind the documentation. -/
def importIndex (body : List Statement) : Nat :=
  match body.reverse.findIdx? Statement.isImport with
  | some fromEnd => body.length - fromEnd
  | none => if body.head?.any isLoneConstant then 1 else 0

/-- Puts an import at its place. -/
def insertImport (module : Module) (statement : Statement) : Module :=
  { module with body := module.body.insertIdx (importIndex module.body) statement }

/-- The texts without later repetitions. -/
def distinct (names : List String) : List String := names.eraseDups

/-- An import of names from this very module, without dots. -/
def importsFrom (source : String) : Statement → Bool
  | .importFrom (some module) _ 0 => module == source
  | _ => false

/-- The names of an import with those that are missing, sorted. -/
def withNames (names : List String) : Statement → Statement
  | .importFrom module present level =>
    let missing := names.filter fun name => !(present.map Alias.name).contains name
    if missing.isEmpty then .importFrom module present level
    else .importFrom module
      ((present ++ (distinct missing).map Alias.plain).mergeSort fun a b => a.name ≤ b.name) level
  | statement => statement

/-- Changes the first item that a test accepts. -/
def changeFirst {α : Type} (accepts : α → Bool) (change : α → α) : List α → List α
  | [] => []
  | item :: items =>
    if accepts item then change item :: items else item :: changeFirst accepts change items

/-- Imports names from a module, within an import of the same module if there is one. -/
def mergeImport (module : Module) (source : String) (names : List String) : Module :=
  let names := names.filter (!·.isEmpty)
  if names.isEmpty then module
  else if module.body.any (importsFrom source) then
    { module with body := changeFirst (importsFrom source) (withNames names) module.body }
  else
    module.insertImport
      (.importFrom (some source) (((distinct names).mergeSort (· ≤ ·)).map Alias.plain) 0)

/-- An import of a module as a whole. -/
def importsWhole (source : String) : Statement → Bool
  | .importModules names => names.any (·.name == source)
  | _ => false

/-- Imports a module as a whole unless it is imported. -/
def addImport (module : Module) (source : String) : Module :=
  if module.body.any (importsWhole source) then module
  else module.insertImport (.importModules [{ name := source }])

/-- The imports that one statement asks for. Names bound to other names get imports of their own. -/
def addImportStatement (module : Module) (statement : Statement) : Except Failure Module :=
  match statement with
  | .importFrom source names 0 =>
    let plain := (names.filter (·.asName.isNone)).map Alias.name
    let merged := module.mergeImport (source.getD "") plain
    .ok ((names.filter (·.asName.isSome)).foldl
      (fun module renamed => module.insertImport (.importFrom source [renamed] 0)) merged)
  | .importModules names =>
    .ok (names.foldl (fun module imported =>
      if imported.asName.isNone then module.addImport imported.name
      else module.insertImport (.importModules [imported])) module)
  | other => .error (.notAnImport other.text)

/-- An edit that may have failed half-way: what has become of the module, and why it failed. -/
structure Edited where
  module : Module
  failure : Option Failure := none

/-- The module of an edit that did not fail. -/
def Edited.result (edited : Edited) : Except Failure Module :=
  match edited.failure with
  | some failure => .error failure
  | none => .ok edited.module

/-- The imports that some statements ask for, up to the first that is no import. -/
def addImportStatements (module : Module) : List Statement → Edited
  | [] => { module }
  | statement :: rest =>
    match module.addImportStatement statement with
    | .ok module => module.addImportStatements rest
    | .error failure => { module, failure := some failure }

/-- The imports of a block that an author wrote. -/
def addImportSource (module : Module) (source : String) : Edited :=
  if isBlankString source then { module }
  else match readBlock source with
    | .ok statements => module.addImportStatements statements
    | .error failure => { module, failure := some failure }

/-- The name that placeholders call. -/
def placeholderName : String := "__verbatim__"

/-- The statement that stands for a body. -/
def placeholder (index : Nat) : Statement :=
  .expr (.call (.name placeholderName) [.constant (.int index)] [])

/-- Keeps a body and gives the placeholder for it. -/
def keepBody (module : Module) (body : String) : Module × Statement :=
  ({ module with bodies := module.bodies ++ [body] }, placeholder module.bodies.length)

/-- Changes the statements of a class. -/
def changeClassBody (change : List Statement → List Statement) : Statement → Statement
  | .classDef name bases keywords decorators body =>
    .classDef name bases keywords decorators (change body)
  | statement => statement

/-- Changes the statements of the first class of a name. -/
def changeClass (module : Module) (name : String)
    (change : List Statement → List Statement) : Module :=
  { module with
    body := changeFirst (fun statement => statement.className? == some name)
      (changeClassBody change) module.body }

/-- Appends a method to a class, which then has no other statement that does nothing. -/
def appendMethod (module : Module) (className : String) (method : Statement) : Module :=
  module.changeClass className fun body => body.filter (!·.isPass) ++ [method]

/-- Changes the statements of a function. -/
def changeFunctionBody (change : List Statement → List Statement) : Statement → Statement
  | .function isAsync name params returns decorators body =>
    .function isAsync name params returns decorators (change body)
  | statement => statement

/-- Changes the decorators of a function. -/
def changeDecorators (change : List Expr → List Expr) : Statement → Statement
  | .function isAsync name params returns decorators body =>
    .function isAsync name params returns (change decorators) body
  | statement => statement

/-- The head of a function as it is written. -/
structure Header where
  name : String
  params : List String := []
  isAsync : Bool := false
  returns : Option String := none
  decorators : List String := []

/-- The text of a function up to its body. -/
def Header.text (header : Header) : String :=
  let returns := match header.returns with
    | some type => if type.isEmpty then "" else " -> " ++ type
    | none => ""
  (if header.isAsync then "async def " else "def ") ++ header.name ++ "(" ++
    ", ".intercalate header.params ++ ")" ++ returns ++ ":\n"

/-- The first statement of a block. -/
def readFirst (text : String) : Except Failure Statement := do
  match ← readBlock text with
  | statement :: _ => return statement
  | [] => throw .outOfRange

/-- Adds a method whose head and prologue are given as text and whose body is kept as it is. -/
def addMethod (module : Module) (className : String) (header : Header) (prologue : List String)
    (body : String) : Edited :=
  let read : Except Failure (Statement × List Statement) := do
    let _ ← module.getClass className
    let function ← readFirst (header.text ++ "    pass")
    let statements ← prologue.mapM readBlock
    return (function, statements.flatten)
  match read with
  | .error failure => { module, failure := some failure }
  | .ok (function, statements) =>
    let (kept, placeholder) := module.keepBody body
    match header.decorators.mapM readExpr with
    | .error failure => { module := kept, failure := some failure }
    | .ok decorators =>
      { module := kept.appendMethod className
          (changeDecorators (fun _ => decorators)
            (changeFunctionBody (fun _ => statements ++ [placeholder]) function)) }

/-- Puts a statement ahead of the function of a name, or at the end. -/
def insertBefore (name : Option String) (statement : Statement) (body : List Statement) :
    List Statement :=
  match name.bind fun name => body.findIdx? fun other => other.functionName? == some name with
  | some index => body.insertIdx index statement
  | none => body ++ [statement]

/-- Adds a function ahead of another or at the end. -/
def insertFunction (module : Module) (function : Statement) (before : Option String) : Module :=
  { module with body := insertBefore before function module.body }

@[simp] theorem body_insertFunction_none (module : Module) (function : Statement) :
    (module.insertFunction function none).body = module.body ++ [function] := rfl

/-- Adds a function whose head and body are given as text, ahead of another or at the end. -/
def addFunction (module : Module) (header : Header) (body : String) (before : Option String) :
    Except Failure Module := do
  let function ← readFirst (header.text ++ indentString "    " body)
  let decorators ← header.decorators.mapM readExpr
  return module.insertFunction (changeDecorators (fun _ => decorators) function) before

/-- Adds a decorator to a function of the module. -/
def addDecorator (module : Module) (function decorator : String) : Except Failure Module := do
  let _ ← module.getFunction function
  let decorator ← readExpr decorator
  return { module with
    body := changeFirst (fun statement => statement.functionName? == some function)
      (changeDecorators (· ++ [decorator])) module.body }

/-- The statements of a function. -/
def functionBody : Statement → List Statement
  | .function _ _ _ _ _ body => body
  | _ => []

/-- How many statements stand behind the data source of a method. -/
def afterCount (module : Module) (key : String × String) : Nat :=
  (module.afterSplices.lookup key).getD 0

/-- The place of the statement that touches the data source in a method, which must be there. -/
def storeIndex (module : Module) (className method : String) : Except Failure Nat := do
  let function ← module.getMethod className method
  match (functionBody function).findIdx? Statement.usesStore with
  | some index => return index
  | none =>
    throw (.missingDeclaration module.name
      ("persistence call in " ++ className ++ "." ++ method))

/-- Puts statements at a place of a list. -/
def insertAll {α : Type} (items : List α) (index : Nat) (list : List α) : List α :=
  list.take index ++ items ++ list.drop index

/-- Splices statements and a kept body into a method around the statement that touches the data
source. Behind it, later splices follow earlier ones. -/
def spliceStatements (module : Module) (className method : String) (position : SplicePosition)
    (lead : List Statement) (body : String) : Except Failure Module := do
  let anchor ← module.storeIndex className method
  let (kept, placeholder) := module.keepBody body
  let statements := lead ++ [placeholder]
  let key := (className, method)
  let index := match position with
    | .before => anchor
    | .after => anchor + 1 + module.afterCount key
  let afterSplices := match position with
    | .before => module.afterSplices
    | .after =>
      (key, module.afterCount key + statements.length) ::
        module.afterSplices.filter (·.1 != key)
  let changed := kept.changeClass className
    (changeFirst (fun statement => statement.functionName? == some method)
      (changeFunctionBody (insertAll statements index)))
  return { changed with afterSplices }

/-- Splices a body into a method after assignments of names that it uses. -/
def splice (module : Module) (className method body position : String)
    (aliases : List (String × String)) : Except Failure Module := do
  let position ← match position with
    | "before" => pure SplicePosition.before
    | "after" => pure SplicePosition.after
    | other => throw (.unknownSplicePosition other)
  let _ ← module.storeIndex className method
  let lead ← aliases.mapM fun entry => readBlock (entry.1 ++ " = " ++ entry.2)
  module.spliceStatements className method position lead.flatten body

/-- The indentation and the number of a placeholder on a line of its own. -/
def placeholderLine? (line : List Char) : Option (List Char × Nat) := do
  let rest ← after? (placeholderName.toList ++ ['(']) (line.dropWhile isIndent)
  let digits := rest.takeWhile isDecimal
  if digits.isEmpty || rest.dropWhile isDecimal != [')'] then none
  else some (line.takeWhile isIndent,
    digits.foldl (fun value c => 10 * value + decimalValue c) 0)

/-- A body in the place of its placeholder; a blank body does nothing. -/
def bodyText (margin : List Char) (body : String) : List Char :=
  if isBlankString body then margin ++ "pass".toList
  else indent margin (body.toList.reverse.dropWhile (· == '\n')).reverse

/-- A line of the printed module with its body in place of a placeholder. -/
def renderLine (bodies : List String) (line : List Char) : Except Failure (List Char) :=
  match placeholderLine? line with
  | none => .ok line
  | some (margin, index) => match bodies[index]? with
    | some body => .ok (bodyText margin body)
    | none => .error .outOfRange

/-- The text of the module, under a header if there is one. It ends with a line feed. -/
def render (module : Module) (header : String) : Except Failure String := do
  let lines ← (linesOf (moduleText module.body).toList).mapM (renderLine module.bodies)
  let text := String.ofList (joinLines lines)
  let text := if header.isEmpty then text else header ++ "\n" ++ text
  return if text.endsWith "\n" then text else text ++ "\n"

end Module

namespace Expr

/-- A text. -/
def str (value : String) : Expr := .constant (.text value false)

/-- A number. -/
def nat (value : Nat) : Expr := .constant (.int value)

/-- No value. -/
def nothing : Expr := .constant .none

/-- A member of a member of a name. -/
def dotted (owner : String) (members : List String) : Expr :=
  members.foldl .attribute (.name owner)

/-- A call with arguments given by place. -/
def apply (function : Expr) (arguments : List Expr) : Expr := .call function arguments []

/-- The type of values that may be missing. -/
def optionalOf (type : Expr) : Expr := .subscript (.name "Optional") type

/-- The type of lists. -/
def listOf (type : Expr) : Expr := .subscript (.name "list") type

/-- A type in code. -/
def ofType : ServerType → Expr
  | .named "None" => nothing
  | .named other => .name other
  | .dictionary => .subscript (.name "dict") (.tuple [.name "str", .name "Any"])
  | .forward entity => str entity
  | .list item => listOf (ofType item)

end Expr

namespace Statement

/-- Binds a name. -/
def bind (name : String) (value : Expr) : Statement := .assign [.name name] value

/-- Gives a value back. -/
def give (value : Expr) : Statement := .ret (some value)

/-- A text that documents what it stands first in. -/
def documentation (text : String) : Statement := .expr (.str text)

/-- Imports names as they are. -/
def importing (source : String) (names : List String) : Statement :=
  .importFrom (some source) (names.map Alias.plain) 0

/-- Imports one name under another. -/
def importingAs (source name bound : String) : Statement :=
  .importFrom (some source) [⟨name, some bound⟩] 0

/-- Imports a module. -/
def importingModule (source : String) : Statement := .importModules [Alias.plain source]

end Statement

/-- A parameter of a type, with a default value. -/
def Param.typed (name : String) (type : Expr) (default : Option Expr) : Param :=
  .mk name (some type) default

/-- Every text is a name; code that uses another as a name cannot be read. -/
def checkNames (names : List String) : Except Failure PUnit :=
  if names.all isName then .ok ⟨⟩ else .error .unreadableCode

end Blueprint.ServerCode
