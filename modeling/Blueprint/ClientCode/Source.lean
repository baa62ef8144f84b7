import Blueprint.Step
import Blueprint.Text.Lines

/-!
Source files of client code: imports, free statements and classes with decorators and members. A
file is put together in memory and printed once. Literals are written with single quotes and an
indentation of two spaces.
-/

namespace Blueprint.ClientCode

section Literals

/-- A character inside single quotes. -/
def escapeChar : Char → List Char
  | '\\' => ['\\', '\\']
  | '\'' => ['\\', '\'']
  | c => [c]

/-- A text between single quotes. -/
def quotedChars (text : List Char) : List Char := '\'' :: text.flatMap escapeChar ++ ['\'']

/-- A text between single quotes. -/
def quoted (text : String) : String := String.ofList (quotedChars text.toList)

/-- The indentation of a level. -/
def margin (level : Nat) : String := "".pushn ' ' (2 * level)

/-- An object of values that are already written, an entry per line. -/
def objectText (level : Nat) (entries : List (String × String)) : String :=
  if entries.isEmpty then "\x7b\x7d"
  else
    let lines := entries.map fun entry => margin (level + 1) ++ entry.1 ++ ": " ++ entry.2 ++ ","
    "\x7b\n" ++ Text.unlines lines ++ "\n" ++ margin level ++ "\x7d"

/-- An array of values that are already written, on one line if there are few of them. -/
def arrayText (level limit : Nat) (items : List String) : String :=
  if items.length ≤ limit then "[" ++ ", ".intercalate items ++ "]"
  else
    "[\n" ++ ",\n".intercalate (items.map (margin (level + 1) ++ ·)) ++ ",\n" ++ margin level ++ "]"

/-- Puts an indentation before every line that is not blank. -/
def indentBlock (level : Nat) (text : String) : String := Text.indentString (margin level) text

end Literals

open Blueprint.Text

/-- The module whose import comes first. -/
def coreModule : String := "@angular/core"

/-- An import of names, of a default value, or of a module for its effects. -/
structure Import where
  module : String
  names : List String := []
  default : Option String := none
  deriving DecidableEq, Repr

namespace Import

/-- Adds the names that are not empty and not there yet, in order. -/
def add (imported : Import) (names : List String) : Import :=
  names.foldl (fun imported name =>
    if name.isEmpty || imported.names.contains name then imported
    else { imported with names := imported.names ++ [name] }) imported

/-- Sets the default value unless there is one. -/
def addDefault (imported : Import) (default : Option String) : Import :=
  match imported.default, default with
  | none, some name => if name.isEmpty then imported else { imported with default := some name }
  | _, _ => imported

def render (imported : Import) : String :=
  let names :=
    if imported.names.isEmpty then []
    else ["\x7b " ++ ", ".intercalate (sorted imported.names) ++ " \x7d"]
  let parts := imported.default.toList ++ names
  if parts.isEmpty then "import " ++ quoted imported.module ++ ";"
  else "import " ++ ", ".intercalate parts ++ " from " ++ quoted imported.module ++ ";"

end Import

/-- A decorator with its arguments as they are written. -/
structure Decorator where
  name : String
  arguments : List String := []
  deriving DecidableEq, Repr

def Decorator.render (decorator : Decorator) : String :=
  "@" ++ decorator.name ++ "(" ++ ", ".intercalate decorator.arguments ++ ")"

/-- A field of a class. It may be left out, or be promised to be set before it is read. -/
structure Property where
  name : String
  type : Option String := none
  initial : Option String := none
  modifiers : List String := []
  decorators : List Decorator := []
  optional : Bool := false
  definite : Bool := false
  deriving DecidableEq, Repr

/-- A type after its colon; nothing for no type. -/
def typeText (type : Option String) : String :=
  match type with
  | some type => if type.isEmpty then "" else ": " ++ type
  | none => ""

def Property.render (property : Property) : String :=
  let words := property.decorators.map Decorator.render ++ property.modifiers ++ [property.name]
  let mark := if property.optional then "?" else if property.definite then "!" else ""
  let initial := match property.initial with
    | some value => " = " ++ value
    | none => ""
  " ".intercalate words ++ mark ++ typeText property.type ++ initial ++ ";"

/-- A method with the text of its body. -/
structure Method where
  name : String
  params : List String := []
  returns : Option String := none
  body : String := ""
  isAsync : Bool := false
  modifiers : List String := []
  decorators : List Decorator := []
  deriving DecidableEq, Repr

namespace Method

/-- A method up to its body. -/
def signature (method : Method) : String :=
  let words := method.decorators.map Decorator.render ++ method.modifiers ++
    (if method.isAsync then ["async"] else []) ++
    [method.name ++ "(" ++ ", ".intercalate method.params ++ ")"]
  " ".intercalate words ++ typeText method.returns

/-- Puts lines before the body. -/
def prepend (method : Method) (lines : List String) : Method :=
  let front := unlines lines
  { method with body := if isBlankString method.body then front else front ++ "\n" ++ method.body }

/-- Puts lines behind the body. -/
def append (method : Method) (lines : List String) : Method :=
  let back := unlines lines
  { method with
    body := if isBlankString method.body then back else stripEnd method.body ++ "\n" ++ back }

def render (method : Method) : String :=
  if isBlankString method.body then method.signature ++ " \x7b\x7d"
  else method.signature ++ " \x7b\n" ++ indentBlock 1 (stripEnd method.body) ++ "\n\x7d"

end Method

/-- A field that is computed when it is read or that does something when it is set. -/
structure Accessor where
  /-- Either `get` or `set`. -/
  kind : String
  name : String
  param : Option String := none
  returns : Option String := none
  body : String := ""
  deriving DecidableEq, Repr

def Accessor.render (accessor : Accessor) : String :=
  accessor.kind ++ " " ++ accessor.name ++ "(" ++ accessor.param.getD "" ++ ")" ++
    typeText accessor.returns ++ " \x7b\n" ++ indentBlock 1 (stripEnd accessor.body) ++ "\n\x7d"

/-- A member of a class. -/
inductive Member where
  | property (property : Property)
  | method (method : Method)
  | accessor (accessor : Accessor)
  deriving DecidableEq, Repr

namespace Member

def name : Member → String
  | property found => found.name
  | method found => found.name
  | accessor found => found.name

def render : Member → String
  | property found => found.render
  | method found => found.render
  | accessor found => found.render

def isProperty : Member → Bool
  | property _ => true
  | _ => false

/-- The method that a member is. -/
def method? : Member → Option Method
  | method found => some found
  | _ => none

/-- Changes a member that is a method. -/
def changeMethod (change : Method → Method) : Member → Member
  | method found => method (change found)
  | member => member

/-- Members with a blank line between two of them, unless both are fields. -/
def blocks : List Member → List String
  | [] => []
  | [last] => [indentBlock 1 last.render]
  | first :: second :: rest =>
    indentBlock 1 first.render ::
      ((if first.isProperty && second.isProperty then [] else [""]) ++ blocks (second :: rest))

end Member

/-- A class. -/
structure ClassDecl where
  name : String
  exported : Bool := true
  base : Option String := none
  interfaces : List String := []
  decorators : List Decorator := []
  members : List Member := []
  deriving DecidableEq, Repr

namespace ClassDecl

/-- Adds a member at the end. -/
def addMember (owner : ClassDecl) (member : Member) : ClassDecl :=
  { owner with members := owner.members ++ [member] }

/-- Adds members at the end. -/
def addMembers (owner : ClassDecl) (members : List Member) : ClassDecl :=
  { owner with members := owner.members ++ members }

/-- Adds a member at the front. -/
def addFirst (owner : ClassDecl) (member : Member) : ClassDecl :=
  { owner with members := member :: owner.members }

/-- Names interfaces that are not named yet, in order. -/
def implement (owner : ClassDecl) (names : List String) : ClassDecl :=
  names.foldl (fun owner name =>
    if owner.interfaces.contains name then owner
    else { owner with interfaces := owner.interfaces ++ [name] }) owner

/-- Adds a decorator behind the others. -/
def decorate (owner : ClassDecl) (decorator : Decorator) : ClassDecl :=
  { owner with decorators := owner.decorators ++ [decorator] }

/-- The method of a name, which must be there. -/
def getMethod (owner : ClassDecl) (name : String) : Except Failure Method :=
  match owner.members.findSome? fun member =>
    member.method?.filter fun (method : Method) => method.name == name with
  | some method => .ok method
  | none => .error (.missingDeclaration owner.name ("method " ++ name))

/-- Changes the first method of a name. -/
def changeMethod (owner : ClassDecl) (name : String) (change : Method → Method) : ClassDecl :=
  let rec go : List Member → List Member
    | [] => []
    | member :: rest =>
      if member.method?.any (·.name == name) then member.changeMethod change :: rest
      else member :: go rest
  { owner with members := go owner.members }

def render (owner : ClassDecl) : String :=
  let base := match owner.base with
    | some base => if base.isEmpty then "" else " extends " ++ base
    | none => ""
  let interfaces :=
    if owner.interfaces.isEmpty then ""
    else " implements " ++ ", ".intercalate owner.interfaces
  let head := (if owner.exported then "export " else "") ++ "class " ++ owner.name ++ base ++
    interfaces
  let lines :=
    if owner.members.isEmpty then [head ++ " \x7b\x7d"]
    else (head ++ " \x7b") :: Member.blocks owner.members ++ ["\x7d"]
  unlines (owner.decorators.map Decorator.render ++ lines)

end ClassDecl

/-- A request to import names from a module, and its default value under a name. -/
structure ImportRequest where
  module : String
  names : List String := []
  default : Option String := none
  deriving DecidableEq, Repr

/-- A source file. -/
structure Source where
  name : String
  imports : List Import := []
  statements : List String := []
  classes : List ClassDecl := []
  epilogue : List String := []
  deriving DecidableEq, Repr

namespace Source

/-- The import of a module. -/
def findImport? (source : Source) (module : String) : Option Import :=
  source.imports.find? (·.module == module)

/-- Changes the import of a module, which is made first if it is missing. -/
def changeImport (module : String) (change : Import → Import) (imports : List Import) :
    List Import :=
  if imports.any (·.module == module) then
    imports.map fun imported => if imported.module == module then change imported else imported
  else if module == coreModule then change { module } :: imports
  else imports ++ [change { module }]

/-- Imports names from a module. -/
def addImport (source : Source) (module : String) (names : List String) : Source :=
  { source with imports := changeImport module (·.add names) source.imports }

/-- Imports the default value of a module under a name unless it has one. -/
def addDefaultImport (source : Source) (module : String) (default : Option String) : Source :=
  { source with imports := changeImport module (·.addDefault default) source.imports }

/-- Imports what is requested. -/
def request (source : Source) (wanted : ImportRequest) : Source :=
  (source.addImport wanted.module wanted.names).addDefaultImport wanted.module wanted.default

/-- Drops the imports of modules that a test accepts. -/
def removeImports (source : Source) (test : String → Bool) : Source :=
  { source with imports := source.imports.filter fun imported => !test imported.module }

/-- The names that imports bind, each once and in order. -/
def importedNames (source : Source) : List String :=
  sortedSet (source.imports.flatMap fun imported => imported.names ++ imported.default.toList)

/-- The first class that is exported, which must be there. -/
def exportedClass (source : Source) : Except Failure ClassDecl :=
  match source.classes.find? (·.exported) with
  | some found => .ok found
  | none => .error (.missingDeclaration source.name "exported class")

/-- Adds a statement unless it is blank. -/
def addStatement (source : Source) (text : String) : Source :=
  if isBlankString text then source
  else { source with statements := source.statements ++ [stripEnd text] }

/-- The text of the file: imports, statements, classes and what follows them. -/
def render (source : Source) : String :=
  let imports := source.imports.filter (·.module == coreModule) ++
    source.imports.filter (·.module != coreModule)
  let block (lines : List String) : List String := if lines.isEmpty then [] else [unlines lines]
  let sections := block (imports.map Import.render) ++ block source.statements ++
    source.classes.map ClassDecl.render ++ source.epilogue
  "\n\n".intercalate sections ++ "\n"

end Source

end Blueprint.ClientCode
