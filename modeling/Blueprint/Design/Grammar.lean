import Blueprint.Design.Token
import Blueprint.Design.Unit
import Blueprint.Text.Lines
import Blueprint.Text.Replace

/-!
The grammar of designs. Every unit is a block from its kind to `end` whose sections may come in any
order; lists are lines `- item;`. Code that an author puts into a design stands between three
backticks or two; inside a fence, blank lines at both ends and the indentation common to all lines
are layout of the design and are dropped.
-/

namespace Blueprint.Design

open Blueprint.Text

/-- Three backticks. -/
def fence : List Char := "```".toList

/-- One backtick. -/
def tick : List Char := "`".toList

/-- The text between a start and an end that do not overlap. -/
def between? (mark text : List Char) : Option (List Char) :=
  if 2 * mark.length ≤ text.length && mark.isPrefixOf text && mark.isSuffixOf text then
    some ((text.drop mark.length).take (text.length - 2 * mark.length))
  else none

/-- Drops blank lines at both ends. -/
def trimBlankLines (lines : List (List Char)) : List (List Char) :=
  ((lines.dropWhile isBlankText).reverse.dropWhile isBlankText).reverse

/-- The lines inside a fence without the layout of the design. -/
def fencedLines (inner : List Char) : List (List Char) :=
  dedentLines (trimBlankLines (linesOf inner))

/-- Code without its backticks. A text that has none stays as it is. -/
def rawCode (text : List Char) : List Char :=
  match between? fence text with
  | some inner => joinLines (fencedLines inner)
  | none => (between? tick text).getD text

/-- Code without its backticks. -/
def rawText (text : String) : String := String.ofList (rawCode text.toList)

namespace Reader

def sign (text : String) : Reader PUnit := token (Lexeme.sign text)
def word (text : String) : Reader PUnit := token (Lexeme.word text)
def name : Reader String := token Lexeme.name
def quoted : Reader String := token Lexeme.quoted

/-- Whether a token is there. -/
def flag (reader : Reader PUnit) : Reader Bool := do return (← optional reader).isSome

/-- A list of names between commas. -/
def names : Reader (List String) := sepBy1 name (sign ",")

/-- Code in a fence, without it. -/
def rawBlock : Reader String :=
  token (Lexeme.map (fun text => String.ofList (rawCode text)) Lexeme.fenced)

/-- Code in a fence or between two backticks, with them. -/
def markedCode : Reader String :=
  orElse (token (Lexeme.map String.ofList Lexeme.fenced))
    (token (Lexeme.map String.ofList Lexeme.inlineCode))

/-- A key: a text between quotes or a name. -/
def key : Reader String := orElse quoted name

/-- A value of a setting. -/
def literal : Reader Json :=
  firstOf [token (Lexeme.quoted.map Json.str), token (Lexeme.decimal.map Json.float),
    token (Lexeme.integer.map Json.int), token (Lexeme.boolean.map Json.bool)]

def setting : Reader Setting := do
  sign "-"
  let key ← key
  sign ":"
  let value ← literal
  sign ";"
  return ⟨key, value⟩

def dependency : Reader Dependency := do
  sign "-"
  let package ← key
  sign ":"
  let version ← quoted
  let dev ← flag (word "dev")
  sign ";"
  return ⟨package, version, dev⟩

/-- A value of an option. Texts of every form may carry backticks, which are dropped; a key given
twice in an object keeps its first place and its last value. -/
def optionValue : Nat → Reader Json
  | 0 => never
  | depth + 1 =>
    let text (reader : Reader String) : Reader Json := do return .str (rawText (← reader))
    firstOf [text quoted, token (Lexeme.decimal.map Json.float),
      token (Lexeme.integer.map Json.int), token (Lexeme.boolean.map Json.bool),
      (do
        sign "\x7b"
        let entries ← sepBy (do
          let key ← name
          sign ":"
          let value ← optionValue depth
          return (key, value)) (sign ",")
        sign "\x7d"
        return .obj (OrderedMap.ofList entries)),
      text markedCode, text name]

/-- An option. A value without a colon before it is read and dropped. -/
def writtenOption : Reader WrittenOption := do
  let offset ← position
  let key ← name
  let value ← optional (do
    let valued ← flag (sign ":")
    let value ← fun cursor => optionValue cursor.rest.length cursor
    return if valued then value else .bool true)
  return ⟨offset, key, value.getD (.bool true)⟩

/-- Options between brackets. -/
def options : Reader (List WrittenOption) := do
  sign "("
  let options ← sepBy1 writtenOption (sign ",")
  sign ")"
  return options

def typeRef : Reader TypeRef := do
  let name ← token Lexeme.typeName
  return ⟨name, ← flag (sign "[]")⟩

def property : Reader Property := do
  let offset ← position
  sign "-"
  let name ← name
  let isOptional ← flag (sign "?")
  sign ":"
  let type ← typeRef
  let written ← optional options
  let initializer ← optional (after (sign "=") markedCode)
  sign ";"
  return { offset, name, optional := isOptional, type, written := written.getD []
           initializer := rawText (initializer.getD "") }

def parameter : Reader Parameter := do
  let name ← name
  let isOptional ← flag (sign "?")
  let type ← optional (after (sign ":") typeRef)
  return ⟨name, isOptional, type⟩

/-- Parameters between brackets. -/
def parameters : Reader (List Parameter) := do
  sign "("
  let params ← sepBy parameter (sign ",")
  sign ")"
  return params

def method : Reader Method := do
  let offset ← position
  sign "-"
  let async ← flag (word "async")
  let name ← name
  let params ← parameters
  let returns ← optional (after (sign ":") typeRef)
  let written ← optional options
  let body ← rawBlock
  return { offset, name, async, params, returns, written := written.getD [], body }

def function : Reader Function := do
  let async ← flag (word "async")
  word "function"
  let name ← name
  let params ← parameters
  let returns ← optional (after (sign "->") typeRef)
  let body ← rawBlock
  return ⟨name, async, params, returns, body⟩

def importSpec : Reader ImportSpec := do
  sign "-"
  let names ← names
  word "from"
  let module ← quoted
  sign ";"
  return ⟨names, module⟩

/-- A behavior type: a text between quotes or a name. -/
def behaviorType : Reader String := key

def httpMethod : Reader HttpMethod :=
  firstOf (HttpMethod.all.map fun method => after (word method.name) (done method))

def interfaceKind : Reader InterfaceKind :=
  firstOf (InterfaceKind.all.map fun kind => after (word kind.name) (done kind))

/-- What a section is made of: the sign it starts with, how its value is read, and what the value
changes in the unit. -/
structure Entry (σ : Type) where
  {Value : Type}
  keyword : String
  value : Reader Value
  set : Value → σ → σ
  required : Bool := false

def Entry.toSection {σ : Type} (entry : Entry σ) : Section σ :=
  { read := do
      sign entry.keyword
      return entry.set (← entry.value)
    required := entry.required }

/-- A section that may be missing. -/
def entry {σ α : Type} (keyword : String) (value : Reader α) (set : α → σ → σ) : Entry σ :=
  { keyword, value, set }

def projectSections : List (Entry Project) :=
  [entry "displayName:" quoted fun value unit => { unit with displayName := value },
    entry "description:" quoted fun value unit => { unit with description := value },
    entry "packageName:" quoted fun value unit => { unit with packageName := value },
    entry "version:" quoted fun value unit => { unit with version := value },
    entry "library:" (token Lexeme.boolean) fun value unit => { unit with isLibrary := value },
    entry "defaultDataSource:" name fun value unit => { unit with defaultDataSource := value },
    entry "defaultPage:" name fun value unit => { unit with defaultPage := value },
    entry "parameters:" (atLeastOne setting) fun value unit => { unit with parameters := value },
    entry "serverDependencies:" (atLeastOne dependency)
      fun value unit => { unit with serverDependencies := value },
    entry "serverScripts:" (atLeastOne setting)
      fun value unit => { unit with serverScripts := value },
    entry "clientDependencies:" (atLeastOne dependency)
      fun value unit => { unit with clientDependencies := value },
    entry "clientScripts:" (atLeastOne setting)
      fun value unit => { unit with clientScripts := value },
    entry "overrides:" (atLeastOne setting) fun value unit => { unit with overrides := value },
    entry "styles:" rawBlock fun value unit => { unit with styles := value }]

def dataSourceSections : List (Entry DataSource) :=
  [entry "persistenceType:" name fun value unit => { unit with persistenceType := value },
    entry "url:" quoted fun value unit => { unit with url := value },
    entry "settings:" (atLeastOne setting) fun value unit => { unit with settings := value }]

def entitySections : List (Entry Entity) :=
  [entry "description:" quoted fun value unit => { unit with description := value },
    entry "dataSource:" name fun value unit => { unit with dataSource := value },
    entry "mixins:" names fun value unit => { unit with mixins := value },
    entry "properties:" (atLeastOne property) fun value unit => { unit with properties := value }]

def mixinSections : List (Entry Mixin) :=
  [entry "description:" quoted fun value unit => { unit with description := value },
    entry "properties:" (atLeastOne property) fun value unit => { unit with properties := value }]

def behaviorSections : List (Entry Behavior) :=
  [entry "description:" quoted fun value unit => { unit with description := value },
    entry "type:" behaviorType fun value unit => { unit with type := some value },
    entry "httpMethod:" httpMethod fun value unit => { unit with httpMethod := some value },
    entry "uses:" names fun value unit => { unit with uses := value },
    entry "imports:" rawBlock fun value unit => { unit with imports := value }]

def pageSections : List (Entry Page) :=
  [entry "description:" quoted fun value unit => { unit with description := value },
    entry "path:" quoted fun value unit => { unit with path := value },
    entry "selector:" quoted fun value unit => { unit with selector := value },
    entry "imports:" (atLeastOne importSpec) fun value unit => { unit with imports := value },
    entry "preamble:" rawBlock fun value unit => { unit with preamble := value },
    entry "properties:" (atLeastOne property) fun value unit => { unit with properties := value },
    entry "methods:" (atLeastOne method) fun value unit => { unit with methods := value },
    entry "template:" rawBlock fun value unit => { unit with template := value },
    entry "styles:" rawBlock fun value unit => { unit with styles := value }]

def componentSections : List (Entry Component) :=
  [entry "description:" quoted fun value unit => { unit with description := value },
    entry "selector:" quoted fun value unit => { unit with selector := value },
    entry "mixins:" names fun value unit => { unit with mixins := value },
    entry "imports:" (atLeastOne importSpec) fun value unit => { unit with imports := value },
    entry "preamble:" rawBlock fun value unit => { unit with preamble := value },
    entry "properties:" (atLeastOne property) fun value unit => { unit with properties := value },
    entry "methods:" (atLeastOne method) fun value unit => { unit with methods := value },
    entry "template:" rawBlock fun value unit => { unit with template := value },
    entry "styles:" rawBlock fun value unit => { unit with styles := value }]

def selectorInterfaceSections : List (Entry SelectorInterface) :=
  [entry "description:" quoted fun value unit => { unit with description := value },
    { entry "selector:" quoted (fun value unit => { unit with selector := value }) with
      required := true },
    entry "imports:" (atLeastOne importSpec) fun value unit => { unit with imports := value }]

/-- A unit from its kind to `end`: its head gives the empty unit, its sections fill it. -/
def block {σ : Type} (start : String) (head : Nat → Reader σ) (entries : List (Entry σ))
    (tail : σ → Reader σ) : Reader σ := do
  let offset ← position
  word start
  let unit ← head offset
  let unit ← sections (entries.map Entry.toSection) unit
  let unit ← tail unit
  word "end"
  return unit

def project : Reader Project :=
  block "Project" (fun offset => do return { offset, name := ← name }) projectSections done

def dataSource : Reader DataSource :=
  block "DataSource" (fun offset => do return { offset, name := ← name }) dataSourceSections done

def entity : Reader Entity :=
  block "Entity" (fun offset => do return { offset, name := ← name }) entitySections done

def mixin : Reader Mixin :=
  block "Mixin" (fun offset => do return { offset, name := ← name }) mixinSections done

def behavior : Reader Behavior :=
  block "Behavior"
    (fun offset => do
      let name ← name
      word "on"
      return { offset, name, owner := ← Reader.name })
    behaviorSections
    (fun unit => do return { unit with function := ← optional function })

def page : Reader Page :=
  block "Page" (fun offset => do return { offset, name := ← name }) pageSections done

def component : Reader Component :=
  block "Component" (fun offset => do return { offset, name := ← name }) componentSections done

def selectorInterface : Reader SelectorInterface :=
  block "Interface"
    (fun offset => do
      sign "<"
      let kind ← interfaceKind
      sign ">"
      return { offset, kind, name := ← name })
    selectorInterfaceSections done

/-- A unit of any kind. -/
def unit : Reader Unit :=
  firstOf [Unit.project <$> project, Unit.dataSource <$> dataSource, Unit.entity <$> entity,
    Unit.mixin <$> mixin, Unit.behavior <$> behavior, Unit.page <$> page,
    Unit.component <$> component, Unit.selectorInterface <$> selectorInterface]

/-- A whole design. -/
def design : Reader (List Unit) := do
  let units ← many unit
  atEnd
  return units

end Reader

/-- The units of a text as they are written, or the offset of the furthest vain attempt. -/
def readUnits (text : List Char) : Except Nat (List Unit) :=
  match Reader.design ⟨text, 0⟩ with
  | ⟨_, some (units, _)⟩ => .ok units
  | ⟨furthest, none⟩ => .error furthest

end Blueprint.Design
