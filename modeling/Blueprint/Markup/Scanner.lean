import Blueprint.Text.Lines
import Blueprint.Text.Case
import Blueprint.Text.Replace
import Blueprint.Text.CharTables

/-!
A flat scan of template markup for the names it uses. Nesting is not tracked: a template is a run of
comments, closing tags, opening tags with attributes, and text. Spaces, tabs and line ends may stand
before every token. Pipes are looked for apart from the nodes: the name after the last bar of an
interpolation or of a bound attribute's value.
-/

namespace Blueprint.Markup

open Blueprint.Text

/-- The name after the last bar that a name follows, and where it ends; `place` counts the
characters before the text. -/
def lastPipe? (place : Nat) : List Char → Option (Found (List Char))
  | [] => none
  | c :: rest =>
    match lastPipe? (place + 1) rest with
    | some found => some found
    | none =>
      if c == '|' then
        let blanks := rest.takeWhile isBlank
        match (rest.dropWhile isBlank).takeWhile isWord with
        | [] => none
        | name => some ⟨name, place + 1 + blanks.length + name.length⟩
      else none

/-- The pipe of an interpolation. -/
def interpolationPipe? : List Char → Option (Found (List Char))
  | '{' :: '{' :: rest => lastPipe? 2 (rest.takeWhile (· != '}'))
  | _ => none

/-- A character of the name of a bound attribute. -/
def isBindingChar (c : Char) : Bool := isWord c || c == '[' || c == ']'

/-- The pipe of a bound attribute's value. -/
def bindingPipe? (text : List Char) : Option (Found (List Char)) :=
  match text.takeWhile isBindingChar, text.dropWhile isBindingChar with
  | name@(_ :: _), '=' :: '"' :: rest => lastPipe? (name.length + 2) (rest.takeWhile (· != '"'))
  | _, _ => none

/-- The names of the pipes in a template, interpolations first. -/
def pipesOf (text : List Char) : List (List Char) :=
  findAll interpolationPipe? text ++ findAll bindingPipe? text

/-- Drops the blanks that may stand before a token. -/
def skipSpace (text : List Char) : List Char :=
  text.dropWhile fun c => c == ' ' || c == '\t' || c == '\n' || c == '\r'

/-- What follows a token. -/
def token? (token : String) (text : List Char) : Option (List Char) :=
  after? token.toList (skipSpace text)

/-- The text after a comment's end. -/
def commentEnd? : List Char → Option (List Char)
  | '-' :: '-' :: '>' :: rest => some rest
  | _ :: rest => commentEnd? rest
  | [] => none

/-- A character of a tag name after its first letter. -/
def isTagChar (c : Char) : Bool := isWord c || c == ':' || c == '.' || c == '-'

/-- The name of a tag and the text after it. -/
def tagName? (text : List Char) : Option (List Char × List Char) :=
  match skipSpace text with
  | c :: rest =>
    if c.isAlpha then some (c :: rest.takeWhile isTagChar, rest.dropWhile isTagChar) else none
  | [] => none

/-- A character of an attribute's name. -/
def isAttributeChar (c : Char) : Bool :=
  !isBlank c && c != '"' && c != '\'' && c != '<' && c != '>' && c != '/' && c != '='

/-- A character of a value without quotes. -/
def isBareValueChar (c : Char) : Bool :=
  !isBlank c && !"\"'=<>`".toList.contains c

/-- The text after a value between quotes. -/
def afterQuoted? (quote : Char) (text : List Char) : Option (List Char) :=
  match text.dropWhile (· != quote) with
  | _ :: rest => some rest
  | [] => none

/-- The text after an attribute's value. -/
def afterValue? (text : List Char) : Option (List Char) :=
  let text := skipSpace text
  let quoted := match text with
    | '"' :: rest => afterQuoted? '"' rest
    | '\'' :: rest => afterQuoted? '\'' rest
    | _ => none
  match quoted with
  | some rest => some rest
  | none => match text.takeWhile isBareValueChar with
    | [] => none
    | _ => some (text.dropWhile isBareValueChar)

/-- The name of an attribute and the text after it and its value. -/
def attribute? (text : List Char) : Option (List Char × List Char) :=
  let text := skipSpace text
  match text.takeWhile isAttributeChar with
  | [] => none
  | name =>
    let rest := text.dropWhile isAttributeChar
    some (name, ((token? "=" rest).bind afterValue?).getD rest)

/-- The names of attributes in front of a text, and the text after them. -/
def attributes : Nat → List Char → List (List Char) × List Char
  | 0, text => ([], text)
  | fuel + 1, text =>
    match attribute? text with
    | some (name, rest) =>
      let found := attributes fuel rest
      (name :: found.1, found.2)
    | none => ([], text)

/-- A node of scanned markup. -/
inductive Node where
  | comment
  | close (name : List Char)
  | tag (name : List Char) (attributes : List (List Char))
  | text
  deriving Repr

/-- A closing tag and the text after it. -/
def closeTag? (text : List Char) : Option (Node × List Char) := do
  let (name, rest) ← tagName? (← token? "</" text)
  pure (.close name, ← token? ">" rest)

/-- An opening tag and the text after it. -/
def openTag? (text : List Char) : Option (Node × List Char) := do
  let (name, rest) ← tagName? (← token? "<" text)
  let (names, rest) := attributes rest.length rest
  let rest := (token? "/" rest).getD rest
  pure (.tag name names, ← token? ">" rest)

/-- A comment and the text after it. -/
def comment? (text : List Char) : Option (Node × List Char) :=
  ((token? "<!--" text).bind commentEnd?).map (.comment, ·)

/-- A bracket that starts neither a tag nor a comment. -/
def isStray : List Char → Bool
  | '/' :: _ => false
  | '!' :: '-' :: '-' :: _ => false
  | c :: _ => !c.isAlpha
  | [] => true

/-- A run of text, or a stray bracket, and the text after it. -/
def text? (text : List Char) : Option (Node × List Char) :=
  match skipSpace text with
  | [] => none
  | '<' :: rest => if isStray rest then some (.text, rest) else none
  | _ :: rest => some (.text, rest.dropWhile (· != '<'))

/-- The first node of a text; the forms are tried in a fixed order. -/
def node? (text : List Char) : Option (Node × List Char) :=
  (comment? text).or ((closeTag? text).or ((openTag? text).or (text? text)))

/-- The nodes of a text, if it is made of nodes only. -/
def nodes? : Nat → List Char → Option (List Node)
  | 0, text => if (skipSpace text).isEmpty then some [] else none
  | fuel + 1, text =>
    match node? text with
    | some (node, rest) => (nodes? fuel rest).map (node :: ·)
    | none => if (skipSpace text).isEmpty then some [] else none

/-- The nodes of a template. -/
def scan? (text : List Char) : Option (List Node) := nodes? text.length text

/-- The text between two ends, if something without a line feed stands there. A line feed at the
very end is looked through. -/
def enclosed? (opening closing : String) (name : List Char) : Option (List Char) :=
  let name := if name.getLast? == some '\n' then name.dropLast else name
  match after? opening.toList name with
  | some rest =>
    let tail := closing.toList
    let inner := rest.take (rest.length - tail.length)
    if tail.isSuffixOf rest && !inner.isEmpty && !inner.contains '\n' then some inner else none
  | none => none

/-- An attribute name without the signs that bind it: `[(a)]`, `[a]`, `(a)` and `*a` are all `a`. -/
def plainAttribute (name : List Char) : List Char :=
  ((enclosed? "[(" ")]" name).or ((enclosed? "[" "]" name).or
    ((enclosed? "(" ")" name).or (enclosed? "*" "" name)))).getD name

/-- The names that a template uses. -/
structure Symbols where
  elements : List String := []
  attributes : List String := []
  deriving Repr, DecidableEq

/-- The names of the opening tags and of their attributes, sorted. -/
def Symbols.ofNodes (nodes : List Node) : Symbols :=
  let tags := nodes.filterMap fun
    | .tag name attributes => some (name, attributes)
    | _ => none
  { elements := sortedSet (tags.map fun tag => String.ofList tag.1)
    attributes := sortedSet
      (tags.flatMap fun tag => tag.2.map fun name => String.ofList (plainAttribute name)) }

/-- The names that a template uses, if it can be scanned. A blank template uses none. -/
def symbols? (html : String) : Option Symbols :=
  if isBlankString html then some {} else (scan? html.toList).map Symbols.ofNodes

/-- The names that a template uses; none when it cannot be scanned. -/
def symbols (html : String) : Symbols := (symbols? html).getD {}

/-- The elements of plain markup. -/
def standardElements : List String :=
  ["div", "span", "p", "h1", "h2", "h3", "h4", "h5", "h6",
    "ul", "ol", "li", "a", "button", "input", "form", "label",
    "table", "tr", "td", "th", "thead", "tbody",
    "main", "section", "header", "footer", "nav", "article", "aside",
    "img", "br", "hr", "pre", "code", "strong", "em", "small", "blockquote",
    "select", "option", "textarea", "fieldset", "legend",
    "iframe", "video", "audio", "source", "canvas",
    "svg", "path", "circle", "rect", "line", "polygon", "g"]

/-- The attributes of plain markup. -/
def standardAttributes : List String :=
  ["class", "style", "id", "src", "href", "value", "disabled", "checked", "selected",
    "readonly", "required", "type", "name", "placeholder", "alt", "title", "width",
    "height", "min", "max", "step", "maxlength", "minlength", "pattern", "autocomplete",
    "autofocus", "multiple", "accept", "target", "rel", "role", "tabindex", "hidden",
    "lang", "dir", "translate", "contenteditable", "draggable", "spellcheck", "loading",
    "decoding", "crossorigin", "referrerpolicy", "sizes", "srcset", "colspan", "rowspan",
    "scope", "headers", "for", "form", "action", "method", "enctype", "novalidate",
    "formaction", "formmethod", "formenctype", "formnovalidate", "formtarget", "open",
    "wrap", "rows", "cols", "label", "async", "defer", "integrity", "nonce", "slot",
    "part", "exportparts", "xmlns", "viewbox", "d", "fill", "stroke", "cx", "cy", "r",
    "x", "y", "x1", "y1", "x2", "y2", "points", "transform"]

/-- An element that plain markup lacks, whatever its case. -/
def isCustomElement (name : String) : Bool := !standardElements.contains (lower name)

/-- An attribute that plain markup lacks, whatever its case. -/
def isCustomAttribute (name : String) : Bool :=
  let name := lower name
  !name.startsWith "data-" && !name.startsWith "aria-" && !standardAttributes.contains name

/-- The elements of a template that plain markup lacks, sorted. -/
def elementSelectors (html : String) : List String :=
  (symbols html).elements.filter isCustomElement

/-- The attributes of a template that plain markup lacks, sorted. -/
def directiveSelectors (html : String) : List String :=
  (symbols html).attributes.filter isCustomAttribute

/-- The pipes of a template, sorted. -/
def pipeNames (html : String) : List String :=
  sortedSet ((pipesOf html.toList).map String.ofList)

end Blueprint.Markup
