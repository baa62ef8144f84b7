import Blueprint.Text.Lines
import Blueprint.Text.Replace

/-!
Control blocks of templates. Authors write conditions, loops and choices as elements; the client
framework wants them as `@if`, `@for` and `@switch` blocks. Every tag is replaced on its own, one
form of tag after the other; everything else stays as it is and nesting is not checked.
-/

namespace Blueprint.Markup

open Blueprint.Text

/-- A piece of a block tag. -/
inductive TagPiece where
  /-- This text. -/
  | text (text : List Char)
  /-- One blank or more. -/
  | gap
  /-- Any number of blanks. -/
  | slack
  /-- A value between double quotes. -/
  | value

/-- The values of a tag made of the given pieces, and the text after it. -/
def matchPieces? : List TagPiece → List Char → Option (List (List Char) × List Char)
  | [], text => some ([], text)
  | .text lead :: pieces, text => (after? lead text).bind (matchPieces? pieces)
  | .gap :: pieces, text =>
    match text with
    | c :: rest => if isBlank c then matchPieces? pieces (rest.dropWhile isBlank) else none
    | [] => none
  | .slack :: pieces, text => matchPieces? pieces (text.dropWhile isBlank)
  | .value :: pieces, text =>
    match text with
    | '"' :: rest =>
      match rest.dropWhile (· != '"') with
      | '"' :: more =>
        (matchPieces? pieces more).map fun found =>
          (rest.takeWhile (· != '"') :: found.1, found.2)
      | _ => none
    | _ => none

/-- An attribute with a value. -/
def attributePieces (name : String) : List TagPiece :=
  [.gap, .text (name.toList ++ ['=']), .value]

/-- An opening tag with one required attribute. -/
def openPieces (tag name : String) : List TagPiece :=
  .text ('<' :: tag.toList) :: attributePieces name ++ [.slack, .text ['>']]

/-- An opening tag without attributes. -/
def barePieces (tag : String) : List TagPiece :=
  [.text ('<' :: tag.toList), .slack, .text ['>']]

/-- The rule of a tag that is written as pieces. -/
def tagRule (pieces : List TagPiece) (render : List (List Char) → List Char)
    (text : List Char) : Option (Found (List Char)) :=
  (matchPieces? pieces text).map fun found =>
    ⟨render found.1, text.length - found.2.length⟩

/-- The attributes of a loop that name a variable of the loop, with that variable. -/
def loopAliases : List (String × String) :=
  [("index", "$index"), ("first", "$first"), ("last", "$last"), ("odd", "$odd"),
    ("even", "$even"), ("count", "$count")]

/-- The values of optional attributes in the given order, and the text after them. An attribute that
is absent has an empty value. -/
def matchOptional : List String → List Char → List (List Char) × List Char
  | [], text => ([], text)
  | name :: names, text =>
    match matchPieces? (attributePieces name) text with
    | some ([value], rest) =>
      let found := matchOptional names rest
      (value :: found.1, found.2)
    | _ =>
      let found := matchOptional names text
      ([] :: found.1, found.2)

/-- The head of a loop: the item, the items, what to track it by, and the names given to its
variables. -/
def loopHead (item items track : List Char) (aliases : List (List Char)) : List Char :=
  let track := if track.isEmpty then "$index".toList else track
  let lets := (loopAliases.zip aliases).filterMap fun pair =>
    if pair.2.isEmpty then none
    else some ("@let ".toList ++ pair.2 ++ " = ".toList ++ pair.1.2.toList ++ [';'])
  let head := "@for (".toList ++ item ++ " of ".toList ++ items ++ "; track ".toList ++ track ++
    ") \x7b".toList
  if lets.isEmpty then head else head ++ ' ' :: [' '].intercalate lets

/-- The rule of the opening tag of a loop. -/
def loopRule (text : List Char) : Option (Found (List Char)) :=
  let opening := .text "<for".toList :: attributePieces "const" ++ attributePieces "of"
  match matchPieces? opening text with
  | some ([item, items], rest) =>
    let options := matchOptional ("trackBy" :: loopAliases.map (·.1)) rest
    match options.1, matchPieces? [.slack, .text ['>']] options.2 with
    | track :: aliases, some (_, rest) =>
      some ⟨loopHead item items track aliases, text.length - rest.length⟩
    | _, _ => none
  | _ => none

/-- A block that shows the value of its tag between two texts. -/
def around (before after : String) (values : List (List Char)) : List Char :=
  before.toList ++ values.flatten ++ after.toList

/-- A tag that stands for one text. -/
def always (text : String) (_ : List (List Char)) : List Char := text.toList

/-- The rule of a closing tag. -/
def closeRule (tag text : String) : List Char → Option (Found (List Char)) :=
  tagRule [.text ("</".toList ++ tag.toList ++ ['>'])] (always text)

/-- The rules of all block tags, in the order in which they are applied. -/
def blockRules : List (List Char → Option (Found (List Char))) :=
  [tagRule (openPieces "if" "condition") (around "@if (" ") \x7b"),
    closeRule "if" "\x7d",
    tagRule (openPieces "else-if" "condition") (around "\x7d @else if (" ") \x7b"),
    closeRule "else-if" "",
    tagRule (barePieces "else") (always "\x7d @else \x7b"),
    closeRule "else" "",
    loopRule,
    closeRule "for" "\x7d",
    tagRule (barePieces "when-empty") (always "\x7d @empty \x7b"),
    closeRule "when-empty" "",
    tagRule (openPieces "switch" "expression") (around "@switch (" ") \x7b"),
    closeRule "switch" "\x7d",
    tagRule (openPieces "case" "valueExpression") (around "@case (" ") \x7b"),
    closeRule "case" "\x7d",
    tagRule (barePieces "default") (always "@default \x7b"),
    closeRule "default" "\x7d"]

/-- A template with its control blocks in the framework's form. -/
def convertBlocks (text : List Char) : List Char :=
  blockRules.foldl (fun text rule => replace rule text) text

/-- A template with its control blocks in the framework's form. -/
def convertTemplate (text : String) : String := String.ofList (convertBlocks text.toList)

end Blueprint.Markup
