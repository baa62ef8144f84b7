import Blueprint.Template.Value
import Blueprint.Text.Lines

/-!
Filling templates. A template falls into plain text, values to be put out and block tags; comments
leave nothing. A block tag that stands alone on its line takes the whole line with it: the blanks
before it and the line end after it go, unless a plus sign keeps them. A minus sign takes all blanks
on its side. Loops repeat their body for every item and have another body for no items; branches
take the first arm whose condition holds.
-/

namespace Blueprint.Template

/-- A piece of a template. -/
inductive Piece where
  | text (value : String)
  | output (code : String)
  | block (code : String)
  deriving DecidableEq, Repr

/-- The kinds of tags. -/
inductive Tag where
  | output
  | block
  | comment
  deriving DecidableEq, Repr

/-- The tag that a character after an opening brace begins. -/
def Tag.ofChar? : Char → Option Tag
  | '\x7b' => some output
  | '%' => some block
  | '#' => some comment
  | _ => none

/-- The character before the brace that closes a tag. -/
def Tag.closing : Tag → Char
  | output => '\x7d'
  | block => '%'
  | comment => '#'

/-- Where the reading of a template stands. -/
inductive Place where
  /-- In text: what was read of it, backwards; whether it begins a line and takes blanks. -/
  | text (before : List Char) (lineStart skipping : Bool)
  /-- In a tag: its kind, what was read of it, backwards, and the quote that is open. -/
  | tag (kind : Tag) (before : List Char) (quote : Option Char)

/-- A text, given backwards, without the blanks between its last line end and a block tag. -/
def dropMargin (lineStart : Bool) (before : List Char) : List Char :=
  let tail := before.takeWhile (· != '\n')
  let rest := before.drop tail.length
  if tail.all Text.isBlank && (lineStart || !rest.isEmpty) then rest else before

/-- The text before a tag, given backwards, with the sign that follows the opening. -/
def textBefore (kind : Tag) (sign : Option Char) (lineStart : Bool) (before : List Char) :
    List Piece :=
  let kept :=
    if sign == some '-' then before.dropWhile Text.isBlank
    else if sign == some '+' || kind == .output then before
    else dropMargin lineStart before
  if kept.isEmpty then [] else [.text (String.ofList kept.reverse)]

/-- The piece of a tag's content. -/
def tagPiece (kind : Tag) (content : List Char) : List Piece :=
  match kind with
  | .output => [.output (String.ofList content)]
  | .block => [.block (String.ofList content)]
  | .comment => []

/-- The content of a tag, given backwards, without its signs. -/
def tagContent (before : List Char) : List Char :=
  let unsigned (chars : List Char) : List Char :=
    if chars.head? == some '-' || chars.head? == some '+' then chars.drop 1 else chars
  unsigned (unsigned before).reverse

/-- Reads the pieces of a template; none if a tag is not closed. -/
def piecesFrom (place : Place) : List Char → Option (List Piece)
  | [] =>
    match place with
    | .text before _ _ =>
      some (if before.isEmpty then [] else [.text (String.ofList before.reverse)])
    | .tag .. => none
  | [c] =>
    match place with
    | .text before _ skipping =>
      let before := if skipping && Text.isBlank c then before else c :: before
      some (if before.isEmpty then [] else [.text (String.ofList before.reverse)])
    | .tag .. => none
  | c :: d :: rest =>
    match place with
    | .text before lineStart skipping =>
      match if c == '\x7b' then Tag.ofChar? d else none with
      | some kind =>
        let text := textBefore kind rest.head? lineStart before
        (piecesFrom (.tag kind [] none) rest).map (text ++ ·)
      | none =>
        if skipping && Text.isBlank c then piecesFrom (.text [] (c == '\n') true) (d :: rest)
        else piecesFrom (.text (c :: before) lineStart false) (d :: rest)
    | .tag kind before quote =>
      if quote.isSome && c == '\\' then piecesFrom (.tag kind (d :: c :: before) quote) rest
      else if quote == some c then piecesFrom (.tag kind (c :: before) none) (d :: rest)
      else if quote.isNone && kind != .comment && (c == '"' || c == '\'') then
        piecesFrom (.tag kind (c :: before) (some c)) (d :: rest)
      else if quote.isNone && c == kind.closing && d == '\x7d' then
        let piece := tagPiece kind (tagContent before)
        if before.head? == some '-' then
          (piecesFrom (.text [] false true) rest).map (piece ++ ·)
        else if before.head? != some '+' && kind != .output then
          match rest with
          | '\n' :: rest => (piecesFrom (.text [] true false) rest).map (piece ++ ·)
          | rest => (piecesFrom (.text [] false false) rest).map (piece ++ ·)
        else (piecesFrom (.text [] false false) rest).map (piece ++ ·)
      else piecesFrom (.tag kind (c :: before) quote) (d :: rest)

/-- The pieces of a template. -/
def pieces? (template : String) : Option (List Piece) :=
  piecesFrom (.text [] true false) (Text.oneLineEnd template.toList)

end Blueprint.Template

namespace Blueprint.Template

open ServerCode

/-- A part of a template. -/
inductive Node where
  | text (value : String)
  | output (value : Expr)
  | loop (names : List String) (items : Expr) (body otherwise : List Node)
  | branch (condition : Expr) (body otherwise : List Node)

/-- The first word of a block tag and what follows it. -/
def tagWord (code : String) : String × String :=
  let chars := Text.trim code.toList
  let word := chars.takeWhile Char.isAlpha
  (String.ofList word, String.ofList (Text.trim (chars.drop word.length)))

/-- An expression of a template. -/
def readValue (code : String) : Except Fault Expr :=
  match readExpr (Text.strip code) with
  | .ok value => .ok value
  | .error _ => .error .unreadable

/-- The names and the items of a loop. -/
def readLoop (code : String) : Except Fault (List String × Expr) :=
  match Text.fields code with
  | [] => .error .unreadable
  | words => do
    let names := words.takeWhile (· != "in")
    let names := ((" ".intercalate names).toList.splitOn ',').map fun name =>
      Text.strip (String.ofList name)
    let items := (words.drop ((words.takeWhile (· != "in")).length + 1))
    return (names, ← readValue (" ".intercalate items))

/-- Reads past the tag that ends a block. -/
def readEnd (word : String) : List Piece → Except Fault (List Piece)
  | .block code :: rest => if (tagWord code).1 == word then .ok rest else .error .unreadable
  | _ => .error .unreadable

mutual

/-- Reads nodes up to a block tag that begins none. The size bounds how many steps that takes. -/
def readNodes : Nat → List Piece → Except Fault (List Node × List Piece)
  | 0, _ => .error .unreadable
  | _ + 1, [] => .ok ([], [])
  | size + 1, .text value :: rest => do
    let (nodes, rest) ← readNodes size rest
    return (.text value :: nodes, rest)
  | size + 1, .output code :: rest => do
    let value ← readValue code
    let (nodes, rest) ← readNodes size rest
    return (.output value :: nodes, rest)
  | size + 1, .block code :: rest =>
    match tagWord code with
    | ("for", header) => do
      let (names, items) ← readLoop header
      let (body, rest) ← readNodes size rest
      let (otherwise, rest) ← readOtherwise size "endfor" rest
      let (nodes, rest) ← readNodes size rest
      return (.loop names items body otherwise :: nodes, rest)
    | ("if", condition) => do
      let condition ← readValue condition
      let (body, rest) ← readNodes size rest
      let (otherwise, rest) ← readOtherwise size "endif" rest
      let (nodes, rest) ← readNodes size rest
      return (.branch condition body otherwise :: nodes, rest)
    | _ => .ok ([], .block code :: rest)

/-- Reads what stands in a block for the other case, and the end of the block. -/
def readOtherwise : Nat → String → List Piece → Except Fault (List Node × List Piece)
  | 0, _, _ => .error .unreadable
  | size + 1, closing, pieces =>
    match pieces with
    | .block code :: rest =>
      match tagWord code with
      | ("else", _) => do
        let (nodes, rest) ← readNodes size rest
        return (nodes, ← readEnd closing rest)
      | ("elif", condition) => do
        let condition ← readValue condition
        let (body, rest) ← readNodes size rest
        let (otherwise, rest) ← readOtherwise size closing rest
        return ([.branch condition body otherwise], rest)
      | (word, _) => if word == closing then .ok ([], rest) else .error .unreadable
    | _ => .error .unreadable

end

/-- Reads a template. -/
def read (template : String) : Except Fault (List Node) :=
  match pieces? template with
  | none => .error .unreadable
  | some pieces => do
    match ← readNodes (pieces.length + 1) pieces with
    | (nodes, []) => return nodes
    | _ => .error .unreadable

/-- What a loop tells its body about the item at a place. -/
def loopState (count index : Nat) : Json :=
  .obj [("index", .nat (index + 1)), ("index0", .nat index), ("first", .bool (index == 0)),
    ("last", .bool (index + 1 == count)), ("length", .nat count),
    ("revindex", .nat (count - index)), ("revindex0", .nat (count - index - 1))]

/-- The names of a loop with their values for an item. -/
def bindItem (names : List String) (item : Json) : Except Fault Context :=
  match names with
  | [name] => .ok [(name, item)]
  | names => do
    let parts ← itemsOf item
    if parts.length == names.length then return names.zip parts else .error .wrongKind

/-- The contexts of the rounds of a loop. -/
def rounds (context : Context) (names : List String) (items : List Json) :
    Except Fault (List Context) :=
  items.zipIdx.mapM fun (item, index) => do
    return ("loop", loopState items.length index) :: (← bindItem names item) ++ context

mutual

/-- Fills a part of a template. -/
def renderNode (context : Context) : Node → Except Fault String
  | .text value => .ok value
  | .output value => do return shown (← (← evaluate context value).use)
  | .loop names items body otherwise => do
    let items ← itemsOf (← (← evaluate context items).use)
    if items.isEmpty then renderNodes context otherwise
    else
      let texts ← (← rounds context names items).mapM fun context => renderNodes context body
      return "".intercalate texts
  | .branch condition body otherwise => do
    if (← (← evaluate context condition).use).isTruthy then renderNodes context body
    else renderNodes context otherwise

/-- Fills parts of a template one after another. -/
def renderNodes (context : Context) : List Node → Except Fault String
  | [] => .ok ""
  | node :: rest => do
    let first ← renderNode context node
    return first ++ (← renderNodes context rest)

end

/-- Fills a template with values. -/
def render (template : String) (context : Context) : Except Fault String := do
  renderNodes context (← read template)

end Blueprint.Template
