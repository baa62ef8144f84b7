import Blueprint.Decimal.Double
import Blueprint.Text.Replace
import Blueprint.Text.CharTables

/-!
Reading a design by ordered choice without backtracking into a success. A reader takes a cursor and
gives what it read with the cursor behind it, and the furthest offset at which a token was looked
for in vain; that offset is where a design that cannot be read is reported.

Spaces, tabs, line ends and comments may stand before every token. Words of the language have to end
where a word ends; signs need not.
-/

namespace Blueprint.Design

/-- The text left to read and how many characters lie before it. -/
structure Cursor where
  rest : List Char
  offset : Nat

/-- The outcome of a reader: the furthest vain attempt, and the value with the cursor behind it. -/
structure Reading (α : Type) where
  furthest : Nat
  result : Option (α × Cursor)

/-- Reads a value from a cursor. -/
def Reader (α : Type) : Type := Cursor → Reading α

namespace Reader

variable {α β : Type}

/-- Reads nothing. -/
def done (value : α) : Reader α := fun cursor => ⟨0, some (value, cursor)⟩

/-- Reads one value and, from behind it, another that may depend on it. -/
def andThen (first : Reader α) (next : α → Reader β) : Reader β := fun cursor =>
  match first cursor with
  | ⟨furthest, some (value, behind)⟩ =>
    let second := next value behind
    ⟨max furthest second.furthest, second.result⟩
  | ⟨furthest, none⟩ => ⟨furthest, none⟩

instance : Monad Reader where
  pure := done
  bind := andThen

/-- Cannot read; no token was looked for. -/
def never : Reader α := fun _ => ⟨0, none⟩

/-- Reads the first value, or else the second from the same cursor. -/
def orElse (first second : Reader α) : Reader α := fun cursor =>
  match first cursor with
  | ⟨furthest, none⟩ =>
    let other := second cursor
    ⟨max furthest other.furthest, other.result⟩
  | found => found

/-- The first of some readers that can read. -/
def firstOf (readers : List (Reader α)) : Reader α := readers.foldr orElse never

/-- Reads a value if there is one. -/
def optional (reader : Reader α) : Reader (Option α) :=
  orElse (andThen reader fun value => done (some value)) (done none)

/-- Reads at most `count` values, as many as there are. -/
def upTo (reader : Reader α) : Nat → Reader (List α)
  | 0 => done []
  | count + 1 => andThen (optional reader) fun
    | some value => andThen (upTo reader count) fun values => done (value :: values)
    | none => done []

/-- Reads as many values as there are; each takes at least a character. -/
def many (reader : Reader α) : Reader (List α) := fun cursor =>
  upTo reader cursor.rest.length cursor

/-- Reads one value or more. -/
def atLeastOne (reader : Reader α) : Reader (List α) := do
  let value ← reader
  let values ← many reader
  pure (value :: values)

/-- Reads one value or more between separators. -/
def sepBy1 (reader : Reader α) (separator : Reader β) : Reader (List α) := do
  let value ← reader
  let values ← many (andThen separator fun _ => reader)
  pure (value :: values)

/-- Reads any number of values between separators. -/
def sepBy (reader : Reader α) (separator : Reader β) : Reader (List α) := do
  return (← optional (sepBy1 reader separator)).getD []

/-- Reads a value after something that is left out. -/
def after (lead : Reader β) (reader : Reader α) : Reader α := andThen lead fun _ => reader

/-- What is read changes the state of a unit. -/
structure Section (σ : Type) where
  read : Reader (σ → σ)
  required : Bool := false

/-- The change of the first section that can be read, and the sections left. -/
def nextSection {σ : Type} : List (Section σ) → Reader ((σ → σ) × List (Section σ))
  | [] => never
  | head :: rest =>
    orElse (andThen head.read fun change => done (change, rest))
      (andThen (nextSection rest) fun found => done (found.1, head :: found.2))

/-- Reads sections in any order, each at most once, as many as there are. A section that is required
may not be missing. -/
def sectionsUpTo {σ : Type} : Nat → List (Section σ) → σ → Reader σ
  | 0, left, state => if left.any (·.required) then never else done state
  | count + 1, left, state =>
    andThen (optional (nextSection left)) fun
      | some (change, left) => sectionsUpTo count left (change state)
      | none => if left.any (·.required) then never else done state

/-- Reads the sections of a unit in any order. -/
def sections {σ : Type} (left : List (Section σ)) (state : σ) : Reader σ :=
  sectionsUpTo left.length left state

end Reader

end Blueprint.Design

namespace Blueprint.Design

open Blueprint.Text

/-- Drops blanks and comments; a comment runs from two slashes to the end of its line. -/
def skipFrom (inComment : Bool) (offset : Nat) : List Char → Cursor
  | [] => ⟨[], offset⟩
  | c :: rest =>
    if inComment then skipFrom (c != '\n') (offset + 1) rest
    else if c == ' ' || c == '\t' || c == '\n' || c == '\r' then skipFrom false (offset + 1) rest
    else if c == '/' && rest.head? == some '/' then skipFrom true (offset + 1) rest
    else ⟨c :: rest, offset⟩

/-- The cursor at the next token. -/
def Cursor.skip (cursor : Cursor) : Cursor := skipFrom false cursor.offset cursor.rest

/-- A lexical rule: what stands in front of a text and how long it is. -/
abbrev Lexeme (α : Type) := List Char → Option (Found α)

namespace Reader

/-- Reads a token. -/
def token {α : Type} (lexeme : Lexeme α) : Reader α := fun cursor =>
  let cursor := cursor.skip
  match lexeme cursor.rest with
  | some found =>
    ⟨0, some (found.value, ⟨cursor.rest.drop found.size, cursor.offset + found.size⟩)⟩
  | none => ⟨cursor.offset, none⟩

/-- The offset of the next token. -/
def position : Reader Nat := fun cursor => ⟨0, some (cursor.skip.offset, cursor)⟩

/-- Reads the end of the text. -/
def atEnd : Reader PUnit := fun cursor =>
  let cursor := cursor.skip
  if cursor.rest.isEmpty then ⟨0, some (⟨⟩, cursor)⟩ else ⟨cursor.offset, none⟩

end Reader

namespace Lexeme

/-- No word character stands in front. -/
def wordEnds : List Char → Bool
  | [] => true
  | c :: _ => !isWord c

/-- A sign of the language. -/
def sign (text : String) : Lexeme PUnit := fun front =>
  (after? text.toList front).map fun _ => ⟨⟨⟩, text.length⟩

/-- A word of the language. -/
def word (text : String) : Lexeme PUnit := fun front =>
  (after? text.toList front).bind fun rest =>
    if wordEnds rest then some ⟨⟨⟩, text.length⟩ else none

/-- A name: a letter or an underscore and the word characters after it. -/
def name : Lexeme String := fun front =>
  match front with
  | c :: rest =>
    if isWord c && !isDecimal c then
      let tail := rest.takeWhile isWord
      some ⟨String.ofList (c :: tail), tail.length + 1⟩
    else none
  | [] => none

/-- The place of the quote that ends a text: the first one without a backslash before it, else the
last one. -/
def closingQuote? (quote : Char) (place : Nat) (previous : Char) (fallback : Option Nat) :
    List Char → Option Nat
  | [] => fallback
  | c :: rest =>
    if c == quote then
      if previous == '\\' then closingQuote? quote (place + 1) c (some place) rest
      else some place
    else closingQuote? quote (place + 1) c fallback rest

/-- Drops the backslash before a quote of either kind. -/
def unescapeQuotes : List Char → List Char
  | '\\' :: '"' :: rest => '"' :: unescapeQuotes rest
  | '\\' :: '\'' :: rest => '\'' :: unescapeQuotes rest
  | c :: rest => c :: unescapeQuotes rest
  | [] => []

/-- A text between quotes of one kind, as the characters between them. -/
def quotedChars : Lexeme (List Char) := fun front =>
  match front with
  | quote :: rest =>
    if quote == '"' || quote == '\'' then
      (closingQuote? quote 0 quote none rest).map fun place =>
        ⟨unescapeQuotes (rest.take place), place + 2⟩
    else none
  | [] => none

/-- A lexeme whose value goes through a function. -/
def map {α β : Type} (change : α → β) (lexeme : Lexeme α) : Lexeme β := fun front =>
  (lexeme front).map fun found => ⟨change found.value, found.size⟩

/-- A text between quotes. -/
def quoted : Lexeme String := map String.ofList quotedChars

/-- Yes or no. -/
def boolean : Lexeme Bool := fun front =>
  [("True", true), ("true", true), ("False", false), ("false", false), ("0", false),
    ("1", true)].findSome? fun entry => map (fun _ => entry.2) (word entry.1) front

/-- A sign before a number, whether it is negative, and the text after it. -/
def signed : List Char → List Char × Bool × List Char
  | '-' :: rest => (['-'], true, rest)
  | '+' :: rest => (['+'], false, rest)
  | rest => ([], false, rest)

/-- The value of decimal digits of any script. -/
def digitsValue (digits : List Char) : Nat :=
  digits.foldl (fun n c => n * 10 + decimalValue c) 0

/-- A whole number of ASCII digits. -/
def integer : Lexeme Int := fun front =>
  let (sign, negative, rest) := signed front
  match rest.takeWhile Char.isDigit with
  | [] => none
  | digits =>
    let value : Int := digitsValue digits
    some ⟨if negative then -value else value, sign.length + digits.length⟩

/-- The exponent of a decimal: its length and its value. -/
def exponent? : List Char → Option (Found Int)
  | mark :: rest =>
    if mark == 'e' || mark == 'E' then
      let (sign, negative, rest) := signed rest
      match rest.takeWhile isDecimal with
      | [] => none
      | digits =>
        let value : Int := digitsValue digits
        some ⟨if negative then -value else value, 1 + sign.length + digits.length⟩
    else none
  | [] => none

/-- A number with a point or an exponent, that neither a word character nor a point follows. -/
def decimal : Lexeme Double := fun front =>
  let (sign, negative, rest) := signed front
  let whole := rest.takeWhile isDecimal
  let rest := rest.dropWhile isDecimal
  let (point, fraction, rest) := match rest with
    | '.' :: more => (1, more.takeWhile isDecimal, more.dropWhile isDecimal)
    | _ => (0, [], rest)
  let exponent := exponent? rest
  let power := (exponent.map (·.value)).getD 0
  let tail := (exponent.map (·.size)).getD 0
  let isNumber := if point == 1 then !whole.isEmpty || !fraction.isEmpty
    else !whole.isEmpty && exponent.isSome
  let ends := match rest.drop tail with
    | c :: _ => !isWord c && c != '.'
    | [] => true
  if isNumber && ends then
    some ⟨Double.ofDecimal negative (digitsValue (whole ++ fraction)) (power - fraction.length),
      sign.length + whole.length + point + fraction.length + tail⟩
  else none

/-- The length of the longest start of a text that ends in a closing angle bracket. -/
def lastAngle? (place : Nat) : List Char → Option Nat
  | [] => none
  | c :: rest => (lastAngle? (place + 1) rest).or (if c == '>' then some (place + 1) else none)

/-- The name of a type, with type arguments between angle brackets if it has any. -/
def typeName : Lexeme String := fun front =>
  match front with
  | c :: rest =>
    if c.isAlpha || c == '_' || c == '$' then
      let isPart := fun c => isWord c || c == '$' || c == '.'
      let name := c :: rest.takeWhile isPart
      let arguments := match rest.dropWhile isPart with
        | '<' :: more =>
          (lastAngle? 0 (more.takeWhile fun c => !";()\x7b\x7d=".toList.contains c)).map
            fun size => '<' :: more.take size
        | _ => none
      let text := name ++ arguments.getD []
      some ⟨String.ofList text, text.length⟩
    else none
  | [] => none

/-- The place of the first fence in a text. -/
def fenceAt? (place : Nat) : List Char → Option Nat
  | [] => none
  | c :: rest =>
    if c.toNat == 96 && (after? "``".toList rest).isSome then some place
    else fenceAt? (place + 1) rest

/-- Code in a fence, with the fence. -/
def fenced : Lexeme (List Char) := fun front =>
  (after? "```".toList front).bind fun rest =>
    (fenceAt? 0 rest).map fun size => ⟨front.take (size + 6), size + 6⟩

/-- Code on one line between two backticks, with them. -/
def inlineCode : Lexeme (List Char) := fun front =>
  (after? "`".toList front).bind fun rest =>
    let inner := rest.takeWhile fun c => c.toNat != 96 && c != '\n'
    match rest.drop inner.length with
    | c :: _ => if c == '\n' then none else some ⟨front.take (inner.length + 2), inner.length + 2⟩
    | [] => none

end Lexeme

end Blueprint.Design
