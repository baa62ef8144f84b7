import Blueprint.Text.UnicodeForm
import Blueprint.Text.Replace
import Blueprint.ServerCode.Tree

/-!
Server code as a row of tokens, and rules that read trees from them. Lines and their indentation are
tokens too: a newline ends a statement, and a deeper or shallower line opens or closes blocks. Inside
brackets lines do not count. Rules read by ordered choice: the first alternative that reads is taken.
-/

namespace Blueprint.ServerCode

open Blueprint.Text

/-- What a quoted text stands for. -/
inductive StringKind where
  | text | bytes | formatted
  deriving DecidableEq, Repr

/-- A quoted text as it is written, between its quotes. -/
structure StringPiece where
  kind : StringKind
  /-- Backslashes stand for themselves. -/
  raw : Bool
  marked : Bool
  body : List Char
  deriving DecidableEq, Repr

/-- A token of server code. -/
inductive Token where
  | word (text : String)
  | number (value : Constant)
  | string (piece : StringPiece)
  | sign (text : String)
  | newline
  | indent
  | dedent
  deriving DecidableEq, Repr

/-- The words that are no names. -/
def keywords : List String :=
  ["False", "None", "True", "and", "as", "assert", "async", "await", "break", "class", "continue",
    "def", "del", "elif", "else", "except", "finally", "for", "from", "global", "if", "import",
    "in", "is", "lambda", "nonlocal", "not", "or", "pass", "raise", "return", "try", "while",
    "with", "yield"]

/-- A word that can name something. -/
def isName (text : String) : Bool := isIdentifier text.toList && !keywords.contains text

/-- The name that a word gives to something: its normal form. -/
def identifier (word : String) : String :=
  if word.toList.all fun c => c.toNat < 0x80 then word
  else String.ofList (normalForm word.toList)

/-- The signs, the longer ones before those they start with. -/
def signs : List String :=
  ["**=", "//=", ">>=", "<<=", "...", "**", "//", ">>", "<<", "<=", ">=", "==", "!=", "->", "+=",
    "-=", "*=", "/=", "%=", "&=", "|=", "^=", "@=", ":=", "+", "-", "*", "/", "%", "@", "&", "|",
    "^", "~", "<", ">", "(", ")", "[", "]", "\x7b", "\x7d", ",", ":", ".", ";", "="]

/-- The bracket that closes another. -/
def closing? : String → Option String
  | "(" => some ")"
  | "[" => some "]"
  | "\x7b" => some "\x7d"
  | _ => none

/-- Digits that a test accepts, with single underscores between them, and the text behind them; a
digit may be due. -/
def digitsFrom (accepts : Char → Bool) (due : Bool) : List Char → Option (List Char × List Char)
  | [] => if due then none else some ([], [])
  | c :: rest =>
    if accepts c then (digitsFrom accepts false rest).map fun found => (c :: found.1, found.2)
    else if due then none
    else if c == '_' then digitsFrom accepts true rest
    else some ([], c :: rest)

/-- One digit or more. -/
def digits? (accepts : Char → Bool) (text : List Char) : Option (List Char × List Char) :=
  digitsFrom accepts true text

/-- The value of a digit up to base sixteen. -/
def digitValue (c : Char) : Nat :=
  if c.isDigit then c.toNat - 48
  else if 'a' ≤ c && c ≤ 'f' then c.toNat - 87
  else c.toNat - 55

/-- The number of some digits in a base. -/
def natOf (base : Nat) (digits : List Char) : Nat :=
  digits.foldl (fun value c => base * value + digitValue c) 0

def isHexDigit (c : Char) : Bool :=
  c.isDigit || ('a' ≤ c && c ≤ 'f') || ('A' ≤ c && c ≤ 'F')

def isOctalDigit (c : Char) : Bool := '0' ≤ c && c ≤ '7'

/-- Words that may follow a number without a space. -/
def wordsAfterNumber : List String := ["and", "else", "for", "if", "in", "is", "or", "not"]

/-- A number may end in front of this text. -/
def numberEnds (rest : List Char) : Bool :=
  match rest with
  | [] => true
  | c :: _ => !isNamePart c || wordsAfterNumber.any fun word => word.toList.isPrefixOf rest

/-- A number in a base other than ten. -/
def basedNumber? (base : Nat) (accepts : Char → Bool) (text : List Char) :
    Option (Constant × List Char) := do
  let text := match text with
    | '_' :: rest => rest
    | _ => text
  let (digits, rest) ← digits? accepts text
  if numberEnds rest then some (.int (natOf base digits), rest) else none

/-- The exponent of a decimal if there is one, and the text behind it. -/
def exponent (text : List Char) : Option Int × List Char :=
  match text with
  | c :: rest =>
    let (negative, unsigned) := match rest with
      | '+' :: more => (false, more)
      | '-' :: more => (true, more)
      | _ => (false, rest)
    match digits? Char.isDigit unsigned with
    | some (digits, behind) =>
      let value : Int := natOf 10 digits
      if c == 'e' || c == 'E' then (some (if negative then -value else value), behind)
      else (none, text)
    | none => (none, text)
  | [] => (none, text)

/-- Digits of an integer: one other than zero does not start with zero and has not too many. -/
def isInteger (digits : List Char) : Bool :=
  if digits.head? == some '0' then digits.all (· == '0') else digits.length ≤ mostDigits

/-- The digits behind the point of a decimal, whether there is a point, and the text behind them. -/
def fraction? (text : List Char) : Option (List Char × Bool × List Char) :=
  match text with
  | '.' :: rest =>
    if rest.head?.any Char.isDigit then
      (digits? Char.isDigit rest).map fun found => (found.1, true, found.2)
    else some ([], true, rest)
  | _ => some ([], false, text)

/-- The number in front of a text: an imaginary one if its mark is there, else a decimal or an
integer of some digits. -/
def numeral? (whole : List Char) (isDecimal : Bool) (value : Double) (rest : List Char) :
    Option (Constant × List Char) :=
  match rest with
  | 'j' :: behind | 'J' :: behind =>
    if numberEnds behind then some (.imaginary value, behind) else none
  | _ =>
    if !numberEnds rest then none
    else if isDecimal then some (.float value, rest)
    else if !isInteger whole then none
    else some (.int (natOf 10 whole), rest)

/-- A number in base ten: an integer, a decimal or an imaginary number. -/
def decimalNumber? (text : List Char) : Option (Constant × List Char) := do
  let (whole, rest) ← if text.head? == some '.' then some ([], text) else digits? Char.isDigit text
  let (fraction, pointed, rest) ← fraction? rest
  let (power, rest) := exponent rest
  let value := Double.ofDecimal false (natOf 10 (whole ++ fraction))
    (power.getD 0 - fraction.length)
  numeral? whole (pointed || power.isSome) value rest

/-- A number and the text behind it. -/
def number? (text : List Char) : Option (Constant × List Char) :=
  match text with
  | '0' :: c :: rest =>
    if c == 'x' || c == 'X' then basedNumber? 16 isHexDigit rest
    else if c == 'o' || c == 'O' then basedNumber? 8 isOctalDigit rest
    else if c == 'b' || c == 'B' then basedNumber? 2 (fun c => c == '0' || c == '1') rest
    else decimalNumber? text
  | _ => decimalNumber? text

/-- The body of a text up to its closing quote, and what follows. A text between single quotes ends
on its line. -/
def stringBody? (quote : Char) (long : Bool) : List Char → Option (List Char × List Char)
  | [] => none
  | '\\' :: c :: rest =>
    (stringBody? quote long rest).map fun found => ('\\' :: c :: found.1, found.2)
  | c :: rest =>
    if c == quote then
      if !long then some ([], rest)
      else match rest with
        | d :: e :: behind =>
          if d == quote && e == quote then some ([], behind)
          else (stringBody? quote long rest).map fun found => (c :: found.1, found.2)
        | _ => none
    else if c == '\n' && !long then none
    else (stringBody? quote long rest).map fun found => (c :: found.1, found.2)

/-- A quoted text behind its quotes. -/
def quotedText? : List Char → Option (List Char × List Char)
  | c :: rest =>
    match rest with
    | d :: e :: behind =>
      if d == c && e == c then stringBody? c true behind else stringBody? c false rest
    | _ => stringBody? c false rest
  | [] => none

/-- The kind of a quoted text by the letters before it. -/
def stringMark? (letters : String) : Option (StringKind × Bool × Bool) :=
  match lower letters with
  | "" => some (.text, false, false)
  | "u" => some (.text, false, true)
  | "r" => some (.text, true, false)
  | "b" => some (.bytes, false, false)
  | "br" | "rb" => some (.bytes, true, false)
  | "f" => some (.formatted, false, false)
  | "fr" | "rf" => some (.formatted, true, false)
  | _ => none

/-- A quoted text with the letters before it. -/
def string? (letters : String) (text : List Char) : Option (Token × List Char) := do
  let (kind, raw, marked) ← stringMark? letters
  let (body, rest) ← quotedText? text
  some (.string { kind, raw, marked, body }, rest)

/-- A name, or a quoted text that starts with letters. -/
def wordOrString? (text : List Char) : Option (Token × List Char) :=
  let name := String.ofList (text.takeWhile isNamePart)
  let rest := text.dropWhile isNamePart
  match rest with
  | c :: _ =>
    if (c == '\'' || c == '"') && (stringMark? name).isSome then string? name rest
    else some (.word name, rest)
  | [] => some (.word name, rest)

/-- The sign at the front of a text. -/
def sign? (text : List Char) : Option (String × List Char) :=
  signs.findSome? fun sign => (after? sign.toList text).map fun rest => (sign, rest)

/-- How many brackets may be open at once. -/
def mostBrackets : Nat := 200

/-- How many blocks may be open at once, the whole text among them. -/
def mostBlocks : Nat := 100

/-- Where the reading of tokens stands. An indentation is measured twice, with wide and with narrow
tabs, and both measures have to agree. -/
structure Lexing where
  indents : List (Nat × Nat) := [(0, 0)]
  brackets : List String := []
  atStart : Bool := true
  /-- The tokens so far, the last one first. -/
  tokens : List Token := []

/-- The measures of an indentation and the text behind it. A backslash at the end of a line joins
the next line to it; `joined` is the first indentation before such a backslash, and counts if it is
more than nothing. -/
def indentation (joined : Nat) : Nat × Nat → List Char → (Nat × Nat) × List Char
  | (wide, narrow), ' ' :: rest => indentation joined (wide + 1, narrow + 1) rest
  | (wide, narrow), '\t' :: rest => indentation joined ((wide / 8 + 1) * 8, narrow + 1) rest
  | _, '\x0c' :: rest => indentation joined (0, 0) rest
  | (wide, narrow), '\\' :: '\n' :: c :: rest =>
    indentation (if joined == 0 then wide else joined) (wide, narrow) (c :: rest)
  | measures, rest => (if joined == 0 then measures else (joined, joined), rest)

/-- Closes blocks until an indentation is reached. -/
def closeBlocks (measures : Nat × Nat) : List (Nat × Nat) → List Token →
    Option (List (Nat × Nat) × List Token)
  | [], _ => none
  | top :: below, tokens =>
    if measures.1 == top.1 then
      if measures.2 == top.2 then some (top :: below, tokens) else none
    else if measures.1 < top.1 then closeBlocks measures below (.dedent :: tokens)
    else none

/-- Opens or closes blocks for a line that starts at an indentation. -/
def startLine (state : Lexing) (measures : Nat × Nat) : Option Lexing :=
  match state.indents with
  | [] => none
  | top :: _ =>
    if top.1 < measures.1 then
      if top.2 < measures.2 && state.indents.length < mostBlocks then
        some { state with indents := measures :: state.indents, atStart := false
                          tokens := .indent :: state.tokens }
      else none
    else do
      let (indents, tokens) ← closeBlocks measures state.indents state.tokens
      some { state with indents, tokens, atStart := false }

/-- Ends the last line and all blocks. -/
def finish (state : Lexing) : Option (List Token) :=
  if !state.brackets.isEmpty then none
  else
    let ended := if state.atStart then state.tokens else .newline :: state.tokens
    let dedents := List.replicate (state.indents.length - 1) Token.dedent
    some (ended.reverse ++ dedents)

/-- Takes a sign, keeping track of brackets. -/
def takeSign (state : Lexing) (sign : String) : Option Lexing :=
  let taken := { state with tokens := .sign sign :: state.tokens }
  if (closing? sign).isSome then
    if state.brackets.length < mostBrackets then
      some { taken with brackets := sign :: state.brackets }
    else none
  else if sign == ")" || sign == "]" || sign == "\x7d" then
    match state.brackets with
    | top :: below =>
      if closing? top == some sign then some { taken with brackets := below } else none
    | [] => none
  else some taken

/-- Reads tokens; each step takes a character or starts a line. -/
def tokensFrom : Nat → Lexing → List Char → Option (List Token)
  | 0, _, _ => none
  | fuel + 1, state, text =>
    if state.atStart && state.brackets.isEmpty then
      let (measures, rest) := indentation 0 (0, 0) text
      match rest with
      | [] => finish state
      | '\n' :: more => tokensFrom fuel state more
      | '#' :: more => tokensFrom fuel state (more.dropWhile (· != '\n'))
      | _ => do tokensFrom fuel (← startLine state measures) rest
    else match text with
      | [] => finish state
      | ' ' :: rest | '\t' :: rest | '\x0c' :: rest => tokensFrom fuel state rest
      | '#' :: rest => tokensFrom fuel state (rest.dropWhile (· != '\n'))
      | '\n' :: rest =>
        if state.brackets.isEmpty then
          tokensFrom fuel { state with atStart := true, tokens := .newline :: state.tokens } rest
        else tokensFrom fuel state rest
      | '\\' :: '\n' :: rest => if rest.isEmpty then none else tokensFrom fuel state rest
      | c :: rest =>
        let numbered := c.isDigit || (c == '.' && rest.head?.any Char.isDigit)
        if isNameStart c then do
          let (token, rest) ← wordOrString? text
          tokensFrom fuel { state with tokens := token :: state.tokens } rest
        else if numbered then do
          let (value, rest) ← number? text
          tokensFrom fuel { state with tokens := .number value :: state.tokens } rest
        else if c == '\'' || c == '"' then do
          let (token, rest) ← string? "" text
          tokensFrom fuel { state with tokens := token :: state.tokens } rest
        else do
          let (sign, rest) ← sign? text
          tokensFrom fuel (← takeSign state sign) rest

/-- Every kind of line end becomes a line feed. -/
def plainLineEnds : List Char → List Char
  | '\r' :: '\n' :: rest => '\n' :: plainLineEnds rest
  | '\r' :: rest => '\n' :: plainLineEnds rest
  | c :: rest => c :: plainLineEnds rest
  | [] => []

/-- The tokens of a text. -/
def tokens? (text : List Char) : Option (List Token) :=
  tokensFrom (2 * text.length + 2) {} (plainLineEnds text)

/-- Reads a value from tokens and leaves the others. -/
def Rule (α : Type) : Type := List Token → Option (α × List Token)

namespace Rule

variable {α β : Type}

/-- Reads nothing. -/
def done (value : α) : Rule α := fun tokens => some (value, tokens)

/-- Reads one value and then another that may depend on it. -/
def andThen (first : Rule α) (next : α → Rule β) : Rule β := fun tokens =>
  match first tokens with
  | some (value, rest) => next value rest
  | none => none

instance : Monad Rule where
  pure := done
  bind := andThen

/-- Reads nothing that there is. -/
def never : Rule α := fun _ => none

/-- The value of an option, which may not be missing. -/
def ofOption : Option α → Rule α
  | some value => done value
  | none => never

/-- Goes on only if a condition holds. -/
def check (condition : Bool) : Rule PUnit := if condition then done ⟨⟩ else never

/-- The first rule that reads. -/
def firstOf (rules : List (Rule α)) : Rule α := fun tokens =>
  rules.findSome? fun rule => rule tokens

/-- Reads a value if there is one. -/
def optional (rule : Rule α) : Rule (Option α) := fun tokens =>
  match rule tokens with
  | some (value, rest) => some (some value, rest)
  | none => some (none, tokens)

/-- Reads at most `count` values. -/
def upTo (rule : Rule α) : Nat → Rule (List α)
  | 0 => done []
  | count + 1 => fun tokens =>
    match rule tokens with
    | some (value, rest) => match upTo rule count rest with
      | some (values, rest) => some (value :: values, rest)
      | none => none
    | none => some ([], tokens)

/-- Reads as many values as there are; each takes a token. -/
def many (rule : Rule α) : Rule (List α) := fun tokens => upTo rule tokens.length tokens

/-- Reads one value or more. -/
def atLeastOne (rule : Rule α) : Rule (List α) := do
  let first ← rule
  let rest ← many rule
  return first :: rest

/-- Reads one token. -/
def token (accept : Token → Option α) : Rule α
  | first :: rest => (accept first).map fun value => (value, rest)
  | [] => none

/-- A sign. -/
def sign (text : String) : Rule PUnit :=
  token fun found => if found = .sign text then some ⟨⟩ else none

/-- A keyword. -/
def word (text : String) : Rule PUnit :=
  token fun found => if found = .word text then some ⟨⟩ else none

/-- A name, in its normal form. Words are keywords only as they are written. -/
def name : Rule String :=
  token fun
    | .word text => if keywords.contains text then none else some (identifier text)
    | _ => none

def newline : Rule PUnit := token fun found => if found = .newline then some ⟨⟩ else none

/-- Looks whether a rule reads and leaves the tokens. -/
def sees (rule : Rule α) : Rule Bool := fun tokens => some ((rule tokens).isSome, tokens)

/-- Something is there or not. -/
def flag (rule : Rule α) : Rule Bool := do return (← optional rule).isSome

/-- One value or more between separators. -/
def sepBy1 (rule : Rule α) (separator : Rule β) : Rule (List α) := do
  let first ← rule
  let rest ← many (andThen separator fun _ => rule)
  return first :: rest

/-- One value or more between commas, and whether a comma follows them. -/
def commaList (rule : Rule α) : Rule (List α × Bool) := do
  let items ← sepBy1 rule (sign ",")
  return (items, ← flag (sign ","))

/-- A value between two signs. -/
def between (opening closing : String) (rule : Rule α) : Rule α := do
  sign opening
  let value ← rule
  sign closing
  return value

/-- A value after a lead. -/
def after (lead : Rule β) (rule : Rule α) : Rule α := andThen lead fun _ => rule

end Rule

end Blueprint.ServerCode
