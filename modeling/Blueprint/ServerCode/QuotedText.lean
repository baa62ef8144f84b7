import Blueprint.Text.Lines
import Blueprint.ServerCode.Token

/-!
What quoted texts stand for: escapes are resolved, texts that follow each other are joined, and a
text with values is cut into plain parts and values.
-/

namespace Blueprint.ServerCode

/-- The number of the first `count` hexadecimal digits, and the text behind them. -/
def hexNumber? : Nat → List Char → Option (Nat × List Char)
  | count, text =>
    let digits := text.take count
    if digits.length == count && digits.all isHexDigit then
      some (natOf 16 digits, text.drop count)
    else none

/-- What an escape stands for, as a code point, and the text behind it. The text starts after the
backslash; an escape that means nothing is none. Texts may name characters by longer numbers than
bytes can, but no halves of pairs; a character that is given by its own name is not looked up. -/
def escape? (inText : Bool) : List Char → Option (Option (List Nat) × List Char)
  | [] => some (none, [])
  | c :: rest =>
    match c with
    | '\n' => some (some [], rest)
    | '\\' | '\'' | '"' => some (some [c.toNat], rest)
    | 'a' => some (some [7], rest)
    | 'b' => some (some [8], rest)
    | 'f' => some (some [12], rest)
    | 'n' => some (some [10], rest)
    | 'r' => some (some [13], rest)
    | 't' => some (some [9], rest)
    | 'v' => some (some [11], rest)
    | 'x' => (hexNumber? 2 rest).map fun found => (some [found.1], found.2)
    | c =>
      if isOctalDigit c then
        let digits := ((c :: rest).take 3).takeWhile isOctalDigit
        let value := natOf 8 digits
        let value := if inText then value else value % 256
        some (some [value], (c :: rest).drop digits.length)
      else if inText && c == 'u' then
        (hexNumber? 4 rest).bind fun found =>
          if found.1.isValidChar then some (some [found.1], found.2) else none
      else if inText && c == 'U' then
        (hexNumber? 8 rest).bind fun found =>
          if found.1.isValidChar then some (some [found.1], found.2) else none
      else if inText && c == 'N' then none
      else some (none, c :: rest)

/-- The code points that a quoted text stands for. A backslash that starts no escape stays. -/
def decodeFrom (inText : Bool) : Nat → List Char → Option (List Nat)
  | 0, _ => none
  | _, [] => some []
  | fuel + 1, '\\' :: rest => do
    let (found, behind) ← escape? inText rest
    let decoded ← decodeFrom inText fuel behind
    some (found.getD ['\\'.toNat] ++ decoded)
  | fuel + 1, c :: rest => do
    let decoded ← decodeFrom inText fuel rest
    some (c.toNat :: decoded)

/-- The text that a quoted text stands for. -/
def decodeText? (raw : Bool) (body : List Char) : Option String :=
  if raw then some (String.ofList body)
  else (decodeFrom true (body.length + 1) body).map fun points =>
    String.ofList (points.map Char.ofNat)

/-- The bytes that a quoted text stands for; it may hold only ASCII. -/
def decodeBytes? (raw : Bool) (body : List Char) : Option (List UInt8) :=
  if body.any fun c => 0x80 ≤ c.toNat then none
  else if raw then some (body.map fun c => UInt8.ofNat c.toNat)
  else (decodeFrom false (body.length + 1) body).map fun points => points.map UInt8.ofNat

/-- The plain text up to the next brace that opens a value or, in a format, closes one. Elsewhere
two braces stand for one and a single closing brace is refused. -/
def plainRun (raw inFormat : Bool) : List Char → Option (List Char × List Char)
  | [] => some ([], [])
  | [c] =>
    if c == '\x7d' then (if inFormat then some ([], [c]) else none)
    else if c == '\x7b' then some ([], [c])
    else some ([c], [])
  | c :: d :: rest =>
    if c == '\x7b' || c == '\x7d' then
      if !inFormat && d == c then
        (plainRun raw inFormat rest).map fun found => (c :: found.1, found.2)
      else if c == '\x7d' && !inFormat then none
      else some ([], c :: d :: rest)
    else if c == '\\' && !raw && d != '\x7b' && d != '\x7d' then
      (plainRun raw inFormat rest).map fun found => (c :: d :: found.1, found.2)
    else (plainRun raw inFormat (d :: rest)).map fun found => (c :: found.1, found.2)

/-- The code of a value, up to the sign that ends it, and the text from that sign on. Brackets and
quotes inside the code are skipped; it holds no backslash and no comment. -/
def valueCode : Nat → Option (Char × Bool) → List Char → List Char →
    Option (List Char × List Char)
  | 0, _, _, _ => none
  | _, _, _, [] => none
  | fuel + 1, quote, brackets, c :: rest =>
    let keep (taken : List Char) (quote : Option (Char × Bool)) (brackets rest : List Char) :=
      (valueCode fuel quote brackets rest).map fun found => (taken ++ found.1, found.2)
    let doubled := (rest.take 2 == [c, c])
    if c == '\\' then none
    else match quote with
      | some (mark, long) =>
        if c == mark && !long then keep [c] none brackets rest
        else if c == mark && doubled then keep [c, c, c] none brackets (rest.drop 2)
        else keep [c] quote brackets rest
      | none =>
        if c == '\'' || c == '"' then
          if doubled then keep [c, c, c] (some (c, true)) brackets (rest.drop 2)
          else keep [c] (some (c, false)) brackets rest
        else if c == '(' then keep [c] none (')' :: brackets) rest
        else if c == '[' then keep [c] none (']' :: brackets) rest
        else if c == '\x7b' then keep [c] none ('\x7d' :: brackets) rest
        else if c == '#' then none
        else if brackets.isEmpty && (c == '!' || c == '=' || c == '<' || c == '>') &&
            rest.head? == some '=' then
          keep [c, '='] none brackets (rest.drop 1)
        else if brackets.isEmpty && (c == '!' || c == ':' || c == '\x7d' || c == '=') then
          some ([], c :: rest)
        else if c == ')' || c == ']' || c == '\x7d' then
          match brackets with
          | top :: below => if top == c then keep [c] none below rest else none
          | [] => none
        else keep [c] none brackets rest

/-- The conversion of a value and the text behind it. -/
def conversion? : List Char → Option (Option Char × List Char)
  | '!' :: c :: rest =>
    if c == 's' || c == 'r' || c == 'a' then some (some c, rest) else none
  | '!' :: [] => none
  | rest => some (none, rest)

/-- Puts plain text before parts, joining it with plain text there. -/
def withText (text : String) (parts : List FormatPart) : List FormatPart :=
  if text.isEmpty then parts
  else match parts with
    | .text more :: rest => .text (text ++ more) :: rest
    | _ => .text text :: parts

/-- The parts of a text with values, up to its end or, in a format, up to the brace that closes the
value. Values are read by `read`; formats may hold values whose formats hold none. -/
def formatParts (read : List Char → Option Expr) (raw : Bool) :
    Nat → Nat → List Char → Option (List FormatPart × List Char)
  | 0, _, _ => none
  | fuel + 1, depth, text => do
    let (plain, rest) ← plainRun raw (depth != 0) text
    let plain ← decodeText? raw plain
    match rest with
    | '\x7b' :: inner =>
      if 2 ≤ depth then none
      else
        let (code, rest) ← valueCode (inner.length + 1) none [] inner
        let value ← if code.all Text.isBlank then none else read code
        let (shown, rest) := match rest with
          | '=' :: more =>
            let behind := more.dropWhile Text.isBlank
            let blanks := more.takeWhile Text.isBlank
            (some (code ++ '=' :: blanks), behind)
          | _ => (none, rest)
        let (conversion, rest) ← conversion? rest
        let (format, rest) ← match rest with
          | ':' :: more => do
            let (parts, rest) ← formatParts read raw fuel (depth + 1) more
            some (some parts, rest)
          | _ => some (none, rest)
        match rest with
        | '\x7d' :: behind =>
          let conversion :=
            if shown.isSome && conversion.isNone && format.isNone then some 'r' else conversion
          let (parts, rest) ← formatParts read raw fuel depth behind
          some (withText plain (withText (String.ofList (shown.getD []))
            (.value value conversion format :: parts)), rest)
        | _ => none
    | _ => some (withText plain [], rest)

/-- The parts that one quoted text contributes to a text with values. -/
def StringPiece.parts (read : List Char → Option Expr) (piece : StringPiece) :
    Option (List FormatPart) :=
  match piece.kind with
  | .formatted => do
    let (parts, rest) ← formatParts read piece.raw (piece.body.length + 1) 0 piece.body
    if rest.isEmpty then some parts else none
  | _ => (decodeText? piece.raw piece.body).map fun text => withText text []

/-- Joins parts, merging plain text that meets. -/
def joinParts (parts : List (List FormatPart)) : List FormatPart :=
  parts.foldr (fun first rest =>
    match first.getLast?, rest with
    | some (.text text), _ => first.dropLast ++ withText text rest
    | _, _ => first ++ rest) []

/-- The expression of quoted texts that follow each other. Bytes join only with bytes. -/
def joinStrings? (read : List Char → Option Expr) (pieces : List StringPiece) : Option Expr :=
  if pieces.all (·.kind == .bytes) then
    (pieces.mapM fun piece => decodeBytes? piece.raw piece.body).map fun bytes =>
      .constant (.bytes bytes.flatten)
  else if pieces.any (·.kind == .bytes) then none
  else if pieces.any (·.kind == .formatted) then
    (pieces.mapM (StringPiece.parts read)).map fun parts => .formatted (joinParts parts)
  else
    (pieces.mapM fun piece => decodeText? piece.raw piece.body).map fun texts =>
      .constant (.text (String.join texts) (pieces.head?.any (·.marked)))

end Blueprint.ServerCode
