import Blueprint.Json.Reader
import Blueprint.Text.Lines

/-!
Settings files: maps and lists by indentation or between brackets, quoted and plain texts, comments.
A plain text that looks like a number, a truth value, a date or nothing is taken for one.
-/

namespace Blueprint.Config

/-- A value of a settings file. -/
inductive Yaml where
  | scalar (value : Json)
  | date (text : String)
  | list (items : List Yaml)
  | map (entries : List (Yaml × Yaml))

namespace Yaml

/-- The digits of a number in a base, with underscores among them. -/
def digits? (base : Nat) (isDigit : Char → Bool) (text : List Char) : Option Nat :=
  if text.isEmpty || !text.all (fun c => isDigit c || c == '_') then none
  else (text.filter (· != '_')).foldlM (fun n c => (Json.hexValue? c).map (base * n + ·)) 0

/-- The text is a part of a time: one or two digits, below sixty. -/
def sixty? (text : List Char) : Option Nat :=
  if text.isEmpty || text.length > 2 || !text.all Char.isDigit then none
  else
    let value := Json.digitsValue text
    if value < 60 then some value else none

/-- The number of a text without a sign. -/
def natural? (text : List Char) : Option Nat :=
  match text with
  | ['0'] => some 0
  | '0' :: 'b' :: rest => digits? 2 (fun c => c == '0' || c == '1') rest
  | '0' :: 'x' :: rest => digits? 16 (fun c => (Json.hexValue? c).isSome) rest
  | '0' :: rest => digits? 8 (fun c => '0' ≤ c && c ≤ '7') rest
  | c :: _ =>
    if !c.isDigit then none
    else match text.splitOn ':' with
      | [whole] => digits? 10 Char.isDigit whole
      | first :: parts =>
        (digits? 10 Char.isDigit first).bind fun first =>
          parts.foldlM (fun n part => (sixty? part).map (60 * n + ·)) first
      | [] => none
  | [] => none

/-- A sign before a text. -/
def signed (text : List Char) : Bool × List Char :=
  match text with
  | '-' :: rest => (true, rest)
  | '+' :: rest => (false, rest)
  | _ => (false, text)

/-- The integer of a text. -/
def integer? (text : List Char) : Option Int :=
  let (negative, rest) := signed text
  (natural? rest).map fun n => if negative then -(n : Int) else n

/-- The exponent of a decimal; its sign may not be left out. -/
def exponent? (text : List Char) : Option Int :=
  match text with
  | [] => some 0
  | c :: sign :: rest =>
    if (c == 'e' || c == 'E') && (sign == '-' || sign == '+') && !rest.isEmpty &&
        rest.all Char.isDigit then
      some (if sign == '-' then -(Json.digitsValue rest : Int) else Json.digitsValue rest)
    else none
  | _ => none

/-- The decimal of a text; it has a point. -/
def decimal? (text : List Char) : Option Double :=
  let (negative, rest) := signed text
  if ["inf", "Inf", "INF"].any (fun name => rest == '.' :: name.toList) then
    some (.infinite negative)
  else if ["nan", "NaN", "NAN"].any (fun name => text == '.' :: name.toList) then some .nan
  else
    let isPart (c : Char) : Bool := c.isDigit || c == '_'
    let whole := rest.takeWhile isPart
    match rest.drop whole.length with
    | '.' :: after =>
      let fraction := after.takeWhile isPart
      let starts (part : List Char) : Bool := part.head?.any Char.isDigit
      if !(starts whole || (whole.isEmpty && starts fraction && text == rest)) then none
      else
        let plain := fraction.filter (· != '_')
        (exponent? (after.drop fraction.length)).map fun exponent =>
          Double.ofDecimal negative (Json.digitsValue (whole.filter (· != '_') ++ plain))
            (exponent - plain.length)
    | _ => none

/-- The text is a date: year, month and day. -/
def isDate (text : List Char) : Bool :=
  match text.splitOn '-' with
  | [year, month, day] =>
    year.length == 4 && month.length == 2 && day.length == 2 &&
      (year ++ month ++ day).all Char.isDigit
  | _ => false

/-- The value of a plain text. -/
def ofPlain (text : List Char) : Yaml :=
  let word := String.ofList text
  if ["", "~", "null", "Null", "NULL"].contains word then scalar .null
  else if ["yes", "Yes", "YES", "true", "True", "TRUE", "on", "On", "ON"].contains word then
    scalar (.bool true)
  else if ["no", "No", "NO", "false", "False", "FALSE", "off", "Off", "OFF"].contains word then
    scalar (.bool false)
  else match integer? text with
    | some value => scalar (.int value)
    | none => match decimal? text with
      | some value => scalar (.float value)
      | none => if isDate text then date word else scalar (.str word)

/-- The characters that a file may hold. -/
def isAllowed (c : Char) : Bool :=
  let n := c.toNat
  n == 9 || n == 10 || n == 13 || (0x20 ≤ n && n ≤ 0x7e) || n == 0x85 ||
    (0xa0 ≤ n && n != 0xfeff && n != 0xfffe && n != 0xffff)

/-- A line of a file: how far it is indented and what stands on it. -/
structure Line where
  indent : Nat
  text : List Char

/-- A blank of a line. -/
def isSpace (c : Char) : Bool := c == ' ' || c == '\t'

/-- The lines of a text, given its characters. -/
def linesOf (text : List Char) : List Line :=
  (text.splitOn '\n').map fun line =>
    let indent := (line.takeWhile (· == ' ')).length
    ⟨indent, line.drop indent⟩

/-- A line on which nothing but a comment stands. -/
def Line.isEmpty (line : Line) : Bool :=
  match line.text.dropWhile isSpace with
  | [] => true
  | c :: _ => c == '#'

/-- The text of lines. -/
def textOf (lines : List Line) : List Char :=
  ['\n'].intercalate (lines.map fun line => List.replicate line.indent ' ' ++ line.text)

/-- A text without blanks at its end. -/
def trimSpaces (text : List Char) : List Char := (text.reverse.dropWhile isSpace).reverse

/-- The plain text at the start of a line and what follows it: it ends before a comment, and before
a colon that is followed by a blank. -/
def plainPart (inside : Bool) (before : List Char) : List Char → List Char × List Char
  | [] => (before.reverse, [])
  | c :: rest =>
    let stops := (c == '#' && before.head?.any isSpace) || c == '\n' ||
      (c == ':' && (rest.isEmpty || rest.head?.any fun d =>
        isSpace d || d == '\n' || (inside && ",[]\x7b\x7d".toList.contains d))) ||
      (inside && ",[]\x7b\x7d".toList.contains c)
    if stops then (before.reverse, c :: rest) else plainPart inside (c :: before) rest

/-- May start a plain text. -/
def startsPlain (text : List Char) : Bool :=
  match text with
  | [] => false
  | c :: rest =>
    if "-?:".toList.contains c then
      !(rest.isEmpty || rest.head?.any fun d => isSpace d || d == '\n')
    else !(",[]\x7b\x7d#&*!|>'\"%@`\t".toList.contains c)

/-- Folds a line end inside quotes: it stands for a blank, and blanks around it go. -/
def foldQuoted (before rest : List Char) : List Char × List Char :=
  let after := rest.dropWhile fun c => isSpace c || c == '\n'
  let breaks := (rest.take (rest.length - after.length)).filter (· == '\n')
  (List.replicate breaks.length '\n' ++ (if breaks.isEmpty then [' '] else []) ++
    before.dropWhile isSpace, after)

/-- The character of an escape that has one letter. -/
def escape? : Char → Option Char
  | '0' => some '\x00'
  | 'a' => some '\x07'
  | 'b' => some '\x08'
  | 't' | '\t' => some '\t'
  | 'n' => some '\n'
  | 'v' => some '\x0b'
  | 'f' => some '\x0c'
  | 'r' => some '\r'
  | 'e' => some '\x1b'
  | ' ' => some ' '
  | '"' => some '"'
  | '/' => some '/'
  | '\\' => some '\\'
  | _ => none

/-- A quoted text, whose opening quote has been read, and what follows it. The size bounds the
steps. -/
def quoted? (quote : Char) : Nat → List Char → List Char → Option (List Char × List Char)
  | 0, _, _ | _, _, [] => none
  | size + 1, before, c :: rest =>
    if c == '\n' then
      let (before, rest) := foldQuoted before rest
      quoted? quote size before rest
    else if c == quote then
      if quote == '\'' && rest.head? == some '\'' then
        quoted? quote size ('\'' :: before) (rest.drop 1)
      else some (before.reverse, rest)
    else if c == '\\' && quote == '"' then
      match rest with
      | [] => none
      | d :: rest =>
        let width := if d == 'x' then 2 else if d == 'u' then 4 else if d == 'U' then 8 else 0
        if width > 0 then
          if (rest.take width).length == width then
            (digits? 16 (fun c => (Json.hexValue? c).isSome) (rest.take width)).bind fun n =>
              quoted? quote size (Char.ofNat n :: before) (rest.drop width)
          else none
        else (escape? d).bind fun c => quoted? quote size (c :: before) rest
    else quoted? quote size (c :: before) rest

/-- A text without the blanks, line ends and comments at its start. -/
def skipFrom (inComment afterBlank : Bool) : List Char → List Char
  | [] => []
  | c :: rest =>
    if inComment then skipFrom (c != '\n') true rest
    else if isSpace c || c == '\n' then skipFrom false true rest
    else if c == '#' && afterBlank then skipFrom true true rest
    else c :: rest

/-- What stands after the blanks between the parts of a bracketed value. -/
def skipBetween (text : List Char) : List Char := skipFrom false false text

mutual

/-- A value between brackets and what follows it. The size bounds the steps. -/
def flow? : Nat → List Char → Option (Yaml × List Char)
  | 0, _ => none
  | size + 1, text =>
    match text with
    | '[' :: rest => flowItems? size [] (skipBetween rest)
    | '\x7b' :: rest => flowEntries? size [] (skipBetween rest)
    | '"' :: rest => (quoted? '"' rest.length.succ [] rest).map fun r =>
        (scalar (.str (String.ofList r.1)), r.2)
    | '\'' :: rest => (quoted? '\'' rest.length.succ [] rest).map fun r =>
        (scalar (.str (String.ofList r.1)), r.2)
    | text =>
      if startsPlain text then
        let (plain, rest) := plainPart true [] text
        some (ofPlain (trimSpaces plain), rest)
      else none

/-- The items of a bracketed list up to its end. -/
def flowItems? : Nat → List Yaml → List Char → Option (Yaml × List Char)
  | 0, _, _ => none
  | _ + 1, items, ']' :: rest => some (list items.reverse, rest)
  | size + 1, items, text =>
    (flow? size text).bind fun (item, rest) =>
      match skipBetween rest with
      | ',' :: rest => flowItems? size (item :: items) (skipBetween rest)
      | ']' :: rest => some (list (item :: items).reverse, rest)
      | ':' :: rest =>
        (flow? size (skipBetween rest)).bind fun (value, rest) =>
          match skipBetween rest with
          | ',' :: rest => flowItems? size (map [(item, value)] :: items) (skipBetween rest)
          | ']' :: rest => some (list (map [(item, value)] :: items).reverse, rest)
          | _ => none
      | _ => none

/-- The entries of a bracketed map up to its end. -/
def flowEntries? : Nat → List (Yaml × Yaml) → List Char → Option (Yaml × List Char)
  | 0, _, _ => none
  | _ + 1, entries, '\x7d' :: rest => some (map entries.reverse, rest)
  | size + 1, entries, text =>
    (flow? size text).bind fun (key, rest) =>
      let close (value : Yaml) (rest : List Char) : Option (Yaml × List Char) :=
        match skipBetween rest with
        | ',' :: rest => flowEntries? size ((key, value) :: entries) (skipBetween rest)
        | '\x7d' :: rest => some (map ((key, value) :: entries).reverse, rest)
        | _ => none
      match skipBetween rest with
      | ':' :: rest =>
        match skipBetween rest with
        | ',' :: _ | '\x7d' :: _ => close (scalar .null) rest
        | rest => (flow? size rest).bind fun (value, rest) => close value rest
      | rest => close (scalar .null) rest

end

/-- The lines after a value that ended in the middle of one; only a comment may follow on it. -/
def linesAfter? (rest : List Char) : Option (List Line) :=
  match linesOf rest with
  | line :: others => if line.isEmpty then some others else none
  | [] => some []

/-- Lines that go on a plain text: those that are indented further. -/
def continuation (indent : Int) : List Line → List (List Char) × List Line
  | [] => ([], [])
  | line :: rest =>
    let (more, others) := continuation indent rest
    if line.text.all isSpace then
      if more.isEmpty then ([], line :: rest) else (more, others)
    else if indent < line.indent && !line.isEmpty then (line.text :: more, others)
    else ([], line :: rest)

/-- A plain text that may go on over lines that are indented further. A colon may not end a part
of it. -/
def plain? (indent : Int) (text : List Char) (rest : List Line) : Option (Yaml × List Line) :=
  let (first, after) := plainPart false [] text
  let (more, others) := if after.isEmpty then continuation indent rest else ([], rest)
  let parts : List (List Char × List Char) := more.map fun line => plainPart false [] line
  if ((first, after) :: parts).any fun part => part.2.head? == some ':' then none
  else some (ofPlain ([' '].intercalate ((first :: parts.map (·.1)).map trimSpaces)), others)

/-- A value that starts on a line after other things, with the lines after it. -/
def inline? (indent : Int) (text : List Char) (rest : List Line) : Option (Yaml × List Line) :=
  match text with
  | c :: _ =>
    if "[\x7b\"'".toList.contains c then
      let whole := text ++ '\n' :: textOf rest
      (flow? (whole.length + 1) whole).bind fun (value, after) =>
        (linesAfter? after).map fun lines => (value, lines)
    else if startsPlain text then plain? indent text rest
    else none
  | [] => some (scalar .null, rest)

/-- A key at the start of a line with what follows its colon. -/
def key? (text : List Char) : Option (Yaml × List Char) :=
  let after (key : Yaml) (rest : List Char) : Option (Yaml × List Char) :=
    match rest.dropWhile isSpace with
    | ':' :: rest =>
      if rest.isEmpty || rest.head?.any isSpace then some (key, rest.dropWhile isSpace) else none
    | _ => none
  match text with
  | '"' :: rest => (quoted? '"' rest.length.succ [] rest).bind fun r =>
      after (scalar (.str (String.ofList r.1))) r.2
  | '\'' :: rest => (quoted? '\'' rest.length.succ [] rest).bind fun r =>
      after (scalar (.str (String.ofList r.1))) r.2
  | text =>
    if startsPlain text then
      let (plain, rest) := plainPart false [] text
      after (ofPlain (trimSpaces plain)) rest
    else none

/-- What follows the dash of a list item. -/
def item? (text : List Char) : Option (List Char) :=
  match text with
  | ['-'] => some []
  | '-' :: c :: rest => if isSpace c then some rest else none
  | _ => none

mutual

/-- A value on lines of its own. The size bounds the steps. -/
def block? : Nat → List Line → Option (Yaml × List Line)
  | 0, _ => none
  | size + 1, lines =>
    match lines.dropWhile Line.isEmpty with
    | [] => some (scalar .null, [])
    | line :: rest =>
      if (item? line.text).isSome then items? size line.indent [] (line :: rest)
      else if (key? line.text).isSome then entries? size line.indent [] (line :: rest)
      else inline? (-1) line.text rest

/-- The items of a list that is indented so far. -/
def items? : Nat → Nat → List Yaml → List Line → Option (Yaml × List Line)
  | 0, _, _, _ => none
  | size + 1, indent, items, lines =>
    match lines.dropWhile Line.isEmpty with
    | [] => some (list items.reverse, [])
    | line :: rest =>
      if line.indent < indent then some (list items.reverse, line :: rest)
      else match if line.indent == indent then item? line.text else none with
        | none =>
          if line.indent == indent && (key? line.text).isSome then
            some (list items.reverse, line :: rest)
          else none
        | some text =>
          let inner := text.dropWhile isSpace
          if inner.isEmpty || inner.head? == some '#' then
            match nested? size indent false rest with
            | some (value, rest) => items? size indent (value :: items) rest
            | none => none
          else if (item? inner).isSome || (key? inner).isSome then
            let column := indent + 1 + (text.length - inner.length) + 1
            (block? size (⟨column, inner⟩ :: rest)).bind fun (value, rest) =>
              items? size indent (value :: items) rest
          else
            (inline? indent inner rest).bind fun (value, rest) =>
              items? size indent (value :: items) rest

/-- The entries of a map that is indented so far. -/
def entries? : Nat → Nat → List (Yaml × Yaml) → List Line → Option (Yaml × List Line)
  | 0, _, _, _ => none
  | size + 1, indent, entries, lines =>
    match lines.dropWhile Line.isEmpty with
    | [] => some (map entries.reverse, [])
    | line :: rest =>
      if line.indent < indent then some (map entries.reverse, line :: rest)
      else match if line.indent == indent then key? line.text else none with
        | none => none
        | some (key, text) =>
          if text.isEmpty || text.head? == some '#' then
            (nested? size indent true rest).bind fun (value, rest) =>
              entries? size indent ((key, value) :: entries) rest
          else
            (inline? indent text rest).bind fun (value, rest) =>
              entries? size indent ((key, value) :: entries) rest

/-- The value below a key or a dash: lines that are indented further or, below a key, a list that is
not. Without such lines there is none. -/
def nested? : Nat → Nat → Bool → List Line → Option (Yaml × List Line)
  | 0, _, _, _ => none
  | size + 1, indent, belowKey, lines =>
    match lines.dropWhile Line.isEmpty with
    | [] => some (scalar .null, [])
    | line :: rest =>
      if indent < line.indent ||
          (belowKey && line.indent == indent && (item? line.text).isSome) then
        block? size (line :: rest)
      else some (scalar .null, line :: rest)

end

/-- A text whose lines all end in one way; some other characters end lines too. -/
def plainLines (text : List Char) : List Char :=
  (Text.oneLineEnd text).map fun c =>
    if c == '\x85' || c == '\u2028' || c == '\u2029' then '\n' else c

/-- A line is a marker that stands alone. -/
def Line.isMarker (marker : String) (line : Line) : Bool :=
  line.indent == 0 && trimSpaces line.text == marker.toList

/-- The lines of a value: without a marker before it, and without one that ends it and nothing
after. -/
def content (lines : List Line) : List Line :=
  let body := match lines.dropWhile Line.isEmpty with
    | line :: rest => if line.isMarker "---" then rest else line :: rest
    | [] => []
  let rest := body.dropWhile fun line => !line.isMarker "..."
  if (rest.drop 1).all Line.isEmpty then body.take (body.length - rest.length) else body

/-- The value of a file; none if it cannot be read. -/
def parse? (text : String) : Option Yaml :=
  let chars := match text.toList with
    | '\ufeff' :: rest => rest
    | chars => chars
  if !chars.all isAllowed then none
  else
    let lines := content (linesOf (plainLines chars))
    if lines.any fun line => !line.isEmpty && line.text.head? == some '\t' then none
    else match block? (2 * chars.length + 8) lines with
      | some (value, rest) => if rest.all Line.isEmpty then some value else none
      | none => none

end Yaml

end Blueprint.Config
