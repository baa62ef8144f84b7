/-!
Blanks, lines and sorted lists of texts. A character is blank when Unicode counts it as white space
or as a separator of lines, paragraphs or records; lines are joined, freed of their common
indentation and indented; sorting is by code points.
-/

namespace Blueprint.Text

/-- White space: the controls from tab to carriage return, the four record separators, and the
Unicode spaces. -/
def isBlank (c : Char) : Bool :=
  let n := c.toNat
  (9 ≤ n && n ≤ 13) || (28 ≤ n && n ≤ 32) || n == 0x85 || n == 0xa0 || n == 0x1680 ||
    (0x2000 ≤ n && n ≤ 0x200a) || n == 0x2028 || n == 0x2029 || n == 0x202f || n == 0x205f ||
    n == 0x3000

/-- Drops blanks in front. -/
def trimStart (text : List Char) : List Char := text.dropWhile isBlank

/-- Drops blanks at the end. -/
def trimEnd (text : List Char) : List Char := (text.reverse.dropWhile isBlank).reverse

/-- Drops blanks at both ends. -/
def trim (text : List Char) : List Char := trimEnd (trimStart text)

/-- Every character is blank; the empty text counts. -/
def isBlankText (text : List Char) : Bool := text.all isBlank

/-- A string without the blanks at its ends. -/
def strip (text : String) : String := String.ofList (trim text.toList)

/-- A string without the blanks at its end. -/
def stripEnd (text : String) : String := String.ofList (trimEnd text.toList)

/-- A string that is empty or made of blanks. -/
def isBlankString (text : String) : Bool := isBlankText text.toList

/-- The runs of characters that are not blank, with the run that is being read. -/
def fieldsFrom (run : List Char) : List Char → List (List Char)
  | [] => if run.isEmpty then [] else [run]
  | c :: rest =>
    if isBlank c then (if run.isEmpty then [] else [run]) ++ fieldsFrom [] rest
    else fieldsFrom (run ++ [c]) rest

/-- The words of a text between its blanks. -/
def fields (text : String) : List String := (fieldsFrom [] text.toList).map String.ofList

/-- The lines between line feeds; a text of `n` line feeds has `n + 1` lines. -/
def linesOf (text : List Char) : List (List Char) := text.splitOn '\n'

/-- Lines joined by line feeds. -/
def joinLines (lines : List (List Char)) : List Char := ['\n'].intercalate lines

/-- Strings joined by line feeds. -/
def unlines (lines : List String) : String := "\n".intercalate lines

/-- A space or a tab. -/
def isIndent (c : Char) : Bool := c == ' ' || c == '\t'

/-- The longest common start of two texts. -/
def commonStart : List Char → List Char → List Char
  | a :: as, b :: bs => if a = b then a :: commonStart as bs else []
  | _, _ => []

/-- The indentation shared by all lines that hold more than spaces and tabs. -/
def commonIndent (lines : List (List Char)) : List Char :=
  match (lines.filter fun line => !line.all isIndent).map (·.takeWhile isIndent) with
  | [] => []
  | first :: rest => rest.foldl commonStart first

/-- Removes the common indentation; lines of spaces and tabs become empty. -/
def dedentLines (lines : List (List Char)) : List (List Char) :=
  let margin := commonIndent lines
  lines.map fun line => if line.all isIndent then [] else line.drop margin.length

/-- Removes the common indentation of a text. -/
def dedent (text : List Char) : List Char := joinLines (dedentLines (linesOf text))

/-- Characters that end a line for `splitLines`. -/
def isLineEnd (c : Char) : Bool :=
  let n := c.toNat
  (10 ≤ n && n ≤ 13) || (28 ≤ n && n ≤ 30) || n == 0x85 || n == 0x2028 || n == 0x2029

/-- The lines of a text with their ends, the first of which starts with `line` reversed. -/
def splitLinesFrom (line : List Char) : List Char → List (List Char)
  | [] => if line.isEmpty then [] else [line.reverse]
  | '\r' :: '\n' :: rest => ('\n' :: '\r' :: line).reverse :: splitLinesFrom [] rest
  | c :: rest =>
    if isLineEnd c then (c :: line).reverse :: splitLinesFrom [] rest
    else splitLinesFrom (c :: line) rest

/-- The lines of a text, each with the characters that end it. -/
def splitLines (text : List Char) : List (List Char) := splitLinesFrom [] text

/-- Puts an indentation before every line that is not blank. -/
def indent (margin text : List Char) : List Char :=
  (splitLines text).flatMap fun line => if isBlankText line then line else margin ++ line

/-- A string with its common indentation removed. -/
def dedentString (text : String) : String := String.ofList (dedent text.toList)

/-- A string whose lines are indented by `margin`. -/
def indentString (margin text : String) : String :=
  String.ofList (indent margin.toList text.toList)

/-- A text whose lines all end in one way: carriage returns count as line ends. -/
def oneLineEnd : List Char → List Char
  | '\r' :: '\n' :: rest => '\n' :: oneLineEnd rest
  | '\r' :: rest => '\n' :: oneLineEnd rest
  | c :: rest => c :: oneLineEnd rest
  | [] => []

/-- The strings of a list in ascending order, each once. -/
def sortedSet (texts : List String) : List String :=
  (texts.eraseDups).mergeSort fun a b => decide (a ≤ b)

@[simp] theorem mem_sortedSet {texts : List String} {text : String} :
    text ∈ sortedSet texts ↔ text ∈ texts := by
  simp [sortedSet]

/-- Strings in ascending order. -/
def sorted (texts : List String) : List String := texts.mergeSort fun a b => decide (a ≤ b)

end Blueprint.Text
