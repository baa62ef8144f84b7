import Blueprint.Decimal.Double

/-!
JSON values. Integers and decimals are kept apart and the fields of an object stay in order. In a
written value characters beyond ASCII are escapes of their UTF-16 units.
-/

namespace Blueprint

/-- A JSON value. -/
inductive Json where
  | null
  | bool (value : Bool)
  | int (value : Int)
  | float (value : Double)
  | str (value : String)
  | arr (items : List Json)
  | obj (fields : List (String × Json))
  deriving Inhabited, Repr

namespace Json

/-- A field of an object. -/
def field? (key : String) : Json → Option Json
  | obj fields => fields.lookup key
  | _ => none

/-- A field of an object, null when it is absent. -/
def get (value : Json) (key : String) : Json := (value.field? key).getD null

/-- The items of an array; nothing for any other value. -/
def items : Json → List Json
  | arr items => items
  | _ => []

/-- The fields of an object; nothing for any other value. -/
def fields : Json → List (String × Json)
  | obj fields => fields
  | _ => []

/-- The text of a string value. -/
def text? : Json → Option String
  | str value => some value
  | _ => none

/-- The text of a string value, empty for any other. -/
def text (value : Json) : String := value.text?.getD ""

/-- The integer of a value. -/
def int? : Json → Option Int
  | int value => some value
  | _ => none

/-- A value that stands for yes: everything but null, false, zero and what is empty. -/
def isTruthy : Json → Bool
  | null => false
  | bool value => value
  | int value => value != 0
  | float (.finite _ mantissa ..) => mantissa != 0
  | float _ => true
  | str value => !value.isEmpty
  | arr items => !items.isEmpty
  | obj fields => !fields.isEmpty

/-- The value is null. -/
def isNull : Json → Bool
  | null => true
  | _ => false

/-- An array of strings. -/
def strings (values : List String) : Json := arr (values.map str)

/-- A natural number. -/
def nat (n : Nat) : Json := int n

/-- A value that may be absent. -/
def option {α : Type} (encode : α → Json) : Option α → Json
  | some value => encode value
  | none => null

/-- A string, or null when it is absent. -/
def ofText? : Option String → Json := option str

end Json

end Blueprint

namespace Blueprint.Json

/-- A hexadecimal digit in lower case. -/
def hexDigit (n : Nat) : Char :=
  if n < 10 then Char.ofNat (48 + n) else Char.ofNat (87 + n)

/-- The last `count` hexadecimal digits of a number. -/
def hexDigits : Nat → Nat → List Char
  | 0, _ => []
  | count + 1, n => hexDigits count (n / 16) ++ [hexDigit (n % 16)]

/-- The escape of one UTF-16 unit. -/
def unitEscape (n : Nat) : List Char := '\\' :: 'u' :: hexDigits 4 n

/-- A character inside a quoted string. -/
def escapeChar (c : Char) : List Char :=
  match c with
  | '"' => ['\\', '"']
  | '\\' => ['\\', '\\']
  | '\n' => ['\\', 'n']
  | '\r' => ['\\', 'r']
  | '\t' => ['\\', 't']
  | '\x08' => ['\\', 'b']
  | '\x0c' => ['\\', 'f']
  | c =>
    let n := c.toNat
    if 0x20 ≤ n && n < 0x7f then [c]
    else if n < 0x10000 then unitEscape n
    else unitEscape (0xd800 + (n - 0x10000) / 0x400) ++ unitEscape (0xdc00 + (n - 0x10000) % 0x400)

/-- A quoted string. -/
def quoteChars (text : List Char) : List Char := '"' :: text.flatMap escapeChar ++ ['"']

/-- A quoted string. -/
def quote (text : String) : String := String.ofList (quoteChars text.toList)

/-- The text of a decimal; the numbers that JSON lacks have names. -/
def floatText : Double → String
  | .nan => "NaN"
  | .infinite negative => if negative then "-Infinity" else "Infinity"
  | x => x.text

/-- The text of a scalar value; empty for arrays and objects. -/
def scalarText : Json → String
  | null => "null"
  | bool true => "true"
  | bool false => "false"
  | int n => toString n
  | float x => floatText x
  | str s => quote s
  | _ => ""

mutual
/-- A value on one line. -/
def compact : Json → String
  | arr items => "[" ++ ", ".intercalate (compactItems items) ++ "]"
  | obj fields => "\x7b" ++ ", ".intercalate (compactFields fields) ++ "\x7d"
  | value => value.scalarText

/-- The items of an array on one line. -/
def compactItems : List Json → List String
  | [] => []
  | value :: rest => value.compact :: compactItems rest

/-- The fields of an object on one line. -/
def compactFields : List (String × Json) → List String
  | [] => []
  | (key, value) :: rest => (quote key ++ ": " ++ value.compact) :: compactFields rest
end

/-- Items on lines of their own between brackets; nothing to show is written without a line. -/
def layOut (opening closing margin : String) (parts : List String) : String :=
  if parts.isEmpty then opening ++ closing
  else
    let inner := "\n" ++ margin ++ "  "
    opening ++ inner ++ ("," ++ inner).intercalate parts ++ "\n" ++ margin ++ closing

mutual
/-- A value over several lines, each level indented by two spaces. -/
def prettyAt (margin : String) : Json → String
  | arr items => layOut "[" "]" margin (prettyItems (margin ++ "  ") items)
  | obj fields => layOut "\x7b" "\x7d" margin (prettyFields (margin ++ "  ") fields)
  | value => value.scalarText

/-- The items of an array over several lines. -/
def prettyItems (margin : String) : List Json → List String
  | [] => []
  | value :: rest => value.prettyAt margin :: prettyItems margin rest

/-- The fields of an object over several lines. -/
def prettyFields (margin : String) : List (String × Json) → List String
  | [] => []
  | (key, value) :: rest =>
    (quote key ++ ": " ++ value.prettyAt margin) :: prettyFields margin rest
end

/-- A value over several lines. -/
def pretty (value : Json) : String := value.prettyAt ""

end Blueprint.Json
