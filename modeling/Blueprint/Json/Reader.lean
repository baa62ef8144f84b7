import Blueprint.Json.Basic
import Blueprint.OrderedMap
import Blueprint.Text.Replace

/-!
Reading JSON. Besides the standard's values the names `NaN`, `Infinity` and `-Infinity` are read as
decimals. A key given twice keeps its first place and takes its last value. Integers have a greatest
number of digits.
-/

namespace Blueprint.Json

open Blueprint.Text (after?)

/-- Drops the blanks that JSON allows between tokens. -/
def skipBlanks (text : List Char) : List Char :=
  text.dropWhile fun c => c == ' ' || c == '\t' || c == '\n' || c == '\r'

/-- The value of a hexadecimal digit. -/
def hexValue? (c : Char) : Option Nat :=
  if '0' ≤ c && c ≤ '9' then some (c.toNat - 48)
  else if 'a' ≤ c && c ≤ 'f' then some (c.toNat - 87)
  else if 'A' ≤ c && c ≤ 'F' then some (c.toNat - 55)
  else none

/-- Four hexadecimal digits and the text after them. -/
def hex4? : List Char → Option (Nat × List Char)
  | a :: b :: c :: d :: rest => do
    let a ← hexValue? a
    let b ← hexValue? b
    let c ← hexValue? c
    let d ← hexValue? d
    pure (((a * 16 + b) * 16 + c) * 16 + d, rest)
  | _ => none

/-- The character an escape after a backslash stands for. -/
def simpleEscape? : Char → Option Char
  | '"' => some '"'
  | '\\' => some '\\'
  | '/' => some '/'
  | 'b' => some '\x08'
  | 'f' => some '\x0c'
  | 'n' => some '\n'
  | 'r' => some '\r'
  | 't' => some '\t'
  | _ => none

/-- The characters of a string up to its closing quote, and the text after it. Two escapes that
form a surrogate pair stand for one character; half of a pair stands for none and is refused. -/
def readString? : Nat → List Char → List Char → Option (String × List Char)
  | 0, _, _ => none
  | _ + 1, _, [] => none
  | _ + 1, done, '"' :: rest => some (String.ofList done.reverse, rest)
  | fuel + 1, done, '\\' :: 'u' :: rest => do
    let (high, rest) ← hex4? rest
    let low? := if 0xd800 ≤ high && high < 0xdc00 then
        match rest with
        | '\\' :: 'u' :: more => (hex4? more).filter fun low => 0xdc00 ≤ low.1 && low.1 < 0xe000
        | _ => none
      else none
    match low? with
    | some (low, more) =>
      let code := 0x10000 + (high - 0xd800) * 0x400 + (low - 0xdc00)
      readString? fuel (Char.ofNat code :: done) more
    | none => if high.isValidChar then readString? fuel (Char.ofNat high :: done) rest else none
  | fuel + 1, done, '\\' :: c :: rest => do
    readString? fuel ((← simpleEscape? c) :: done) rest
  | fuel + 1, done, c :: rest =>
    if c.toNat < 0x20 || c == '\\' then none else readString? fuel (c :: done) rest

/-- The value of decimal digits. -/
def digitsValue (digits : List Char) : Nat :=
  digits.foldl (fun n c => n * 10 + (c.toNat - 48)) 0

/-- The exponent part of a number: its value and the text after it. -/
def readExponent? : List Char → Option (Int × List Char)
  | mark :: rest =>
    if mark == 'e' || mark == 'E' then
      let signed : Bool × List Char := match rest with
        | '-' :: more => (true, more)
        | '+' :: more => (false, more)
        | more => (false, more)
      match signed.2.takeWhile Char.isDigit with
      | [] => none
      | digits =>
        let value : Int := digitsValue digits
        some (if signed.1 then -value else value, signed.2.dropWhile Char.isDigit)
    else none
  | [] => none

/-- A number without its sign, and the text after it. -/
def readNumber? (negative : Bool) (text : List Char) : Option (Json × List Char) :=
  let whole := match text with
    | '0' :: _ => ['0']
    | _ => text.takeWhile Char.isDigit
  if whole.isEmpty then none
  else
    let rest := text.drop whole.length
    let fraction := match rest with
      | '.' :: more => more.takeWhile Char.isDigit
      | _ => []
    let rest := if fraction.isEmpty then rest else rest.drop (fraction.length + 1)
    let exponent := readExponent? rest
    if fraction.isEmpty && exponent.isNone then
      if mostDigits < whole.length then none
      else
        let value : Int := digitsValue whole
        some (int (if negative then -value else value), rest)
    else
      let power := (exponent.map (·.1)).getD 0
      some (float (Double.ofDecimal negative (digitsValue (whole ++ fraction))
        (power - fraction.length)), (exponent.map (·.2)).getD rest)

mutual
/-- One value and the text after it. -/
def readValue? : Nat → List Char → Option (Json × List Char)
  | 0, _ => none
  | fuel + 1, text =>
    match text with
    | '"' :: rest => do
      let (value, rest) ← readString? (rest.length + 1) [] rest
      pure (str value, rest)
    | '[' :: rest =>
      match skipBlanks rest with
      | ']' :: more => some (arr [], more)
      | more => readItems? fuel [] more
    | '{' :: rest =>
      match skipBlanks rest with
      | '}' :: more => some (obj [], more)
      | more => readFields? fuel [] more
    | '-' :: rest =>
      match after? "Infinity".toList rest with
      | some more => some (float (.infinite true), more)
      | none => readNumber? true rest
    | _ =>
      match after? "null".toList text, after? "true".toList text, after? "false".toList text,
          after? "NaN".toList text, after? "Infinity".toList text with
      | some rest, _, _, _, _ => some (null, rest)
      | _, some rest, _, _, _ => some (bool true, rest)
      | _, _, some rest, _, _ => some (bool false, rest)
      | _, _, _, some rest, _ => some (float .nan, rest)
      | _, _, _, _, some rest => some (float (.infinite false), rest)
      | _, _, _, _, _ => readNumber? false text

/-- The items of an array from its first one, with the items read so far in reverse. -/
def readItems? : Nat → List Json → List Char → Option (Json × List Char)
  | 0, _, _ => none
  | fuel + 1, done, text => do
    let (value, rest) ← readValue? fuel text
    match skipBlanks rest with
    | ',' :: more => readItems? fuel (value :: done) (skipBlanks more)
    | ']' :: more => some (arr (value :: done).reverse, more)
    | _ => none

/-- The fields of an object from its first key. -/
def readFields? : Nat → List (String × Json) → List Char → Option (Json × List Char)
  | 0, _, _ => none
  | fuel + 1, done, text =>
    match text with
    | '"' :: rest => do
      let (key, rest) ← readString? (rest.length + 1) [] rest
      match skipBlanks rest with
      | ':' :: more => do
        let (value, rest) ← readValue? fuel (skipBlanks more)
        let done := (key, value) :: done
        match skipBlanks rest with
        | ',' :: more => readFields? fuel done (skipBlanks more)
        | '}' :: more => some (obj (OrderedMap.ofList done.reverse), more)
        | _ => none
      | _ => none
    | _ => none
end

/-- The value of a JSON text. -/
def parse? (text : String) : Option Json := do
  let cs := text.toList
  let (value, rest) ← readValue? (2 * cs.length + 2) (skipBlanks cs)
  if (skipBlanks rest).isEmpty then some value else none

end Blueprint.Json
