import Blueprint.Text.CharTables
import Blueprint.Json.Basic

namespace Blueprint.Text

open Blueprint.Json (hexDigits)

/-- A character that is shown as it is. -/
def isPrintable (c : Char) : Bool :=
  if c.toNat < 0x80 then 0x20 ≤ c.toNat && c.toNat < 0x7f else printableRanges.has c

/-- The escape of a character by its number, as short as the number allows. -/
def numberEscape (c : Char) : List Char :=
  let n := c.toNat
  if n < 0x100 then '\\' :: 'x' :: hexDigits 2 n
  else if n < 0x10000 then '\\' :: 'u' :: hexDigits 4 n
  else '\\' :: 'U' :: hexDigits 8 n

/-- A character with a backslash before it where one is needed, quotes apart. -/
def visible (c : Char) : List Char :=
  match c with
  | '\\' => ['\\', '\\']
  | '\n' => ['\\', 'n']
  | '\r' => ['\\', 'r']
  | '\t' => ['\\', 't']
  | c => if isPrintable c then [c] else numberEscape c

/-- The quote for a text: double only when that saves an escape. -/
def quoteFor (text : List Char) : Char :=
  if text.contains '\'' && !text.contains '"' then '"' else '\''

/-- A text between quotes. -/
def quotedChars (text : List Char) : List Char :=
  let quote := quoteFor text
  quote :: text.flatMap (fun c => if c == quote then ['\\', c] else visible c) ++ [quote]

/-- A text between quotes. -/
def quoted (text : String) : String := String.ofList (quotedChars text.toList)

/-- A byte inside quotes. -/
def visibleByte (byte : UInt8) : List Char :=
  let c := Char.ofNat byte.toNat
  if byte < 0x80 then
    match c with
    | '\\' | '\n' | '\r' | '\t' => visible c
    | c => if isPrintable c then [c] else '\\' :: 'x' :: hexDigits 2 byte.toNat
  else '\\' :: 'x' :: hexDigits 2 byte.toNat

/-- Bytes between quotes, with their mark. -/
def quotedBytes (bytes : List UInt8) : String :=
  let quote := quoteFor (bytes.map fun byte => Char.ofNat byte.toNat)
  String.ofList ('b' :: quote ::
    bytes.flatMap (fun byte =>
      if byte.toNat == quote.toNat then ['\\', quote] else visibleByte byte) ++ [quote])

end Blueprint.Text
