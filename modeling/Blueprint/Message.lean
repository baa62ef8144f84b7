import Blueprint.ServerCode.Literal

/-!
Messages with places for values. A place starts with a percent sign and ends with a letter that says
how its value is shown: as text, as written, or as a whole number in some base. Between them may
stand flags, a width and a precision.
-/

namespace Blueprint.Message

open ServerCode

/-- A place of a message as far as it has been read. -/
structure Place where
  left : Bool := false
  zeros : Bool := false
  plus : Bool := false
  blank : Bool := false
  marked : Bool := false
  width : Nat := 0
  precision : Option Nat := none
  /-- A width or precision has begun, so that no flag may follow. -/
  sized : Bool := false

namespace Place

/-- Fills a text up to the width of its place. -/
def pad (place : Place) (text : List Char) : List Char :=
  let filling := List.replicate (place.width - text.length) ' '
  if place.left then text ++ filling else filling ++ text

/-- The digits of a number in a base. -/
def digitsOf (base n : Nat) : List Char := Nat.toDigits base n

/-- A whole number in its place: sign, mark of the base, digits. -/
def number (place : Place) (value : Int) (mark digits : List Char) : List Char :=
  let sign := if value < 0 then ['-'] else if place.plus then ['+'] else if place.blank then [' ']
    else []
  let digits := List.replicate (place.precision.getD 0 - digits.length) '0' ++ digits
  let front := sign ++ (if place.marked then mark else [])
  if place.zeros && !place.left then
    front ++ List.replicate (place.width - front.length - digits.length) '0' ++ digits
  else place.pad (front ++ digits)

/-- A text in its place. -/
def text (place : Place) (value : String) : List Char :=
  place.pad (match place.precision with
    | some limit => value.toList.take limit
    | none => value.toList)

/-- The whole number that a value is, or that it is cut to. -/
def whole? (cut : Bool) : Literal → Option Int
  | .bool value => some (if value then 1 else 0)
  | .int value => some value
  | .float value =>
    if cut then value.ratio?.map fun fraction => Int.tdiv fraction.1 fraction.2 else none
  | _ => none

/-- A whole number in a base. -/
def inBase (place : Place) (base : Nat) (cut : Bool) (mark : String)
    (change : List Char → List Char) (value : Literal) : Except Failure (List Char) :=
  match whole? cut value with
  | some value =>
    .ok (place.number value mark.toList (change (digitsOf base value.natAbs)))
  | none => .error .wrongType

/-- A decimal in its place with as many places after the point as its precision says, six by
default; a half goes to the even neighbour. -/
def fixed (place : Place) (value : Literal) : Except Failure (List Char) :=
  let number := match value with
    | .bool value => some (Double.ofInt (if value then 1 else 0))
    | .int value => some (Double.ofInt value)
    | .float value => some value
    | _ => none
  match number with
  | none => .error .wrongType
  | some number =>
    let negative := number.isNegative
    let places := place.precision.getD 6
    let digits := match number.ratio? with
      | some (num, den) =>
        let scaled := digitsOf 10 (Double.roundDiv (num.natAbs * Nat.pow 10 places) den)
        let padded := List.replicate (places + 1 - scaled.length) '0' ++ scaled
        let whole := padded.take (padded.length - places)
        if places == 0 && !place.marked then whole
        else whole ++ '.' :: padded.drop (padded.length - places)
      | none => (if number.text == "nan" then "nan" else "inf").toList
    let plain := { place with precision := none, marked := false }
    .ok (plain.number (if negative then -1 else 1) [] digits)

/-- A character in its place: a text of one, or the number of one. -/
def character (place : Place) : Literal → Except Failure (List Char)
  | .text value => match value.toList with
    | [c] => .ok (place.pad [c])
    | _ => .error .wrongType
  | value => match whole? false value with
    | some n => .ok (place.pad [Char.ofNat n.toNat])
    | none => .error .wrongType

/-- A value in its place. -/
def show? (place : Place) (kind : Char) (value : Literal) : Option (Except Failure (List Char)) :=
  match kind with
  | 's' => some (.ok (place.text value.plain))
  | 'r' | 'a' => some (.ok (place.text value.print))
  | 'd' | 'i' | 'u' => some (place.inBase 10 true "" id value)
  | 'x' => some (place.inBase 16 false "0x" id value)
  | 'X' => some (place.inBase 16 false "0X" (·.map Char.toUpper) value)
  | 'o' => some (place.inBase 8 false "0o" id value)
  | 'f' | 'F' => some (place.fixed value)
  | 'c' => some (place.character value)
  | _ => none

/-- Reads on inside a place; none for a letter that ends it. -/
def read? (place : Place) (c : Char) : Option Place :=
  if !place.sized && c == '-' then some { place with left := true }
  else if !place.sized && c == '0' then some { place with zeros := true }
  else if !place.sized && c == '+' then some { place with plus := true }
  else if !place.sized && c == ' ' then some { place with blank := true }
  else if !place.sized && c == '#' then some { place with marked := true }
  else if c.isDigit then
    let digit := c.toNat - '0'.toNat
    match place.precision with
    | some precision =>
      some { place with precision := some (10 * precision + digit), sized := true }
    | none => some { place with width := 10 * place.width + digit, sized := true }
  else if c == '.' && place.precision.isNone then
    some { place with precision := some 0, sized := true }
  else none

/-- The report of a letter that ends no place. -/
def unknownKind (kind : Char) (index : Nat) : Failure :=
  .badValue ("unsupported format character '" ++ String.singleton kind ++ "' (0x" ++
    String.ofList (digitsOf 16 kind.toNat) ++ ") at index " ++ toString index)

end Place

/-- Fills the places of a message. Every value has to be used. -/
def fillFrom (place : Option Place) (index : Nat) :
    List Char → List Literal → Except Failure (List Char)
  | [], values =>
    if place.isSome then .error (.badValue "incomplete format")
    else if values.isEmpty then .ok []
    else .error .wrongType
  | c :: rest, values =>
    match place with
    | none =>
      if c == '%' then fillFrom (some {}) (index + 1) rest values
      else (fillFrom none (index + 1) rest values).map (c :: ·)
    | some begun =>
      match begun.read? c with
      | some further => fillFrom (some further) (index + 1) rest values
      | none =>
        if c == '%' then (fillFrom none (index + 1) rest values).map ('%' :: ·)
        else match values with
          | [] => .error .wrongType
          | value :: values =>
            match begun.show? c value with
            | none => .error (Place.unknownKind c index)
            | some shown => do
              let text ← shown
              let others ← fillFrom none (index + 1) rest values
              return text ++ others

/-- A message with its values; one without values is left alone. -/
def fill (message : String) (values : List Literal) : Except Failure String :=
  if values.isEmpty then .ok message
  else (fillFrom none 0 message.toList values).map String.ofList

end Blueprint.Message
