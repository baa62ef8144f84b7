import Blueprint.Json.Reader
import Blueprint.ServerCode.Grammar
import Blueprint.ServerCode.Printer

/-!
Values that server code can write down: what an initializer stands for, and the text of such a
value. An initializer is read as JSON and, if it is none, as an expression made of constants only.
-/

namespace Blueprint.ServerCode

/-- A value that can be written down. -/
inductive Literal where
  | none
  | ellipsis
  | bool (value : Bool)
  | int (value : Int)
  | float (value : Double)
  | complex (real imaginary : Double)
  | text (value : String)
  | bytes (value : List UInt8)
  | tuple (items : List Literal)
  | list (items : List Literal)
  | set (items : List Literal)
  | dict (entries : List (Literal × Literal))
  deriving Inhabited

namespace Literal

mutual

/-- The value of a JSON value. -/
def ofJson : Json → Literal
  | .null => none
  | .bool value => bool value
  | .int value => int value
  | .float value => float value
  | .str value => text value
  | .arr items => list (ofJsonItems items)
  | .obj fields => dict (ofJsonFields fields)

def ofJsonItems : List Json → List Literal
  | [] => []
  | item :: items => ofJson item :: ofJsonItems items

def ofJsonFields : List (String × Json) → List (Literal × Literal)
  | [] => []
  | (key, value) :: fields => (text key, ofJson value) :: ofJsonFields fields

end

/-- The number of a value, as its parts; true and false count as one and zero. -/
inductive Number where
  | int (value : Int)
  | float (value : Double)
  | complex (real imaginary : Double)

/-- The number of a value. -/
def number? : Literal → Option Number
  | bool value => some (.int (if value then 1 else 0))
  | int value => some (.int value)
  | float value => some (.float value)
  | complex real imaginary => some (.complex real imaginary)
  | _ => Option.none

/-- Numbers are equal by value, whatever their kinds. -/
def Number.same : Number → Number → Bool
  | .int a, .int b => a == b
  | .int a, .float b | .float b, .int a => b.compareInt? a == some .eq
  | .float a, .float b => a.equal b
  | .int a, .complex re im | .complex re im, .int a =>
    re.compareInt? a == some .eq && im.equal (.zero false)
  | .float a, .complex re im | .complex re im, .float a => re.equal a && im.equal (.zero false)
  | .complex a b, .complex c d => a.equal c && b.equal d

mutual

/-- Two values are equal as keys. -/
def same : Literal → Literal → Bool
  | none, none | ellipsis, ellipsis => true
  | text a, text b => a == b
  | bytes a, bytes b => a == b
  | tuple as, tuple bs => sameItems as bs
  | a, b => match a.number?, b.number? with
    | some x, some y => x.same y
    | _, _ => false

def sameItems : List Literal → List Literal → Bool
  | [], [] => true
  | a :: as, b :: bs => same a b && sameItems as bs
  | _, _ => false

end

mutual

/-- The value can be a key or a member of a set. -/
def isKey : Literal → Bool
  | list _ | set _ | dict _ => false
  | tuple items => areKeys items
  | _ => true

def areKeys : List Literal → Bool
  | [] => true
  | item :: items => isKey item && areKeys items

end

/-- Adds a member to a set unless an equal one is there. -/
def insert (member : Literal) (members : List Literal) : List Literal :=
  if members.any (same member) then members else members ++ [member]

/-- Writes an entry of a dictionary; an equal key keeps its place and takes the value. -/
def write (key value : Literal) : List (Literal × Literal) → List (Literal × Literal)
  | [] => [(key, value)]
  | entry :: rest =>
    if same entry.1 key then (entry.1, value) :: rest else entry :: write key value rest

/-- Why an expression is no literal. -/
inductive Refusal where
  /-- It is not made of constants. -/
  | notConstant
  /-- A list, a set or a dictionary is used as a key. -/
  | notAKey
  /-- An integer beyond all decimals is added to an imaginary number. -/
  | tooLarge
  deriving DecidableEq, Repr

/-- The value of a constant. -/
def ofConstant : Constant → Literal
  | .none => none
  | .ellipsis => ellipsis
  | .bool value => bool value
  | .int value => int value
  | .float value => float value
  | .imaginary value => complex (.zero false) value
  | .text value _ => text value
  | .bytes value => bytes value

/-- The number of a numeric constant. -/
def numberOf : Expr → Except Refusal Literal
  | .constant (.int value) => .ok (int value)
  | .constant (.float value) => .ok (float value)
  | .constant (.imaginary value) => .ok (complex (.zero false) value)
  | _ => .error .notConstant

/-- The number with the other sign. -/
def negative : Literal → Literal
  | int value => int (-value)
  | float value => float value.negate
  | complex real imaginary => complex real.negate imaginary.negate
  | other => other

/-- The number of a numeric constant with at most one sign. -/
def signedNumber : Expr → Except Refusal Literal
  | .unary .plus operand => numberOf operand
  | .unary .minus operand => (numberOf operand).map negative
  | other => numberOf other

/-- A zero that has lost its sign in a sum. -/
def unsignedZero : Double → Double
  | .finite true 0 exponent fits => .finite false 0 exponent fits
  | value => value

/-- The real part that a number is in a sum. -/
def realPart : Literal → Except Refusal Double
  | int value =>
    match Double.ofInt value with
    | .infinite _ => .error .tooLarge
    | real => .ok real
  | float value => .ok value
  | _ => .error .notConstant

/-- The sum or difference of a real and an imaginary number. -/
def complexSum (left : Literal) (plus : Bool) (right : Literal) : Except Refusal Literal :=
  match right with
  | complex _ imaginary =>
    (realPart left).map fun real =>
      if plus then complex (unsignedZero real) (unsignedZero imaginary)
      else complex real (unsignedZero imaginary.negate)
  | _ => .error .notConstant

/-- The hash of a whole number: its remainder by a prime, with its sign; minus one is set apart. -/
def hash? : Literal → Option Int
  | bool value => some (if value then 1 else 0)
  | int value =>
    let hash : Int := value.sign * (value.natAbs % (Nat.pow 2 61 - 1) : Nat)
    some (if hash == -1 then -2 else hash)
  | _ => Option.none

/-- The first free place among those that are tried: a place with the nine behind it, if there are
as many, and then one that the rest of the hash takes part in choosing. -/
def freePlace? (table : List (Option Literal)) : Nat → Nat → Nat → Option Nat
  | 0, _, _ => Option.none
  | fuel + 1, rest, place =>
    let tried := List.range' place (if place + 9 < table.length then 10 else 1)
    match tried.find? fun place => table[place]?.any Option.isNone with
    | some free => some free
    | Option.none =>
      freePlace? table fuel (rest / 32) ((place * 5 + 1 + rest / 32) % table.length)

/-- Puts a member at a free place of a table. -/
def place (table : List (Option Literal)) (member : Literal) : List (Option Literal) :=
  let hash := (hash? member).getD 0
  match freePlace? table (table.length + 16) (hash % (Nat.pow 2 64 : Nat)).toNat
      (hash % table.length).toNat with
  | some free => table.set free (some member)
  | Option.none => table ++ [some member]

/-- Adds a member to a table. One that is three fifths full gives way to a larger one. -/
def enter (table : List (Option Literal)) (member : Literal) : List (Option Literal) :=
  let table := place table member
  let members := table.filterMap id
  if members.length * 5 < (table.length - 1) * 3 then table
  else
    let size := Nat.pow 2 (Nat.log2 (members.length * 4) + 1)
    members.foldl place (List.replicate size Option.none)

/-- The members of a set in the order in which they are shown: whole numbers in the order of their
places, others as they came. -/
def shown (members : List Literal) : List Literal :=
  if members.all fun member => (hash? member).isSome then
    (members.foldl enter (List.replicate 8 Option.none)).filterMap id
  else members

mutual

/-- The value of an expression that is made of constants. -/
def ofExpr : Expr → Except Refusal Literal
  | .constant value => .ok (ofConstant value)
  | .tuple items => (ofExprs items).map tuple
  | .list items => (ofExprs items).map list
  | .set items => (ofMembers [] items).map fun members => set (shown members)
  | .dict entries => (ofEntries [] entries).map dict
  | .call (.name "set") [] [] => .ok (set [])
  | .binary left operator right =>
    if operator == .add || operator == .subtract then do
      complexSum (← signedNumber left) (operator == .add) (← numberOf right)
    else .error .notConstant
  | other => signedNumber other

def ofExprs : List Expr → Except Refusal (List Literal)
  | [] => .ok []
  | item :: items => do
    let first ← ofExpr item
    let rest ← ofExprs items
    return first :: rest

/-- The members of a set, in order, behind those it has. -/
def ofMembers (members : List Literal) : List Expr → Except Refusal (List Literal)
  | [] => .ok members
  | item :: items => do
    let member ← ofExpr item
    if member.isKey then ofMembers (insert member members) items else .error .notAKey

/-- The entries of a dictionary, in order, behind those it has. -/
def ofEntries (written : List (Literal × Literal)) :
    List DictEntry → Except Refusal (List (Literal × Literal))
  | [] => .ok written
  | .pair key value :: entries => do
    let key ← ofExpr key
    let value ← ofExpr value
    if key.isKey then ofEntries (write key value written) entries else .error .notAKey
  | .spread _ :: _ => .error .notConstant

end

/-- The text of a complex number. -/
def complexText (real imaginary : Double) : String :=
  match real with
  | .finite false 0 .. => imaginary.shortText ++ "j"
  | _ =>
    let sign := if imaginary.isNegative then "" else "+"
    "(" ++ real.shortText ++ sign ++ imaginary.shortText ++ "j)"

mutual

/-- The text of a value. -/
def print : Literal → String
  | none => "None"
  | ellipsis => "Ellipsis"
  | bool true => "True"
  | bool false => "False"
  | int value => toString value
  | float value => value.text
  | complex real imaginary => complexText real imaginary
  | text value => Text.quoted value
  | bytes value => Text.quotedBytes value
  | tuple items => match items with
    | [item] => "(" ++ print item ++ ",)"
    | items => "(" ++ ", ".intercalate (printAll items) ++ ")"
  | list items => "[" ++ ", ".intercalate (printAll items) ++ "]"
  | set items =>
    if items.isEmpty then "set()"
    else "\x7b" ++ ", ".intercalate (printAll items) ++ "\x7d"
  | dict entries => "\x7b" ++ ", ".intercalate (printEntries entries) ++ "\x7d"

def printAll : List Literal → List String
  | [] => []
  | item :: items => print item :: printAll items

def printEntries : List (Literal × Literal) → List String
  | [] => []
  | (key, value) :: entries => (print key ++ ": " ++ print value) :: printEntries entries

end

/-- The expression of a number that is not below zero; one too large for digits goes by a name. -/
def magnitudeExpr : Double → Expr
  | .nan => .name "nan"
  | .infinite _ => .name "inf"
  | value => .constant (.float value)

/-- An expression, with a minus sign if it stands for the opposite. -/
def signed (negative : Bool) (value : Expr) : Expr :=
  if negative then .unary .minus value else value

/-- The number without its sign. -/
def unsigned (value : Double) : Double := if value.isNegative then value.negate else value

/-- The real part of a complex number, as an integer if its text is one. -/
def realExpr (value : Double) : Expr :=
  let magnitude := unsigned value
  signed value.isNegative <|
    match magnitude.whole? with
    | some whole => .constant (.int whole)
    | Option.none => magnitudeExpr magnitude

/-- The imaginary part of a complex number without its sign. -/
def imaginaryExpr : Double → Expr
  | .nan => .name "nanj"
  | .infinite _ => .name "infj"
  | value => .constant (.imaginary value)

/-- The expression of a complex number. -/
def complexExpr (real imaginary : Double) : Expr :=
  let magnitude := imaginaryExpr (unsigned imaginary)
  match real with
  | .finite false 0 .. => signed imaginary.isNegative magnitude
  | _ =>
    .binary (realExpr real) (if imaginary.isNegative then .subtract else .add) magnitude

mutual

/-- The expression that a value's text is. -/
def toExpr : Literal → Expr
  | none => .constant .none
  | ellipsis => .name "Ellipsis"
  | bool value => .constant (.bool value)
  | int value => signed (value < 0) (.constant (.int value.natAbs))
  | float value => signed value.isNegative (magnitudeExpr (unsigned value))
  | complex real imaginary => complexExpr real imaginary
  | text value => .constant (.text value false)
  | bytes value => .constant (.bytes value)
  | tuple items => .tuple (toExprs items)
  | list items => .list (toExprs items)
  | set items => match items with
    | [] => .call (.name "set") [] []
    | items => .set (toExprs items)
  | dict entries => .dict (toEntries entries)

def toExprs : List Literal → List Expr
  | [] => []
  | item :: items => toExpr item :: toExprs items

def toEntries : List (Literal × Literal) → List DictEntry
  | [] => []
  | (key, value) :: entries => .pair (toExpr key) (toExpr value) :: toEntries entries

end

mutual

/-- No integer in a value has too many digits to be written. -/
def hasDigits : Literal → Bool
  | int value => (Nat.toDigits 10 value.natAbs).length ≤ mostDigits
  | tuple items | list items | set items => haveDigits items
  | dict entries => entriesHaveDigits entries
  | _ => true

def haveDigits : List Literal → Bool
  | [] => true
  | item :: items => hasDigits item && haveDigits items

def entriesHaveDigits : List (Literal × Literal) → Bool
  | [] => true
  | (key, value) :: entries => hasDigits key && hasDigits value && entriesHaveDigits entries

end

/-- The text of a value, if it can be written. -/
def written (value : Literal) : Except Failure String :=
  if value.hasDigits then .ok value.print
  else
    .error (.badValue ("Exceeds the limit (4300 digits) for integer string conversion; " ++
      "use sys.set_int_max_str_digits() to increase the limit"))

/-- A value as text: a text as it is, any other as it is written. -/
def plain : Literal → String
  | text value => value
  | other => other.print

/-- The failure that a refusal is. An expression that is not made of constants is none: it has no
value. -/
def Refusal.failure? : Refusal → Option Failure
  | .notConstant => Option.none
  | .notAKey => some .wrongType
  | .tooLarge => some (.raised "OverflowError" "int too large to convert to float")

/-- The value of an initializer. None for a text that is no literal; a failure if something is used
as a key that cannot be one, or an integer is too large for a sum. -/
def ofText (initializer : String) : Except Failure (Option Literal) :=
  match Json.parse? initializer with
  | some value => .ok (some (ofJson value))
  | Option.none =>
    let trimmed := String.ofList (initializer.toList.dropWhile Text.isIndent)
    match readExpr trimmed with
    | .error _ => .ok Option.none
    | .ok value => match ofExpr value with
      | .ok literal => .ok (some literal)
      | .error refusal => match refusal.failure? with
        | some failure => .error failure
        | Option.none => .ok Option.none

end Literal

end Blueprint.ServerCode
