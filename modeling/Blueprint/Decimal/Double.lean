/-!
Numbers in double precision as exact fractions: a mantissa below 2⁵³ times a power of two. Decimals
are read to the nearest such number, a tie going to the even mantissa. The text of a double has the
fewest decimal digits that are read back as the same number, and is among those the nearest.
Exponents from -4 to 15 are written out; the others follow a mark.
-/

/-- Whole numbers of more digits are neither read nor written in base ten. -/
def Blueprint.mostDigits : Nat := 4300

namespace Blueprint.Double

/-- The least exponent of a finite number. -/
def minExponent : Int := -1074

/-- The greatest exponent of a finite number. -/
def maxExponent : Int := 971

/-- The least mantissa of a number that is not close to zero: two to the power of 52. -/
def leastNormal : Nat := 4503599627370496

/-- A mantissa and an exponent that a finite number can have. Every number has one such pair: only
the least exponent goes with small mantissas. -/
def Fits (mantissa : Nat) (exponent : Int) : Prop :=
  mantissa < 2 * leastNormal ∧ minExponent ≤ exponent ∧ exponent ≤ maxExponent ∧
    (leastNormal ≤ mantissa ∨ exponent = minExponent)

instance (mantissa : Nat) (exponent : Int) : Decidable (Fits mantissa exponent) :=
  inferInstanceAs (Decidable (_ ∧ _ ∧ _ ∧ _))

end Blueprint.Double

namespace Blueprint

/-- A number in double precision; a finite one stands for `mantissa * 2 ^ exponent`. -/
inductive Double where
  | nan
  | infinite (negative : Bool)
  | finite (negative : Bool) (mantissa : Nat) (exponent : Int)
      (fits : Double.Fits mantissa exponent)
  deriving DecidableEq, Repr

namespace Double

/-- Zero with a sign. -/
def zero (negative : Bool) : Double := finite negative 0 minExponent (by decide)

/-- The quotient of two naturals to the nearest natural, a tie going to the even one. -/
def roundDiv (num den : Nat) : Nat :=
  let q := num / den
  let r := num % den
  if 2 * r < den then q
  else if den < 2 * r then q + 1
  else if q % 2 == 0 then q else q + 1

/-- The fraction `num / den` divided by `2 ^ exponent`, as a fraction. -/
def scaled (num den : Nat) (exponent : Int) : Nat × Nat :=
  if exponent < 0 then (num * Nat.pow 2 (-exponent).toNat, den)
  else (num, den * Nat.pow 2 exponent.toNat)

/-- The exponent at which `num / den` has a mantissa of 53 bits, or the least one if that is
greater. -/
def exponentOf (num den : Nat) : Int :=
  let guess : Int := (Nat.log2 num : Int) - Nat.log2 den - 52
  let fraction := scaled num den guess
  max (if fraction.1 < leastNormal * fraction.2 then guess - 1 else guess) minExponent

/-- The double of a rounded mantissa, which may have reached the next power of two. A number beyond
the greatest exponent is infinite. -/
def ofParts (negative : Bool) (mantissa : Nat) (exponent : Int) : Double :=
  let carried := mantissa == 2 * leastNormal
  let mantissa := if carried then leastNormal else mantissa
  let exponent := if carried then exponent + 1 else exponent
  if fits : Fits mantissa exponent then finite negative mantissa exponent fits
  else infinite negative

/-- The double nearest to `num / den`. -/
def ofRatio (negative : Bool) (num den : Nat) : Double :=
  if num == 0 then zero negative
  else
    let exponent := exponentOf num den
    let fraction := scaled num den exponent
    ofParts negative (roundDiv fraction.1 fraction.2) exponent

/-- The double nearest to `digits * 10 ^ exponent`. Exponents far out of range are decided without
computing the power. -/
def ofDecimal (negative : Bool) (digits : Nat) (exponent : Int) : Double :=
  if digits == 0 then zero negative
  else
    let size : Int := (Nat.toDigits 10 digits).length
    if size + exponent > 310 then infinite negative
    else if size + exponent < -330 then zero negative
    else if exponent < 0 then ofRatio negative digits (Nat.pow 10 (-exponent).toNat)
    else ofRatio negative (digits * Nat.pow 10 exponent.toNat) 1

/-- The double nearest to an integer. -/
def ofInt (n : Int) : Double := ofRatio (n < 0) n.natAbs 1

/-- The value of a finite double as a fraction. -/
def ratio? : Double → Option (Int × Nat)
  | finite negative mantissa exponent _ =>
    let magnitude : Nat × Nat :=
      if exponent < 0 then (mantissa, Nat.pow 2 (-exponent).toNat)
      else (mantissa * Nat.pow 2 exponent.toNat, 1)
    some (if negative then -(magnitude.1 : Int) else magnitude.1, magnitude.2)
  | _ => none

/-- The integer that a double is equal to. -/
def toInt? (x : Double) : Option Int :=
  x.ratio?.bind fun fraction =>
    if fraction.1 % fraction.2 == 0 then some (fraction.1 / fraction.2) else none

/-- The sign is set. -/
def isNegative : Double → Bool
  | nan => false
  | infinite negative => negative
  | finite negative .. => negative

/-- The number with the other sign. -/
def negate : Double → Double
  | nan => nan
  | infinite negative => infinite (!negative)
  | finite negative mantissa exponent fits => finite (!negative) mantissa exponent fits

/-- Compares by value; there is no answer for a number that is none. -/
def compare? : Double → Double → Option Ordering
  | nan, _ | _, nan => none
  | infinite a, infinite b => some (compare b.toNat a.toNat)
  | infinite a, finite .. => some (if a then .lt else .gt)
  | finite .., infinite b => some (if b then .gt else .lt)
  | x@(finite ..), y@(finite ..) =>
    match x.ratio?, y.ratio? with
    | some (a, b), some (c, d) => some (compare (a * d) (c * b))
    | _, _ => none

/-- Compares an integer with a double by value. -/
def compareInt? (n : Int) : Double → Option Ordering
  | nan => none
  | infinite negative => some (if negative then .gt else .lt)
  | x => x.ratio?.map fun fraction => compare (n * fraction.2) fraction.1

/-- Equal by value; zero has one value, and a number that is none equals nothing. -/
def equal (x y : Double) : Bool := x.compare? y == some .eq

end Double

end Blueprint

namespace Blueprint.Double

/-- Decimal digits `0.d₁d₂… * 10 ^ point`. -/
structure Digits where
  digits : Nat
  point : Int
  deriving DecidableEq, Repr

/-- The interval of reals that round to a finite double, in units of `1 / den`; its ends belong to
it when the mantissa is even. -/
structure Rounding where
  low : Nat
  value : Nat
  high : Nat
  den : Nat
  closed : Bool

/-- The interval of a positive double. Below a power of two the gap is half as wide. -/
def rounding (mantissa : Nat) (exponent : Int) : Rounding :=
  let unit := exponent - 2
  let scale := if unit < 0 then 1 else Nat.pow 2 unit.toNat
  let below := if mantissa == leastNormal && minExponent < exponent then 1 else 2
  { low := (4 * mantissa - below) * scale
    value := 4 * mantissa * scale
    high := (4 * mantissa + 2) * scale
    den := if unit < 0 then Nat.pow 2 (-unit).toNat else 1
    closed := mantissa % 2 == 0 }

/-- The number `digits * 10 ^ place` lies in the interval. -/
def Rounding.holds (r : Rounding) (digits : Nat) (place : Int) : Bool :=
  let num := if place < 0 then digits else digits * Nat.pow 10 place.toNat
  let den := if place < 0 then Nat.pow 10 (-place).toNat else 1
  let a := r.low * den
  let x := num * r.den
  let b := r.high * den
  if r.closed then a ≤ x && x ≤ b else a < x && x < b

/-- The best number on the grid of `10 ^ place`, if one of the value's two neighbours lies in the
interval. -/
def Rounding.onGrid? (r : Rounding) (place : Int) : Option Nat :=
  let num := if place < 0 then r.value * Nat.pow 10 (-place).toNat else r.value
  let den := if place < 0 then r.den else r.den * Nat.pow 10 place.toNat
  let below := num / den
  match r.holds below place && below != 0, r.holds (below + 1) place with
  | true, true => some (roundDiv num den)
  | true, false => some below
  | false, true => some (below + 1)
  | false, false => none

/-- The power of ten above a fraction that is not below `10 ^ -330`: the least `k` with
`num / den < 10 ^ k`. -/
def magnitude (num den : Nat) : Int :=
  (Nat.toDigits 10 (num * Nat.pow 10 330 / den)).length - 330

/-- Tries grids of more and more digits. -/
def Rounding.shortestFrom (r : Rounding) (top : Int) : Nat → Nat → Digits
  | 0, count => ⟨(r.value * Nat.pow 10 (count - top).toNat) / r.den, top⟩
  | fuel + 1, count =>
    match r.onGrid? (top - count) with
    | some digits =>
      if digits == Nat.pow 10 count then ⟨1, top + 1⟩ else ⟨digits, top⟩
    | none => r.shortestFrom top fuel (count + 1)

/-- The shortest digits of a positive double. -/
def shortest (mantissa : Nat) (exponent : Int) : Digits :=
  let r := rounding mantissa exponent
  r.shortestFrom (magnitude r.value r.den) 17 1

/-- How many digits there are. -/
def Digits.size (d : Digits) : Nat := (Nat.toDigits 10 d.digits).length

/-- The whole number that digits stand for, if its digits are written out. -/
def Digits.whole? (d : Digits) : Option Nat :=
  if d.size ≤ d.point ∧ d.point ≤ 16 then
    some (d.digits * Nat.pow 10 (d.point - d.size).toNat)
  else none

/-- Digits written out around the point, or with an exponent of at least two digits. -/
def Digits.text (d : Digits) : List Char :=
  let ds := Nat.toDigits 10 d.digits
  match d.whole? with
  | some whole => Nat.toDigits 10 whole ++ ['.', '0']
  | none =>
    if d.point ≤ -4 || 16 < d.point then
      let e := d.point - 1
      let mark := Nat.toDigits 10 e.natAbs
      let front := match ds with
        | [] => []
        | [c] => [c]
        | c :: rest => c :: '.' :: rest
      front ++ 'e' :: (if e < 0 then '-' else '+') ::
        (if mark.length < 2 then '0' :: mark else mark)
    else if d.point ≤ 0 then '0' :: '.' :: List.replicate (-d.point).toNat '0' ++ ds
    else ds.take d.point.toNat ++ '.' :: ds.drop d.point.toNat

/-- The whole number, without its sign, that the text of a double stands for. -/
def whole? : Double → Option Nat
  | finite _ 0 _ _ => some 0
  | finite _ mantissa exponent _ => (shortest mantissa exponent).whole?
  | _ => none

/-- The text of a double without its sign. -/
def unsignedText : Double → List Char
  | nan => ['n', 'a', 'n']
  | infinite _ => ['i', 'n', 'f']
  | finite _ 0 _ _ => ['0', '.', '0']
  | finite _ mantissa exponent _ => (shortest mantissa exponent).text

/-- A text behind the sign of a double. -/
def withSign (x : Double) (text : List Char) : List Char :=
  if x.isNegative then '-' :: text else text

/-- The text of a double. -/
def text (x : Double) : String := String.ofList (x.withSign x.unsignedText)

/-- The text of a double without its sign; a whole number goes without a fraction. -/
def unsignedShort (x : Double) : List Char :=
  match x.whole? with
  | some whole => Nat.toDigits 10 whole
  | none => x.unsignedText

/-- The text of a double; a whole number goes without a fraction. -/
def shortText (x : Double) : String := String.ofList (x.withSign x.unsignedShort)

end Blueprint.Double
