import Blueprint.Json.Basic

/-!
Plain values compared by what they stand for. Numbers of all kinds are equal when their exact values
are, true and false count as one and zero, and objects are equal whatever the order of their fields.
Some values are never ordered: a text beside a number, or two different objects.
-/

namespace Blueprint

/-- The exact value of a number: a fraction in lowest terms or an infinity. -/
inductive Quantity where
  | ratio (num : Int) (den : Nat)
  | infinite (negative : Bool)
  deriving DecidableEq, Repr

namespace Quantity

/-- A fraction in lowest terms. -/
def ofRatio (num : Int) (den : Nat) : Quantity :=
  ratio (num / Int.gcd num den) (den / Int.gcd num den)

/-- The value of an integer. -/
def ofInt (value : Int) : Quantity := ratio value 1

/-- The value of a double; a number that is none has no value. -/
def ofDouble? : Double → Option Quantity
  | .nan => none
  | .infinite negative => some (infinite negative)
  | value => value.ratio?.map fun fraction => ofRatio fraction.1 fraction.2

/-- The order of exact values. -/
def order : Quantity → Quantity → Ordering
  | ratio a b, ratio c d => compare (a * d) (c * b)
  | ratio .., infinite negative => if negative then .gt else .lt
  | infinite negative, ratio .. => if negative then .lt else .gt
  | infinite a, infinite b => compare b.toNat a.toNat

end Quantity

namespace Json

/-- The exact value of a number. -/
def quantity? : Json → Option Quantity
  | bool value => some (Quantity.ofInt (if value then 1 else 0))
  | int value => some (Quantity.ofInt value)
  | float value => Quantity.ofDouble? value
  | _ => none

mutual

/-- Two values stand for the same. -/
def same : Json → Json → Bool
  | null, null => true
  | str a, str b => a == b
  | arr as, arr bs => sameItems as bs
  | obj as, obj bs => as.length == bs.length && sameFields as bs
  | a, b => match a.quantity?, b.quantity? with
    | some x, some y => x == y
    | _, _ => false
termination_by first => (sizeOf first, 0)

def sameItems : List Json → List Json → Bool
  | [], [] => true
  | a :: as, b :: bs => same a b && sameItems as bs
  | _, _ => false
termination_by first => (sizeOf first, 0)

/-- Every field of the first has the same value in the second. -/
def sameFields : List (String × Json) → List (String × Json) → Bool
  | [], _ => true
  | (key, value) :: rest, others =>
    sameField key value others && sameFields rest others
termination_by first => (sizeOf first, 0)

/-- The field that comes first under a key has a value. -/
def sameField (key : String) (value : Json) : List (String × Json) → Bool
  | [] => false
  | (other, given) :: rest => if other == key then same value given else sameField key value rest
termination_by others => (sizeOf value, sizeOf others)

end

/-- The kinds of values in order; all numbers are of one kind. -/
def kindRank : Json → Nat
  | null => 0
  | bool _ | int _ | float _ => 1
  | str _ => 2
  | arr _ => 3
  | obj _ => 4

mutual

/-- The order of values, total on every kind: kinds by rank, then numbers by value, texts by code
point and lists by their first difference. -/
def order : Json → Json → Ordering
  | str a, str b => compareOfLessAndEq a b
  | arr as, arr bs => orderItems as bs
  | a, b => match a.quantity?, b.quantity? with
    | some x, some y => x.order y
    | _, _ => compare a.kindRank b.kindRank

def orderItems : List Json → List Json → Ordering
  | [], [] => .eq
  | [], _ :: _ => .lt
  | _ :: _, [] => .gt
  | a :: as, b :: bs => if same a b then orderItems as bs else order a b

end

mutual

/-- The order of two values may be asked for: they are the same, numbers or texts both, or lists
whose first difference may be ordered. -/
def comparable : Json → Json → Bool
  | str _, str _ => true
  | arr as, arr bs => comparableItems as bs
  | a, b => same a b || (a.kindRank == 1 && b.kindRank == 1)

def comparableItems : List Json → List Json → Bool
  | a :: as, b :: bs => if same a b then comparableItems as bs else comparable a b
  | _, _ => true

end

end Json

end Blueprint
