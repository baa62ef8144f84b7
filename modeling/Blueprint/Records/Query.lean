import Blueprint.OrderedMap
import Blueprint.Records.Value
import Blueprint.Text.Case
import Blueprint.Text.Quoted
import Blueprint.Validation

/-!
Records and the questions asked about them, and why a data source refuses to answer. A query keeps
the records that match every condition, puts them in the order of its clauses and cuts out a window
of the result.
-/

namespace Blueprint.Records

open Validation (Issue)

/-- Why a call fails. -/
inductive Fault where
  /-- An order clause names no field. -/
  | blankClause
  /-- Two values of an order field have no order. -/
  | incomparable
  /-- A value of the wrong kind. -/
  | wrongKind
  /-- Something that should have fields has none. -/
  | notFields
  /-- An order clause is not a text. -/
  | notClause
  /-- A filter or an order names a field that the entity lacks. -/
  | unknownField
  | unknownEntity (name : String)
  /-- A change writes to a field that the entity lacks. -/
  | unwritableField (entity field : String)
  /-- New records do not fit the entity. -/
  | invalid (issues : List Issue)
  /-- A rule of the table is broken: identities are unique and names present. -/
  | violated
  /-- A list or an object cannot be stored in a column. -/
  | unsupported
  /-- An integer does not fit into a column. -/
  | oversized
  /-- A limit or an offset does not spell an integer. -/
  | unreadableNumber (text : String)
  | unknownType (type source : String)
  deriving Repr

namespace Fault

/-- The name under which a fault is reported. -/
def kindName : Fault → String
  | blankClause => "IndexError"
  | incomparable | wrongKind => "TypeError"
  | notFields | notClause | unknownField => "AttributeError"
  | unknownEntity _ => "KeyError"
  | invalid _ => "ValidationError"
  | violated => "IntegrityError"
  | unsupported => "ProgrammingError"
  | oversized => "OverflowError"
  | unwritableField .. | unreadableNumber _ | unknownType .. => "ValueError"

/-- The wording of a fault; none for those that have only a name. -/
def message? : Fault → Option String
  | unknownEntity name => some (Text.quoted name)
  | unwritableField entity field => some s!"\"{entity}\" object has no field \"{field}\""
  | oversized => some "Python int too large to convert to SQLite INTEGER"
  | unreadableNumber text => some s!"invalid literal for int() with base 10: {Text.quoted text}"
  | unknownType type source => some s!"Unknown persistence type '{type}' for data source {source}"
  | _ => none

end Fault

/-- A record: its fields in the order in which they were written first. -/
abbrev Record := List (String × Json)

/-- The value of a field; an absent field is null. -/
def valueOf (record : Record) (field : String) : Json := (OrderedMap.get? field record).getD .null

/-- Conditions: fields with the values that they have to have. -/
abbrev Conditions := List (String × Json)

/-- The record has all the values that are asked for. -/
def Conditions.holds (conditions : Conditions) (record : Record) : Bool :=
  conditions.all fun condition => (valueOf record condition.1).same condition.2

/-- The conditions of a filter; what stands for no leaves all records. -/
def readConditions (filter : Json) : Except Fault Conditions :=
  match filter with
  | .obj conditions => .ok conditions
  | _ => if filter.isTruthy then .error .notFields else .ok []

/-- A clause of an order: a field and a direction. -/
structure Clause where
  field : String
  descending : Bool
  deriving DecidableEq, Repr

/-- Reads a clause: a field and, after it, the word that turns the order round. -/
def readClause : Json → Except Fault Clause
  | .str text =>
    match Text.fields text with
    | [] => .error .blankClause
    | field :: words => .ok ⟨field, (words.head?.map Text.upper) == some "DESC"⟩
  | _ => .error .notClause

/-- Reads an order: one clause, a list of them, or nothing. -/
def readOrder (order : Json) : Except Fault (List Clause) :=
  if !order.isTruthy then .ok []
  else match order with
    | .str _ => return [← readClause order]
    | .arr clauses => clauses.mapM readClause
    | .obj fields => fields.mapM fun field => readClause (.str field.1)
    | _ => .error .wrongKind

/-- A part of a list: what to skip, and how much to keep at most. -/
structure Window where
  offset : Int := 0
  limit : Option Int := none
  deriving DecidableEq, Repr

/-- A position in a list of a length; negative ones count from the end. -/
def position (length : Nat) (index : Int) : Nat :=
  if index < 0 then (index + length).toNat else min index.toNat length

/-- The items of a list from one position up to another. -/
def slice {α : Type} (start : Int) (stop : Option Int) (items : List α) : List α :=
  let upper := match stop with
    | some stop => position items.length stop
    | none => items.length
  (items.take upper).drop (position items.length start)

/-- The part of a list that a window shows. -/
def Window.cut {α : Type} (window : Window) (items : List α) : List α :=
  slice window.offset (window.limit.map (window.offset + ·)) items

/-- A whole number in a filter; what stands for no is absent. -/
def readIndex (value : Json) : Except Fault (Option Int) :=
  if !value.isTruthy then .ok none
  else match value with
    | .int n => .ok (some n)
    | .bool _ => .ok (some 1)
    | _ => .error .wrongKind

/-- Reads the window of a filter. -/
def readWindow (filter : Json) : Except Fault Window := do
  let offset ← readIndex (filter.get "offset")
  let limit ← readIndex (filter.get "limit")
  return ⟨offset.getD 0, limit⟩

/-- What is asked about the records of an entity. -/
structure Query where
  conditions : Conditions := []
  order : List Clause := []
  window : Window := {}

end Blueprint.Records
