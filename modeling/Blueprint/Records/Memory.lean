import Blueprint.Records.Query

/-!
Records kept in memory. Every entity has a table, made when it is first asked for, and a count of
the identities that it has given out. Absent values come last in an ascending order. Calls bring
filters and items as plain values, which are read before they reach a store, so that a store only
meets conditions, orders and records.
-/

namespace Blueprint.Records

/-- The order of values in memory: null is above everything. -/
def nullLast (a b : Json) : Ordering :=
  match a.isNull, b.isNull with
  | true, true => .eq
  | true, false => .gt
  | false, true => .lt
  | false, false => a.order b

/-- The first record may stand before the second under a clause. -/
def Clause.allows (clause : Clause) (a b : Record) : Bool :=
  let order := nullLast (valueOf a clause.field) (valueOf b clause.field)
  if clause.descending then order != .lt else order != .gt

/-- Every two values that are not null have an order. -/
def areComparable : List Json → Bool
  | [] => true
  | value :: rest =>
    rest.all (fun other => value.isNull || other.isNull || value.comparable other) &&
      areComparable rest

/-- Sorts by one clause; records that it does not tell apart keep their places. -/
def sortBy (clause : Clause) (records : List Record) : Except Fault (List Record) :=
  if areComparable (records.map (valueOf · clause.field)) then
    .ok (records.mergeSort clause.allows)
  else .error .incomparable

/-- Sorts by clauses, of which the first counts most: one sort after another, the last clause
first. -/
def sortByAll : List Clause → List Record → Except Fault (List Record)
  | [], records => .ok records
  | clause :: rest, records => do sortBy clause (← sortByAll rest records)

/-- The records that match, in the order of a table. -/
def select (conditions : Conditions) (table : List Record) : List Record :=
  table.filter conditions.holds

/-- The answer to a query over a table. -/
def Query.answer (query : Query) (table : List Record) : Except Fault (List Record) := do
  let sorted ← sortByAll query.order (select query.conditions table)
  return query.window.cut sorted

/-- A store: its tables in the order in which they were first asked for. -/
structure Store where
  /-- The identity fields of entities; others have the usual one. -/
  identityFields : List (String × String) := []
  tables : List (String × List Record) := []
  /-- How many identities each entity has given out. -/
  issued : List (String × Nat) := []

namespace Store

/-- The identity field of an entity. -/
def identityField (store : Store) (entity : String) : String :=
  (OrderedMap.get? entity store.identityFields).getD "id"

/-- The records of an entity. -/
def table (store : Store) (entity : String) : List Record :=
  (OrderedMap.get? entity store.tables).getD []

/-- Replaces the records of an entity. -/
def setTable (store : Store) (entity : String) (records : List Record) : Store :=
  { store with tables := OrderedMap.put entity records store.tables }

/-- Makes the table of an entity if there is none. -/
def touch (store : Store) (entity : String) : Store := store.setTable entity (store.table entity)

/-- The identities that an entity has given out. -/
def issuedBy (store : Store) (entity : String) : Nat := (OrderedMap.get? entity store.issued).getD 0

/-- A record with its identity, and the count after it: a record without one is given the next. -/
def identified (field : String) (issued : Nat) (record : Record) : Record × Nat :=
  if (valueOf record field).isNull then
    (OrderedMap.put field (.nat (issued + 1)) record, issued + 1)
  else (record, issued)

/-- Adds a record at the end of its table. -/
def add (store : Store) (entity : String) (record : Record) : Store × Record :=
  let (record, issued) := identified (store.identityField entity) (store.issuedBy entity) record
  let store := store.setTable entity (store.table entity ++ [record])
  ({ store with issued := OrderedMap.put entity issued store.issued }, record)

/-- Adds records one after another. -/
def create (entity : String) : Store → List Record → Store × List Record
  | store, [] => (store, [])
  | store, record :: rest =>
    let (store, added) := store.add entity record
    let (store, others) := create entity store rest
    (store, added :: others)

/-- Writes changes into every record that matches. -/
def update (store : Store) (entity : String) (conditions : Conditions) (changes : Record) :
    Store × List Record :=
  let change (record : Record) : Record := OrderedMap.putAll record changes
  let table := store.table entity
  (store.setTable entity (table.map fun r => if conditions.holds r then change r else r),
    (select conditions table).map change)

/-- The two records have the same fields and values. -/
def sameRecord (a b : Record) : Bool := (Json.obj a).same (.obj b)

/-- Removes the records that match, and with them every record that is the same as one of those. -/
def delete (store : Store) (entity : String) (conditions : Conditions) : Store × Nat :=
  let table := store.table entity
  let doomed := select conditions table
  (store.setTable entity (table.filter fun record =>
      !(conditions.holds record || doomed.any (sameRecord record))),
    doomed.length)

/-- How many records match. -/
def count (store : Store) (entity : String) (conditions : Conditions) : Nat :=
  (select conditions (store.table entity)).length

end Store

/-- What a data source is asked to do. -/
inductive Call where
  | connect
  | find (entity : String) (filter : Json)
  | count (entity : String) (conditions : Json)
  | create (entity : String) (items : Json)
  | update (entity : String) (conditions changes : Json)
  | delete (entity : String) (conditions : Json)

/-- What a data source answers. -/
inductive Reply where
  | nothing
  | number (value : Nat)
  | records (records : List Record)

/-- A record given as a value. -/
def readRecord : Json → Except Fault Record
  | .obj fields => .ok fields
  | .arr [] | .str "" => .ok []
  | _ => .error .wrongKind

/-- The items that a value is made of; a value without items is refused. -/
def readItems : Json → Except Fault (List Json)
  | .arr items => .ok items
  | .obj fields => .ok (fields.map fun field => .str field.1)
  | .str text => .ok (text.toList.map fun c => .str c.toString)
  | _ => .error .wrongKind

/-- The records at the start of a list, and what is wrong with the first that cannot be read. -/
def readableRecords : List Json → List Record × Option Fault
  | [] => ([], none)
  | item :: rest =>
    match readRecord item with
    | .ok record => let (records, fault) := readableRecords rest; (record :: records, fault)
    | .error fault => ([], some fault)

/-- The fields of a filter; what stands for no asks for nothing. -/
def readFilter (filter : Json) : Except Fault Json :=
  match filter with
  | .obj _ => .ok filter
  | _ => if filter.isTruthy then .error .notFields else .ok (.obj [])

/-- Conditions on the records of a table. Over an empty table they are not looked at. -/
def conditionsOver (table : List Record) (filter : Json) : Except Fault Conditions :=
  if table.isEmpty then .ok [] else readConditions filter

/-- The query of a filter over a table. -/
def readQuery (table : List Record) (filter : Json) : Except Fault Query := do
  let conditions ← conditionsOver table (filter.get "where")
  let order ← readOrder (filter.get "order")
  return { conditions, order, window := ← readWindow filter }

namespace Store

/-- Answers a call over a store in memory. -/
def call (store : Store) : Call → Store × Except Fault Reply
  | .connect => (store, .ok .nothing)
  | .find entity filter =>
    match readFilter filter with
    | .error fault => (store, .error fault)
    | .ok filter =>
      (store.touch entity, do
        let query ← readQuery (store.table entity) filter
        return .records (← query.answer (store.table entity)))
  | .count entity filter =>
    (store.touch entity, do
      return .number (store.count entity (← conditionsOver (store.table entity) filter)))
  | .create entity items =>
    match readItems items with
    | .error fault => (store, .error fault)
    | .ok items =>
      let (records, fault) := readableRecords items
      let (store, created) := create entity store records
      (store, match fault with
        | some fault => .error fault
        | none => .ok (.records created))
  | .update entity filter changes =>
    match conditionsOver (store.table entity) filter with
    | .error fault => (store.touch entity, .error fault)
    | .ok conditions =>
      if (select conditions (store.table entity)).isEmpty then
        (store.touch entity, .ok (.records []))
      else match readRecord changes with
        | .error fault => (store, .error fault)
        | .ok changes =>
          let (store, updated) := store.update entity conditions changes
          (store, .ok (.records updated))
  | .delete entity filter =>
    match conditionsOver (store.table entity) filter with
    | .error fault => (store.touch entity, .error fault)
    | .ok conditions =>
      let (store, removed) := store.delete entity conditions
      (store, .ok (.number removed))

end Store

end Blueprint.Records
