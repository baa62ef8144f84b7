import Blueprint.Decimal.Double
import Blueprint.Json.Reader
import Blueprint.Records.Memory

/-!
Records kept in a relational table of items with an identity, a name and a rank. New rows are
checked against the entity, identities are unique, and values take on the kind of their column where
they can. Absent values come first in an ascending order. A data source keeps its records in memory
or in such a table, by its persistence type.
-/

namespace Blueprint.Records

/-- A column of the table. -/
inductive Column where
  | id
  | name
  | rank
  deriving DecidableEq, Repr

namespace Column

/-- The name of a column. -/
def label : Column → String
  | id => "id"
  | name => "name"
  | rank => "rank"

/-- The columns in order. -/
def all : List Column := [id, name, rank]

/-- The column of a name. -/
def ofName (text : String) : Except Fault Column :=
  match all.find? (·.label == text) with
  | some column => .ok column
  | none => .error .unknownField

end Column

/-- A row: its identity, name and rank. A rank that was never checked may be a text or a decimal. -/
structure Row where
  id : Int
  name : String
  rank : Json
  deriving Repr

/-- The value of a row in a column. -/
def Row.value (row : Row) : Column → Json
  | .id => .int row.id
  | .name => .str row.name
  | .rank => row.rank

/-- A row as a record. -/
def Row.record (row : Row) : Record :=
  Column.all.map fun column => (column.label, row.value column)

/-- The least and the greatest integer of a column. -/
def fitsColumn (n : Int) : Bool := -9223372036854775808 ≤ n && n < 9223372036854775808

/-- The number that a text spells: a sign, digits, a fraction and an exponent, blanks around it. -/
def numberOfText? (text : String) : Option Json :=
  let chars := Text.trim text.toList
  let negative := chars.head? == some '-'
  let unsigned := if negative || chars.head? == some '+' then chars.drop 1 else chars
  let whole := unsigned.takeWhile Char.isDigit
  let rest := unsigned.drop whole.length
  let fraction := if rest.head? == some '.' then (rest.drop 1).takeWhile Char.isDigit else []
  let rest := if rest.head? == some '.' then rest.drop (fraction.length + 1) else rest
  let digits := Json.digitsValue (whole ++ fraction)
  let exponent? : Option Int := match rest with
    | [] => some 0
    | 'e' :: power | 'E' :: power => Validation.integerOfText? (String.ofList power)
    | _ => none
  if (whole ++ fraction).isEmpty then none
  else exponent?.map fun exponent =>
    let value := Double.ofDecimal negative digits (exponent - fraction.length)
    match value.toInt? with
    | some n => .int (if rest.isEmpty && fraction.isEmpty then
        (if negative then -(digits : Int) else digits) else n)
    | none => .float value

/-- A value as it is kept in a column, or as it is compared with what is kept there. -/
def Column.adapt (column : Column) (value : Json) : Except Fault Json :=
  let plain : Except Fault Json := match value with
    | .arr _ | .obj _ => .error .unsupported
    | .bool value => .ok (.int (if value then 1 else 0))
    | .int n => if fitsColumn n then .ok value else .error .oversized
    | _ => .ok value
  plain.map fun value =>
    match column, value with
    | .name, .int n => .str (toString n)
    | .name, .float x => .str x.text
    | .name, value => value
    | _, .float x => (x.toInt?.map Json.int).getD value
    | _, .str text => (numberOfText? text).getD value
    | _, value => value

/-- Rows in the order of their identities. -/
abbrev Table := List Row

/-- Conditions on columns, in the kinds of those. -/
abbrev RowConditions := List (Column × Json)

/-- Finds the columns that conditions name. -/
def readColumns (conditions : Conditions) : Except Fault RowConditions :=
  conditions.mapM fun condition => return (← Column.ofName condition.1, condition.2)

/-- The rows that match. -/
def rowsWhere (conditions : RowConditions) (table : Table) : Except Fault (List Row) := do
  let adapted ← conditions.mapM fun condition =>
    return (condition.1, ← condition.1.adapt condition.2)
  return table.filter fun row =>
    adapted.all fun condition => (row.value condition.1).same condition.2

/-- The order of rows by clauses: the first that tells them apart decides, and null is below
everything. -/
def orderRows : List (Column × Bool) → Row → Row → Ordering
  | [], _, _ => .eq
  | (column, descending) :: rest, a, b =>
    let order := (a.value column).order (b.value column)
    match if descending then order.swap else order with
    | .eq => orderRows rest a b
    | order => order

/-- Sorts rows; those that no clause tells apart keep their order. -/
def sortRows (clauses : List (Column × Bool)) (rows : List Row) : List Row :=
  rows.mergeSort fun a b => orderRows clauses a b != .gt

/-- A whole number in a filter; texts and decimals are read as integers. -/
def readCount (value : Json) : Except Fault (Option Int) :=
  if !value.isTruthy then .ok none
  else match value with
    | .float x => match x.ratio? with
      | some (num, den) => .ok (some (Int.tdiv num den))
      | none => .error .oversized
    | .str text => match Validation.integerOfText? text with
      | some n => .ok (some n)
      | none => .error (.unreadableNumber text)
    | value => (readIndex value)

/-- The rows after an offset, at most as many as a limit; a negative limit is none. -/
def page (offset limit : Option Int) (rows : List Row) : List Row :=
  let rest := rows.drop ((offset.getD 0).toNat)
  match limit with
  | some limit => if limit < 0 then rest else rest.take limit.toNat
  | none => rest

/-- A new row that has been checked. -/
structure NewRow where
  id : Option Int
  name : String
  rank : Option Int

open Validation in
/-- Checks an item against the entity; all fields that are wrong are reported. -/
def checkItem (item : Json) : Checked NewRow :=
  match item with
  | .obj _ =>
    let id := checkAt ["id"] (optional integer) (item.get "id")
    let name := match item.field? "name" with
      | some value => checkAt ["name"] text value
      | none => .error [⟨["name"], .missing, item⟩]
    let rank := checkAt ["rank"] (optional integer) (item.get "rank")
    match id, name, rank with
    | .ok id, .ok name, .ok rank => .ok ⟨id, name, rank⟩
    | id, name, rank => .error (issuesOf id ++ issuesOf name ++ issuesOf rank)
  | _ => .error [⟨[], .notObject, item⟩]

/-- The identity that comes after all others. -/
def nextId (table : Table) : Int := (table.map (·.id)).foldl (fun top id => max top (id + 1)) 1

/-- Puts a row at its place. -/
def insertRow (row : Row) (table : Table) : Table :=
  table.takeWhile (·.id < row.id) ++ row :: table.dropWhile (·.id < row.id)

/-- Adds a row; its identity must be new. -/
def addRow (new : NewRow) (table : Table) : Except Fault (Table × Row) :=
  let id := new.id.getD (nextId table)
  let rank := (new.rank.map Json.int).getD .null
  if !fitsColumn id || !(new.rank.all fitsColumn) then .error .oversized
  else if table.any (·.id == id) then .error .violated
  else
    let row : Row := ⟨id, new.name, rank⟩
    .ok (insertRow row table, row)

/-- Adds rows one after another; none is kept if one cannot be. -/
def addRows : List NewRow → Table → Except Fault (Table × List Row)
  | [], table => .ok (table, [])
  | new :: rest, table => do
    let (table, row) ← addRow new table
    let (table, rows) ← addRows rest table
    return (table, row :: rows)

/-- Writes a value into a column of a row. -/
def Row.write (row : Row) (change : Column × Json) : Except Fault Row := do
  match change.1, ← change.1.adapt change.2 with
  | .id, .int id => return { row with id }
  | .name, .str name => return { row with name }
  | .rank, rank => return { row with rank }
  | _, _ => .error .violated

/-- The name of the entity whose records a table keeps. -/
def itemEntity : String := "Item"

/-- The columns that changes write to. -/
def readChanges (changes : Json) : Except Fault RowConditions :=
  match changes with
  | .obj fields => fields.mapM fun field =>
    match Column.ofName field.1 with
    | .ok column => .ok (column, field.2)
    | .error _ => .error (.unwritableField itemEntity field.1)
  | _ => .error .notFields

/-- Changes rows of a table; identities have to stay unique. -/
def updateRows (rows : List Row) (changes : RowConditions) (table : Table) :
    Except Fault (Table × List Row) := do
  let changed ← rows.mapM fun row => changes.foldlM Row.write row
  let others := table.filter fun row => !rows.any (·.id == row.id)
  let ids := (others ++ changed).map (·.id)
  if ids.eraseDups.length == ids.length then
    return (changed.foldl (fun table row => insertRow row table) others, changed)
  else .error .violated

/-- The items of a list, each checked; the first that is refused decides. -/
def checkItems : List Json → Except Fault (List NewRow)
  | [] => .ok []
  | item :: rest =>
    match checkItem item with
    | .ok new => return new :: (← checkItems rest)
    | .error issues => .error (.invalid issues)

namespace Table

/-- Finds the rows of a filter. -/
def find (table : Table) (filter : Json) : Except Fault (List Row) := do
  let filter ← readFilter filter
  let conditions ← readColumns (← readConditions (filter.get "where"))
  let clauses ← (← readOrder (filter.get "order")).mapM fun clause =>
    return (← Column.ofName clause.field, clause.descending)
  let offset ← readCount (filter.get "offset")
  let limit ← readCount (filter.get "limit")
  return page offset limit (sortRows clauses (← rowsWhere conditions table))

/-- The rows that conditions select. -/
def selectRows (table : Table) (filter : Json) : Except Fault (List Row) := do
  rowsWhere (← readColumns (← readConditions filter)) table

/-- Answers a call about the entity of a table; a call that fails changes nothing. -/
def answer (table : Table) : Call → Except Fault (Table × Reply)
  | .connect => .ok (table, .nothing)
  | .find _ filter => return (table, .records ((← table.find filter).map Row.record))
  | .count _ filter => return (table, .number (← table.selectRows filter).length)
  | .create _ items => do
    let (table, rows) ← addRows (← checkItems (← readItems items)) table
    return (table, .records (rows.map Row.record))
  | .update _ filter changes => do
    let rows ← table.selectRows filter
    if rows.isEmpty then return (table, .records [])
    let (table, rows) ← updateRows rows (← readChanges changes) table
    return (table, .records (rows.map Row.record))
  | .delete _ filter => do
    let rows ← table.selectRows filter
    return (table.filter fun row => !rows.any (·.id == row.id), .number rows.length)

end Table

/-- The entity that a call is about. -/
def Call.entity? : Call → Option String
  | .connect => none
  | .find entity _ | .count entity _ | .create entity _ | .update entity _ _ | .delete entity _ =>
    some entity

/-- Answers a call over the relational table. -/
def Table.call (table : Table) (call : Call) : Table × Except Fault Reply :=
  let answered := match call.entity? with
    | some entity =>
      if entity == itemEntity then table.answer call else .error (.unknownEntity entity)
    | none => table.answer call
  match answered with
  | .ok (table, reply) => (table, .ok reply)
  | .error fault => (table, .error fault)

/-- A data source. -/
inductive Source where
  | memory (store : Store)
  | relational (table : Table)

namespace Source

/-- The persistence types that are relational. -/
def relationalTypes : List String := ["Sql", "Sqlite", "Postgres", "MySql"]

/-- What every data source is given besides its options. -/
def ownArguments : List String := ["name", "models", "id_fields"]

/-- The options of a connection to a relational database. -/
def connectionOptions : List String :=
  ["connect_args", "creator", "echo", "echo_pool", "enable_from_linting", "execution_options",
    "future", "hide_parameters", "implicit_returning", "insertmanyvalues_page_size",
    "isolation_level", "json_deserializer", "json_serializer", "label_length", "logging_name",
    "max_identifier_length", "max_overflow", "module", "paramstyle", "plugins", "pool",
    "pool_logging_name", "pool_pre_ping", "pool_recycle", "pool_reset_on_return", "pool_size",
    "pool_timeout", "pool_use_lifo", "poolclass", "query_cache_size", "skip_autocommit_rollback",
    "use_insertmanyvalues"]

/-- Opens an empty data source of a type with options by name. -/
def create (type name : String) (identityFields : List (String × String))
    (options : List String) : Except Fault Source :=
  if type == "Memory" then
    if options.any ownArguments.contains then .error .wrongKind
    else .ok (memory { identityFields })
  else if relationalTypes.contains type then
    if options.all connectionOptions.contains then .ok (relational []) else .error .wrongKind
  else .error (.unknownType type name)

/-- Answers one call. -/
def call (source : Source) (call : Call) : Source × Except Fault Reply :=
  match source with
  | memory store => let (store, reply) := store.call call; (memory store, reply)
  | relational table => let (table, reply) := table.call call; (relational table, reply)

/-- Answers calls in order. -/
def run : Source → List Call → Source × List (Except Fault Reply)
  | source, [] => (source, [])
  | source, first :: rest =>
    let (source, reply) := source.call first
    let (source, replies) := run source rest
    (source, reply :: replies)

/-- The tables of a source in memory. -/
def tables? : Source → Option (List (String × List Record))
  | memory store => some store.tables
  | relational _ => none

end Source

end Blueprint.Records
