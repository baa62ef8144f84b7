import Mathlib.Data.List.Forall2
import Mathlib.Logic.Function.Basic
import Blueprint.Proofs.Records.Sameness
import Blueprint.Records.Relational
import Blueprint.Step

/-!
A source in memory seen as lists of records, one for every entity. What each call does to the list
of its entity and what it answers is said in terms of one meaning of conditions; a whole run of
calls is a run over these lists.
-/

namespace Blueprint.Records

section Lists

/-- A filter asks for some conditions: its fields, or none if it stands for no. -/
def Asks (filter : Json) (conditions : Conditions) : Prop :=
  filter = .obj conditions ∨ filter.isTruthy = false ∧ conditions = []

/-- A filter has neither an order nor a window. -/
structure AsksAll (filter : Json) : Prop where
  unordered : (filter.get "order").isTruthy = false
  unlimited : (filter.get "limit").isTruthy = false
  fromStart : (filter.get "offset").isTruthy = false

/-- A record that is kept for an item: the item itself, or the item with a number for the identity
that it lacks. -/
structure Kept (identity : String) (item record : Record) : Prop where
  unchanged : (valueOf item identity).isNull = false → record = item
  numbered : (valueOf item identity).isNull = true →
    ∃ number : Nat, record = OrderedMap.put identity (.nat number) item

/-- An answer to a filter over the records that match: all of them if the filter has neither an order
nor a window, and else a window of them in some order. -/
structure Finds (filter : Json) (found : List Record) (reply : Except Fault Reply) : Prop where
  all : AsksAll filter → reply = .ok (.records found)
  part : ∀ answer, reply = .ok answer → ∃ (sorted : List Record) (window : Window),
    sorted.Perm found ∧ answer = .records (window.cut sorted)

/-- What a call does to lists of records, and what it answers. -/
inductive Serves (identity : String → String) (lists : String → List Record) :
    Call → Except Fault Reply → (String → List Record) → Prop
  | connected : Serves identity lists .connect (.ok .nothing) lists
  | created {entity : String} {items records : List Record}
      (kept : List.Forall₂ (Kept (identity entity)) items records) :
      Serves identity lists (.create entity (.arr (items.map .obj))) (.ok (.records records))
        (Function.update lists entity (lists entity ++ records))
  | updated {entity : String} {filter : Json} {conditions : Conditions} {changes : Record}
      (asks : Asks filter conditions) :
      Serves identity lists (.update entity filter (.obj changes))
        (.ok (.records ((select conditions (lists entity)).map fun record =>
          OrderedMap.putAll record changes)))
        (Function.update lists entity ((lists entity).map fun record =>
          if conditions.holds record then OrderedMap.putAll record changes else record))
  | deleted {entity : String} {filter : Json} {conditions : Conditions}
      (asks : Asks filter conditions) :
      Serves identity lists (.delete entity filter)
        (.ok (.number (select conditions (lists entity)).length))
        (Function.update lists entity ((lists entity).filter fun record =>
          !conditions.holds record))
  | counted {entity : String} {filter : Json} {conditions : Conditions}
      (asks : Asks filter conditions) :
      Serves identity lists (.count entity filter)
        (.ok (.number (select conditions (lists entity)).length)) lists
  | found {entity : String} {filter : Json} {conditions : Conditions} {reply : Except Fault Reply}
      (asks : Asks (filter.get "where") conditions)
      (finds : Finds filter (select conditions (lists entity)) reply) :
      Serves identity lists (.find entity filter) reply lists

/-- A run of calls over lists of records, with their answers. -/
inductive ServesAll (identity : String → String) :
    (String → List Record) → List Call → List (Except Fault Reply) → (String → List Record) → Prop
  | nil {lists : String → List Record} : ServesAll identity lists [] [] lists
  | cons {before middle after : String → List Record} {call : Call} {calls : List Call}
      {reply : Except Fault Reply} {replies : List (Except Fault Reply)}
      (first : Serves identity before call reply middle)
      (rest : ServesAll identity middle calls replies after) :
      ServesAll identity before (call :: calls) (reply :: replies) after

/-- A call whose filters and items are plain: conditions are fields with values or stand for no, and
items and changes are records. -/
def Call.IsPlain : Call → Prop
  | .connect => True
  | .find _ filter =>
    (∃ fields, Asks filter fields) ∧ ∃ conditions, Asks (filter.get "where") conditions
  | .count _ filter | .delete _ filter => ∃ conditions, Asks filter conditions
  | .create _ items =>
    ∃ records : List Record, items = .arr (records.map .obj) ∧ ∀ record ∈ records, Distinct record
  | .update _ filter changes =>
    (∃ conditions, Asks filter conditions) ∧ ∃ fields, changes = .obj fields

end Lists

section Tidy

/-- The records of all lists have distinct fields. -/
def Tidy (lists : String → List Record) : Prop := ∀ entity, ∀ record ∈ lists entity, Distinct record

variable {identity : String → String} {lists after : String → List Record} {call : Call}
  {reply : Except Fault Reply}

theorem Kept.distinct {identity : String} {item record : Record} (kept : Kept identity item record)
    (distinct : Distinct item) : Distinct record := by
  cases absent : (valueOf item identity).isNull with
  | false => exact kept.unchanged absent ▸ distinct
  | true =>
    obtain ⟨number, rfl⟩ := kept.numbered absent
    exact OrderedMap.nodup_keys_put identity _ distinct

private theorem distinct_of_kept {identity : String} {items records : List Record}
    (kept : List.Forall₂ (Kept identity) items records)
    (distinct : ∀ item ∈ items, Distinct item) : ∀ record ∈ records, Distinct record := by
  induction kept with
  | nil => exact nofun
  | cons first _ ih =>
    rw [List.forall_mem_cons] at distinct ⊢
    exact ⟨first.distinct distinct.1, ih distinct.2⟩

theorem Tidy.update {entity : String} {records : List Record} (tidy : Tidy lists)
    (distinct : ∀ record ∈ records, Distinct record) :
    Tidy (Function.update lists entity records) := by
  intro other record listed
  by_cases same : other = entity
  · subst same
    rw [Function.update_self] at listed
    exact distinct record listed
  · rw [Function.update_of_ne same] at listed
    exact tidy other record listed

/-- No call brings in a record with a field twice. -/
theorem Serves.tidy (serves : Serves identity lists call reply after) (plain : call.IsPlain)
    (tidy : Tidy lists) : Tidy after := by
  cases serves with
  | connected | counted | found => exact tidy
  | @created entity items records kept =>
    obtain ⟨given, same, distinct⟩ := plain
    obtain rfl : items = given := by
      have injective : Function.Injective Json.obj := fun _ _ => Json.obj.inj
      exact List.map_injective_iff.mpr injective (Json.arr.inj same)
    refine tidy.update fun record listed => ?_
    rcases List.mem_append.mp listed with old | new
    · exact tidy entity record old
    · exact distinct_of_kept kept distinct record new
  | @updated entity filter conditions changes asks =>
    refine tidy.update fun record listed => ?_
    obtain ⟨old, member, rfl⟩ := List.mem_map.mp listed
    split
    · exact OrderedMap.nodup_keys_putAll (tidy entity old member) changes
    · exact tidy entity old member
  | @deleted entity filter conditions asks =>
    exact tidy.update fun record listed => tidy entity record (List.mem_filter.mp listed).1

end Tidy

section Store

variable {store : Store} {entity : String}

@[simp] theorem Store.table_setTable (store : Store) (entity : String) (records : List Record) :
    (store.setTable entity records).table = Function.update store.table entity records := by
  funext other
  by_cases same : other = entity
  · subst same
    simp [Store.table, Store.setTable, OrderedMap.get?, OrderedMap.lookup_put_self]
  · simp [Store.table, Store.setTable, OrderedMap.get?, OrderedMap.lookup_put_of_ne same, same]

@[simp] theorem Store.table_touch (store : Store) (entity : String) :
    (store.touch entity).table = store.table := by
  rw [Store.touch, Store.table_setTable, Function.update_eq_self]

private theorem kept_identified (identity : String) (issued : Nat) (record : Record) :
    Kept identity record (Store.identified identity issued record).1 := by
  unfold Store.identified
  split
  · rename_i absent
    exact ⟨fun present => absurd (absent.symm.trans present) (by decide), fun _ => ⟨_, rfl⟩⟩
  · rename_i present
    exact ⟨fun _ => rfl, fun absent => absurd absent present⟩

theorem Store.table_add (store : Store) (entity : String) (item : Record) :
    (store.add entity item).1.table = Function.update store.table entity
      (store.table entity ++ [(store.add entity item).2]) :=
  Store.table_setTable store entity _

/-- Records are added at the end of their table, each as it was given but for its identity. -/
theorem create_serves (entity : String) (items : List Record) (store : Store) :
    List.Forall₂ (Kept (store.identityField entity)) items (Store.create entity store items).2 ∧
      (Store.create entity store items).1.table = Function.update store.table entity
        (store.table entity ++ (Store.create entity store items).2) ∧
      (Store.create entity store items).1.identityFields = store.identityFields := by
  induction items generalizing store with
  | nil => simp [Store.create]
  | cons item items ih =>
    obtain ⟨kept, tables, fields⟩ := ih (store.add entity item).1
    simp only [Store.create]
    refine ⟨.cons (kept_identified _ _ item) kept, ?_, fields⟩
    rw [tables, Store.table_add, Function.update_self, Function.update_idem, List.append_assoc]
    rfl

theorem readableRecords_obj (records : List Record) :
    readableRecords (records.map .obj) = (records, none) := by
  induction records with
  | nil => rfl
  | cons record records ih => simp only [List.map_cons, readableRecords, readRecord, ih]

private theorem asks_readConditions {filter : Json} {conditions : Conditions}
    (asks : Asks filter conditions) : readConditions filter = .ok conditions := by
  rcases asks with rfl | ⟨refused, rfl⟩
  · rfl
  · cases filter with
    | obj fields =>
      have empty : fields = [] := by simpa [Json.isTruthy] using refused
      rw [empty]
      rfl
    | null | bool | int | float | str | arr => simp [readConditions, refused]

/-- Over the records of a table, the conditions that are read select what the filter asks for. -/
theorem exists_conditionsOver {filter : Json} {conditions : Conditions} (table : List Record)
    (asks : Asks filter conditions) : ∃ read, conditionsOver table filter = .ok read ∧
      select read table = select conditions table ∧
      ∀ record ∈ table, Conditions.holds read record = Conditions.holds conditions record := by
  cases table with
  | nil => exact ⟨[], rfl, rfl, nofun⟩
  | cons record table => exact ⟨conditions, asks_readConditions asks, rfl, fun _ _ => rfl⟩

/-- Sorting keeps the records. -/
theorem perm_of_sortByAll {clauses : List Clause} {records sorted : List Record}
    (done : sortByAll clauses records = .ok sorted) : sorted.Perm records := by
  induction clauses generalizing sorted with
  | nil => exact Except.ok.inj done ▸ .refl _
  | cons clause clauses ih =>
    obtain ⟨earlier, before, done⟩ := bind_eq_ok_iff.mp done
    unfold sortBy at done
    split at done
    · exact Except.ok.inj done ▸ (List.mergeSort_perm _ _).trans (ih before)
    · cases done

theorem readOrder_none {order : Json} (absent : order.isTruthy = false) : readOrder order = .ok [] := by
  simp [readOrder, absent]

private theorem readIndex_none {value : Json} (absent : value.isTruthy = false) :
    readIndex value = .ok none := by
  simp [readIndex, absent]

theorem cut_whole {α : Type} (items : List α) : Window.cut {} items = items := by
  simp [Window.cut, slice, position]

/-- What a find answers over the records of a table. -/
theorem finds_answered (table : List Record) {filter : Json} {conditions : Conditions}
    (asks : Asks (filter.get "where") conditions) :
    Finds filter (select conditions table) (do
      let query ← readQuery table filter
      return .records (← query.answer table)) := by
  obtain ⟨read, known, same, _⟩ := exists_conditionsOver table asks
  constructor
  · rintro ⟨unordered, unlimited, fromStart⟩
    simp only [readQuery, readWindow, known, readOrder_none unordered, readIndex_none unlimited,
      readIndex_none fromStart, ok_bind, ← same]
    exact congrArg (fun records => Except.ok (Reply.records records)) (cut_whole _)
  · intro answer done
    obtain ⟨query, asked, done⟩ := bind_eq_ok_iff.mp done
    obtain ⟨records, found, done⟩ := bind_eq_ok_iff.mp done
    obtain ⟨sorted, ordered, found⟩ := bind_eq_ok_iff.mp found
    rw [readQuery, known, ok_bind] at asked
    obtain ⟨order, _, asked⟩ := bind_eq_ok_iff.mp asked
    obtain ⟨window, _, asked⟩ := bind_eq_ok_iff.mp asked
    cases asked
    cases found
    cases done
    exact ⟨sorted, window, same ▸ perm_of_sortByAll ordered, rfl⟩

section Calls

variable {filter : Json} {conditions : Conditions}

private theorem map_of_select_eq_nil {table : List Record} (none : select conditions table = [])
    (change : Record → Record) :
    table.map (fun record => if conditions.holds record then change record else record) = table := by
  have kept : ∀ record ∈ table,
      (if conditions.holds record then change record else record) = id record :=
    fun record member => if_neg (List.filter_eq_nil_iff.mp none record member)
  rw [List.map_congr_left kept, List.map_id]

theorem serves_update (store : Store) (asks : Asks filter conditions) (changes : Record) :
    Serves store.identityField store.table (.update entity filter (.obj changes))
      (store.call (.update entity filter (.obj changes))).2
      (store.call (.update entity filter (.obj changes))).1.table := by
  obtain ⟨read, known, same, agree⟩ := exists_conditionsOver (store.table entity) asks
  have written : (store.table entity).map (fun record =>
        if read.holds record then OrderedMap.putAll record changes else record) =
      (store.table entity).map fun record =>
        if conditions.holds record then OrderedMap.putAll record changes else record :=
    List.map_congr_left fun record member => by rw [agree record member]
  have serves : Serves store.identityField store.table (.update entity filter (.obj changes)) _ _ :=
    .updated asks
  simp only [Store.call, known, same]
  split
  · rename_i none
    rw [List.isEmpty_iff] at none
    rw [map_of_select_eq_nil none, Function.update_eq_self, none] at serves
    rwa [Store.table_touch]
  · simp only [readRecord, Store.update, Store.table_setTable, same, written]
    exact serves

/-- What is removed with the records that match, because it is the same as one of them, matches. -/
theorem filter_delete {table : List Record} (distinct : ∀ record ∈ table, Distinct record)
    (conditions : Conditions) :
    table.filter (fun record => !(conditions.holds record ||
      (select conditions table).any (Store.sameRecord record))) =
      table.filter fun record => !conditions.holds record := by
  refine List.filter_congr fun record member => ?_
  cases holds : conditions.holds record with
  | true => rfl
  | false =>
    have apart : (select conditions table).any (Store.sameRecord record) = false := by
      rw [List.any_eq_false]
      intro doomed chosen same
      have matched := holds_of_same (distinct record member) same (List.mem_filter.mp chosen).2
      exact Bool.false_ne_true (holds.symm.trans matched)
    rw [apart]
    rfl

theorem serves_delete (store : Store) (asks : Asks filter conditions) (tidy : Tidy store.table) :
    Serves store.identityField store.table (.delete entity filter)
      (store.call (.delete entity filter)).2 (store.call (.delete entity filter)).1.table := by
  obtain ⟨read, known, same, agree⟩ := exists_conditionsOver (store.table entity) asks
  have kept : (store.table entity).filter (fun record => !read.holds record) =
      (store.table entity).filter fun record => !conditions.holds record :=
    List.filter_congr fun record member => by rw [agree record member]
  simp only [Store.call, known, Store.delete, Store.table_setTable, filter_delete (tidy entity)]
  rw [kept, same]
  exact .deleted asks

theorem exists_readFilter (readable : ∃ fields, Asks filter fields) :
    ∃ fields, readFilter filter = .ok fields ∧ ∀ key, fields.get key = filter.get key := by
  obtain ⟨fields, rfl | ⟨refused, _⟩⟩ := readable
  · exact ⟨_, rfl, fun _ => rfl⟩
  · cases filter with
    | obj fields => exact ⟨_, rfl, fun _ => rfl⟩
    | null | bool | int | float | str | arr =>
      exact ⟨.obj [], by simp [readFilter, refused], fun _ => rfl⟩

theorem finds_call (store : Store) (readable : ∃ fields, Asks filter fields)
    (asks : Asks (filter.get "where") conditions) :
    Finds filter (select conditions (store.table entity)) (store.call (.find entity filter)).2 := by
  obtain ⟨fields, read, same⟩ := exists_readFilter readable
  rw [← same] at asks
  obtain ⟨all, part⟩ := finds_answered (store.table entity) asks
  simp only [Store.call, read]
  refine ⟨fun ⟨unordered, unlimited, fromStart⟩ => all ?_, part⟩
  exact ⟨same _ ▸ unordered, same _ ▸ unlimited, same _ ▸ fromStart⟩

private theorem reply_count (store : Store) (asks : Asks filter conditions) :
    (store.call (.count entity filter)).2 =
      .ok (.number (select conditions (store.table entity)).length) := by
  obtain ⟨read, known, same, _⟩ := exists_conditionsOver (store.table entity) asks
  simp only [Store.call, known, ok_bind, Store.count]
  rw [same]
  rfl

/-- Every plain call serves the lists of its store. -/
theorem serves_call (store : Store) {call : Call} (plain : call.IsPlain)
    (tidy : Tidy store.table) : Serves store.identityField store.table call
      (store.call call).2 (store.call call).1.table := by
  cases call with
  | connect => exact .connected
  | find entity filter =>
    obtain ⟨readable, conditions, asks⟩ := plain
    have tables : (store.call (.find entity filter)).1.table = store.table := by
      obtain ⟨fields, read, _⟩ := exists_readFilter readable
      simp only [Store.call, read, Store.table_touch]
    rw [tables]
    exact .found asks (finds_call store readable asks)
  | count entity filter =>
    obtain ⟨conditions, asks⟩ := plain
    rw [reply_count store asks]
    simp only [Store.call, Store.table_touch]
    exact .counted asks
  | create entity items =>
    obtain ⟨records, rfl, _⟩ := plain
    obtain ⟨kept, tables, _⟩ := create_serves entity records store
    simp only [Store.call, readItems, readableRecords_obj]
    rw [tables]
    exact .created kept
  | update entity filter changes =>
    obtain ⟨⟨conditions, asks⟩, fields, rfl⟩ := plain
    exact serves_update store asks fields
  | delete entity filter =>
    obtain ⟨conditions, asks⟩ := plain
    exact serves_delete store asks tidy

/-- All that is not a creation changes tables only. -/
theorem exists_tables_call (store : Store) {call : Call}
    (creates : ∀ entity items, call ≠ .create entity items) :
    ∃ tables, (store.call call).1 = { store with tables } := by
  cases call with
  | connect | count => exact ⟨_, rfl⟩
  | create entity items => exact absurd rfl (creates entity items)
  | find entity filter =>
    simp only [Store.call]
    split <;> exact ⟨_, rfl⟩
  | update entity filter changes =>
    simp only [Store.call]
    split
    · exact ⟨_, rfl⟩
    · split
      · exact ⟨_, rfl⟩
      · split <;> exact ⟨_, rfl⟩
  | delete entity filter =>
    simp only [Store.call]
    split <;> exact ⟨_, rfl⟩

/-- No call changes which field is the identity of an entity. -/
theorem identityFields_call (store : Store) (call : Call) :
    (store.call call).1.identityFields = store.identityFields := by
  by_cases creates : ∃ entity items, call = .create entity items
  · obtain ⟨entity, items, rfl⟩ := creates
    simp only [Store.call]
    split
    · rfl
    · exact (create_serves entity _ store).2.2
  · have other (entity : String) (items : Json) : call ≠ .create entity items :=
      fun made => creates ⟨entity, items, made⟩
    obtain ⟨tables, same⟩ := exists_tables_call store other
    rw [same]

end Calls

end Store

section Runs

theorem serves_run {calls : List Call} (plain : ∀ call ∈ calls, call.IsPlain) (store : Store)
    (tidy : Tidy store.table) : ∃ after replies,
      Source.run (.memory store) calls = (.memory after, replies) ∧
      ServesAll store.identityField store.table calls replies after.table := by
  induction calls generalizing store with
  | nil => exact ⟨store, [], rfl, .nil⟩
  | cons call calls ih =>
    rw [List.forall_mem_cons] at plain
    have serves := serves_call store plain.1 tidy
    obtain ⟨after, replies, ran, rest⟩ := ih plain.2 _ (serves.tidy plain.1 tidy)
    have identity : (store.call call).1.identityField = store.identityField := by
      funext entity
      rw [Store.identityField, identityFields_call, Store.identityField]
    rw [identity] at rest
    refine ⟨after, _ :: replies, ?_, .cons serves rest⟩
    simp only [Source.run, Source.call, ran]

end Runs

/-- A run of plain calls on a source in memory is a run over lists of records, and then a count
answers how many records a find gives under the same conditions. -/
theorem memory_refines_lists (identityFields : List (String × String)) {calls : List Call}
    (plain : ∀ call ∈ calls, call.IsPlain) : ∃ store replies,
      Source.run (.memory { identityFields }) calls = (.memory store, replies) ∧
      ServesAll (Store.identityField { identityFields }) (fun _ => []) calls replies store.table ∧
      ∀ entity filter, (Call.find entity filter).IsPlain → AsksAll filter → ∃ records,
        (store.call (.find entity filter)).2 = .ok (.records records) ∧
        (store.call (.count entity (filter.get "where"))).2 = .ok (.number records.length) := by
  have empty : Tidy (Store.table { identityFields }) := fun _ _ => nofun
  obtain ⟨store, replies, ran, serves⟩ := serves_run plain { identityFields } empty
  refine ⟨store, replies, ran, serves, fun entity filter find all => ?_⟩
  obtain ⟨readable, conditions, asks⟩ := find
  exact ⟨_, (finds_call store readable asks).all all, reply_count store asks⟩

/-- Calls on two books that differ in nothing but the identity that one of them is given; then one
of the two is removed under a value that equals its identity. -/
def shelfCalls : List Call :=
  [.create "Book" (.arr ([[("title", .str "Emma")], [("id", .nat 7), ("title", .str "Emma")]].map .obj)),
    .update "Book" (.obj [("title", .str "Emma")]) (.obj [("shelf", .nat 2)]),
    .delete "Book" (.obj [("id", .bool true)]),
    .find "Book" (.obj [("where", .obj [("shelf", .nat 2)])]),
    .count "Pen" .null]

theorem memory_refines_lists_shelf : (∀ call ∈ shelfCalls, call.IsPlain) ∧ ∃ store replies,
    Source.run (.memory { identityFields := [("Pen", "code")] }) shelfCalls =
      (.memory store, replies) ∧
    ServesAll (Store.identityField { identityFields := [("Pen", "code")] }) (fun _ => []) shelfCalls
      replies store.table ∧
    ∀ entity filter, (Call.find entity filter).IsPlain → AsksAll filter → ∃ records,
      (store.call (.find entity filter)).2 = .ok (.records records) ∧
      (store.call (.count entity (filter.get "where"))).2 = .ok (.number records.length) := by
  have plain : ∀ call ∈ shelfCalls, call.IsPlain := by
    simp only [shelfCalls, List.forall_mem_cons]
    exact ⟨⟨_, rfl, by decide⟩, ⟨⟨_, .inl rfl⟩, _, rfl⟩, ⟨_, .inl rfl⟩,
      ⟨⟨_, .inl rfl⟩, _, .inl rfl⟩, ⟨_, .inr ⟨rfl, rfl⟩⟩, nofun⟩
  exact ⟨plain, memory_refines_lists [("Pen", "code")] plain⟩

end Blueprint.Records
