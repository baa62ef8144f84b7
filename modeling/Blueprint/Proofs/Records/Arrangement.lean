import Blueprint.Proofs.Outcomes
import Blueprint.Proofs.Records.Refinement
import Blueprint.Proofs.Records.SettledOrder

namespace Blueprint.Records

open Json

section Orders

/-- The order of two records under a clause, from an order of values. -/
def Clause.order (values : Json → Json → Ordering) (clause : Clause) (a b : Record) : Ordering :=
  let order := values (valueOf a clause.field) (valueOf b clause.field)
  if clause.descending then order.swap else order

/-- The order of two records under clauses: the first clause that tells them apart decides. -/
def recordOrder (values : Json → Json → Ordering) : List Clause → Record → Record → Ordering
  | [], _, _ => .eq
  | clause :: rest, a, b => (clause.order values a b).then (recordOrder values rest a b)

/-- The values of records in the fields of all clauses can be compared. -/
def ComparableIn (clauses : List Clause) (records : List Record) : Prop :=
  ∀ clause ∈ clauses, MutuallyComparable (records.map (valueOf · clause.field))

/-- Two records have the same values in the fields of all clauses. -/
def Ties (clauses : List Clause) (a b : Record) : Prop :=
  ∀ clause ∈ clauses, (valueOf a clause.field).same (valueOf b clause.field) = true

/-- Up to the first clause in which two records have different values, and in that one as well, both
are null or neither is. -/
def NullsAlike : List Clause → Record → Record → Prop
  | [], _, _ => True
  | clause :: rest, a, b =>
    (valueOf a clause.field = null ↔ valueOf b clause.field = null) ∧
      ((valueOf a clause.field).same (valueOf b clause.field) = true → NullsAlike rest a b)

variable {values : Json → Json → Ordering} {clause : Clause} {clauses : List Clause}
  {records : List Record} {a b : Record}

theorem ComparableIn.of_cons (comparable : ComparableIn (clause :: clauses) records) :
    ComparableIn clauses records :=
  fun other listed => comparable other (List.mem_cons_of_mem _ listed)

theorem Clause.order_eq_iff :
    clause.order values a b = .eq ↔ values (valueOf a clause.field) (valueOf b clause.field) = .eq := by
  unfold Clause.order
  cases clause.descending with
  | false => rfl
  | true => exact Ordering.swap_eq_eq

theorem Clause.allows_eq : clause.allows a b = (clause.order nullLast a b != .gt) := by
  unfold Clause.allows Clause.order
  cases clause.descending with
  | false => rfl
  | true => cases nullLast (valueOf a clause.field) (valueOf b clause.field) <;> rfl

private theorem ranked_clauseOrder (ranked : Ranked values (records.map (valueOf · clause.field))) :
    Ranked (clause.order values) records := by
  cases turned : clause.descending with
  | false => exact ranked.of_map.congr fun _ _ _ _ => by simp [Clause.order, turned]
  | true => exact ranked.of_map.swap.congr fun _ _ _ _ => by simp [Clause.order, turned]

theorem ranked_recordOrder
    (ranked : ∀ clause ∈ clauses, Ranked values (records.map (valueOf · clause.field))) :
    Ranked (recordOrder values clauses) records := by
  induction clauses with
  | nil => exact .ties records
  | cons clause clauses ih =>
    rw [List.forall_mem_cons] at ranked
    exact (ranked_clauseOrder ranked.1).andThen (ih ranked.2)

private theorem recordOrder_eq_iff (comparable : ComparableIn clauses records) (one : a ∈ records)
    (other : b ∈ records) : recordOrder Json.order clauses a b = .eq ↔ Ties clauses a b := by
  induction clauses with
  | nil => exact iff_of_true rfl nofun
  | cons clause clauses ih =>
    rw [recordOrder, Ordering.then_eq_eq, Clause.order_eq_iff, ih comparable.of_cons,
      (comparable clause List.mem_cons_self).order_eq_iff_same (List.mem_map_of_mem one)
        (List.mem_map_of_mem other), Ties, Ties, List.forall_mem_cons]

end Orders

section Nulls

variable {clause : Clause} {clauses : List Clause} {records : List Record} {a b : Record}

theorem then_of_ne {first second : Ordering} (decides : first ≠ .eq) : first.then second = first := by
  cases first with
  | eq => exact absurd rfl decides
  | lt | gt => rfl

theorem Clause.order_nullLast (alike : valueOf a clause.field = null ↔ valueOf b clause.field = null) :
    clause.order nullLast a b = clause.order Json.order a b := by
  rw [Clause.order, MutuallyComparable.nullLast_eq_order_iff.mpr alike, Clause.order]

theorem NullsAlike.recordOrder_eq (comparable : ComparableIn clauses records) (one : a ∈ records)
    (other : b ∈ records) (alike : NullsAlike clauses a b) :
    recordOrder nullLast clauses a b = recordOrder Json.order clauses a b := by
  induction clauses with
  | nil => rfl
  | cons clause clauses ih =>
    rw [recordOrder, recordOrder, Clause.order_nullLast alike.1]
    by_cases decides : clause.order Json.order a b = .eq
    · rw [Clause.order_eq_iff, (comparable clause List.mem_cons_self).order_eq_iff_same
        (List.mem_map_of_mem one) (List.mem_map_of_mem other)] at decides
      rw [ih comparable.of_cons (alike.2 decides)]
    · rw [then_of_ne decides, then_of_ne decides]

/-- Where they are not, the two sides give opposite orders. -/
theorem recordOrder_swap (comparable : ComparableIn clauses records) (one : a ∈ records)
    (other : b ∈ records) (unlike : ¬ NullsAlike clauses a b) :
    recordOrder nullLast clauses a b = (recordOrder Json.order clauses a b).swap ∧
      recordOrder Json.order clauses a b ≠ .eq := by
  induction clauses with
  | nil => exact absurd trivial unlike
  | cons clause clauses ih =>
    rw [recordOrder, recordOrder]
    by_cases alike : valueOf a clause.field = null ↔ valueOf b clause.field = null
    · -- The clause ties the records, and a later one tells a null from another value.
      have reached : (valueOf a clause.field).same (valueOf b clause.field) = true ∧
          ¬ NullsAlike clauses a b := by
        rw [NullsAlike, not_and, Classical.not_imp] at unlike
        exact unlike alike
      rw [← (comparable clause List.mem_cons_self).order_eq_iff_same
        (List.mem_map_of_mem one) (List.mem_map_of_mem other), ← Clause.order_eq_iff] at reached
      rw [Clause.order_nullLast alike, reached.1]
      exact ih comparable.of_cons reached.2
    · have turned : clause.order nullLast a b = (clause.order Json.order a b).swap ∧
          clause.order Json.order a b ≠ .eq := by
        rcases MutuallyComparable.nullLast_eq_or_swap (valueOf a clause.field)
          (valueOf b clause.field) with same | ⟨turned, decides⟩
        · exact absurd (MutuallyComparable.nullLast_eq_order_iff.mp same) alike
        · refine ⟨?_, mt Clause.order_eq_iff.mp decides⟩
          rw [Clause.order, turned, Clause.order]
          cases clause.descending <;> rfl
      have decides : (clause.order Json.order a b).swap ≠ .eq := mt Ordering.swap_eq_eq.mp turned.2
      rw [turned.1, then_of_ne turned.2, then_of_ne decides]
      exact ⟨rfl, turned.2⟩

end Nulls

section Memory

variable {clauses : List Clause} {records : List Record}

/-- The values of records in the fields of all clauses have settled orders. -/
def OrderableIn (clauses : List Clause) (records : List Record) : Prop :=
  ∀ clause ∈ clauses, Orderable (records.map (valueOf · clause.field))

theorem ComparableIn.orderable (comparable : ComparableIn clauses records) :
    OrderableIn clauses records := fun clause listed => (comparable clause listed).orderable

/-- Sorting by one clause after another, the last one first, sorts by all of them and keeps the places
of those records that none of them tells apart. -/
theorem exists_sortByAll (orderable : OrderableIn clauses records) :
    ∃ sorted, sortByAll clauses records = .ok sorted ∧
      Arranged (recordOrder nullLast clauses) sorted ∧
      ∀ record ∈ records, sorted.filter (fun other => recordOrder nullLast clauses record other == .eq) =
        records.filter fun other => recordOrder nullLast clauses record other == .eq := by
  induction clauses with
  | nil =>
    exact ⟨records, rfl, List.pairwise_of_forall fun _ _ => Ordering.noConfusion, fun _ _ => rfl⟩
  | cons clause clauses ih =>
    rw [OrderableIn, List.forall_mem_cons] at orderable
    obtain ⟨earlier, before, arranged, places⟩ := ih orderable.2
    have same := perm_of_sortByAll before
    have values : Orderable (earlier.map (valueOf · clause.field)) := orderable.1.perm (same.map _)
    have ranked : Ranked (clause.order nullLast) earlier := ranked_clauseOrder values.ranked_nullLast
    have allows : clause.allows = fun a b => clause.order nullLast a b != .gt :=
      funext fun a => funext fun b => Clause.allows_eq
    refine ⟨earlier.mergeSort clause.allows, ?_, ?_, fun record listed => ?_⟩
    · rw [sortByAll, before, ok_bind, sortBy, if_pos values.areComparable]
    · rw [allows]
      exact ranked.arranged_mergeSort_then arranged
    · let level (other : Record) : Bool := clause.order nullLast record other == .eq
      let tied (other : Record) : Bool := recordOrder nullLast clauses record other == .eq
      have split : (fun other => recordOrder nullLast (clause :: clauses) record other == .eq) =
          fun other => tied other && level other := by
        funext other
        rw [Bool.eq_iff_iff, Bool.and_eq_true, beq_iff_eq, beq_iff_eq, beq_iff_eq, recordOrder,
          Ordering.then_eq_eq, and_comm]
      have kept : (earlier.mergeSort clause.allows).filter level = earlier.filter level := by
        rw [allows]
        exact ranked.filter_mergeSort (same.mem_iff.mpr listed)
      rw [split]
      calc (earlier.mergeSort clause.allows).filter (fun other => tied other && level other)
          = ((earlier.mergeSort clause.allows).filter level).filter tied := List.filter_filter.symm
        _ = (earlier.filter tied).filter level := by
            rw [kept, List.filter_filter, List.filter_filter]
            exact List.filter_congr fun _ _ => Bool.and_comm _ _
        _ = (records.filter tied).filter level := by rw [places record listed]
        _ = records.filter fun other => tied other && level other := by
            rw [List.filter_filter]
            exact List.filter_congr fun _ _ => Bool.and_comm _ _

end Memory

section Ties

variable {clauses : List Clause} {matching rows : List Record}

/-- Rows as a relational source orders them: the rows that match, by all clauses, with the nulls below
everything. Rows with the same values in all ordered fields stand in any order. -/
structure OrderedBy (clauses : List Clause) (matching rows : List Record) : Prop where
  perm : rows.Perm matching
  arranged : Arranged (recordOrder Json.order clauses) rows

theorem recordOrder_nullLast_eq_iff (comparable : ComparableIn clauses matching) {a b : Record}
    (one : a ∈ matching) (other : b ∈ matching) :
    recordOrder nullLast clauses a b = .eq ↔ Ties clauses a b := by
  rw [← recordOrder_eq_iff comparable one other]
  by_cases alike : NullsAlike clauses a b
  · rw [alike.recordOrder_eq comparable one other]
  · rw [(recordOrder_swap comparable one other alike).1, Ordering.swap_eq_eq]

private theorem forall₂_ties_iff {order : Record → Record → Ordering} {found : List Record}
    (ties : ∀ a ∈ matching, ∀ b ∈ matching, order a b = .eq ↔ Ties clauses a b)
    (one : ∀ record ∈ found, record ∈ matching) (other : ∀ record ∈ rows, record ∈ matching) :
    List.Forall₂ (fun a b => order a b = .eq) found rows ↔ List.Forall₂ (Ties clauses) found rows := by
  induction found generalizing rows with
  | nil => simp
  | cons a found ih =>
    cases rows with
    | nil => simp
    | cons b rows =>
      rw [List.forall_mem_cons] at one other
      rw [List.forall₂_cons, List.forall₂_cons, ties a one.1 b other.1, ih one.2 other.2]

/-- Records sorted with the nulls above everything agree with rows that have them below everything
exactly if nulls are alike. -/
theorem ties_iff_nullsAlike (comparable : ComparableIn clauses matching) {sorted : List Record}
    (perm : sorted.Perm matching) (arranged : Arranged (recordOrder nullLast clauses) sorted)
    (ordered : OrderedBy clauses matching rows) : List.Forall₂ (Ties clauses) sorted rows ↔
      ∀ a ∈ matching, ∀ b ∈ matching, NullsAlike clauses a b := by
  have above : Ranked (recordOrder nullLast clauses) matching :=
    ranked_recordOrder fun clause listed => (comparable clause listed).ranked_nullLast
  have below : Ranked (recordOrder Json.order clauses) matching :=
    ranked_recordOrder fun clause listed => (comparable clause listed).ranked_order
  have kept : ∀ record ∈ sorted, record ∈ matching := fun _ => perm.mem_iff.mp
  have keptToo : ∀ record ∈ rows, record ∈ matching := fun _ => ordered.perm.mem_iff.mp
  constructor
  · intro agree a one b other
    by_contra unlike
    rw [← forall₂_ties_iff (fun _ one _ other => recordOrder_nullLast_eq_iff comparable one other)
      kept keptToo] at agree
    have both := above.arranged_of_forall₂ kept keptToo agree arranged
    obtain ⟨turned, decides⟩ := recordOrder_swap comparable one other unlike
    exact decides ((below.subset keptToo).not_opposite (above.subset keptToo) ordered.arranged both
      (ordered.perm.mem_iff.mpr one) (ordered.perm.mem_iff.mpr other) turned)
  · intro alike
    rw [← forall₂_ties_iff (fun _ one _ other => recordOrder_nullLast_eq_iff comparable one other)
      kept keptToo]
    have agree : ∀ a ∈ rows, ∀ b ∈ rows, recordOrder nullLast clauses a b =
        recordOrder Json.order clauses a b := fun a one b other =>
      (alike a (keptToo a one) b (keptToo b other)).recordOrder_eq comparable (keptToo a one)
        (keptToo b other)
    refine above.forall₂_of_arranged perm ordered.perm arranged ?_
    exact (List.Pairwise.iff_of_mem fun one other => by rw [agree _ one _ other]).mpr
      ordered.arranged

end Ties

section Windows

/-- A window that does not count from the end. -/
structure Window.IsForward (window : Window) : Prop where
  offset : 0 ≤ window.offset
  limit : ∀ limit, window.limit = some limit → 0 ≤ limit

theorem position_of_nonneg {length : Nat} {index : Int} (forward : 0 ≤ index) :
    position length index = min index.toNat length := by
  rw [position, if_neg (by omega)]

private theorem drop_min_length {α : Type} {items others : List α} (count : Nat)
    (shorter : others.length ≤ items.length) :
    others.drop (min count items.length) = others.drop count := by
  by_cases within : count ≤ items.length
  · rw [Nat.min_eq_left within]
  · rw [Nat.min_eq_right (by omega), List.drop_of_length_le shorter,
      List.drop_of_length_le (by omega)]

/-- A window that does not count from the end skips some items and keeps some of the others. -/
theorem Window.IsForward.cut_eq {α : Type} {window : Window} (forward : window.IsForward)
    (items : List α) : window.cut items = match window.limit with
      | none => items.drop window.offset.toNat
      | some limit => (items.drop window.offset.toNat).take limit.toNat := by
  obtain ⟨offset, limit⟩ := window
  have start : 0 ≤ offset := forward.offset
  cases limit with
  | none =>
    simp only [Window.cut, slice, Option.map_none, position_of_nonneg start, List.take_length]
    exact drop_min_length _ le_rfl
  | some limit =>
    have size : 0 ≤ limit := forward.limit limit rfl
    have kept : (offset + limit).toNat - offset.toNat = limit.toNat := by omega
    simp only [Window.cut, slice, Option.map_some, position_of_nonneg start,
      position_of_nonneg (Int.add_nonneg start size)]
    rw [drop_min_length _ (List.length_take_le' _ _), ← List.take_eq_take_min, List.drop_take, kept]

theorem map_page {window : Window} (forward : window.IsForward) (rows : List Row) :
    (page (some window.offset) window.limit rows).map Row.record =
      window.cut (rows.map Row.record) := by
  rw [forward.cut_eq]
  cases limited : window.limit with
  | none => exact List.map_drop
  | some limit =>
    simp only [page, Option.getD_some, if_neg (not_lt.mpr (forward.limit limit limited)),
      List.map_take, List.map_drop]

theorem forall₂_cut {α : Type} {relation : α → α → Prop} {found rows : List α} (window : Window)
    (agree : List.Forall₂ relation found rows) :
    List.Forall₂ relation (window.cut found) (window.cut rows) := by
  unfold Window.cut slice
  rw [agree.length_eq]
  exact List.forall₂_drop _ (List.forall₂_take _ agree)

theorem isForward_whole : Window.IsForward {} := ⟨le_rfl, nofun⟩

end Windows

section Sources

variable {clauses : List Clause} {conditions : Conditions} {wanted order filter : Json}
  {window : Window} {store : Store} {entity : String}

/-- A filter asks for what is wanted in an order, and for a window of it. -/
structure AsksPage (wanted order filter : Json) (window : Window) : Prop where
  readable : ∃ fields, Asks filter fields
  wants : filter.get "where" = wanted
  orders : filter.get "order" = order
  shows : readWindow filter = .ok window
  forward : window.IsForward

theorem AsksPage.whole (wanted order : Json) :
    AsksPage wanted order (.obj [("where", wanted), ("order", order)]) {} where
  readable := ⟨_, .inl rfl⟩
  wants := rfl
  orders := rfl
  shows := rfl
  forward := isForward_whole

/-- The records of a table that are wanted, in an order. -/
def arrangement (table : List Record) (wanted order : Json) : Except Fault (List Record) := do
  let conditions ← conditionsOver table wanted
  let clauses ← readOrder order
  sortByAll clauses (select conditions table)

/-- A source in memory answers a filter with a window of what is wanted, in the order that is asked
for; it fails whatever the window if there is no such order. -/
theorem AsksPage.reply (page : AsksPage wanted order filter window) (store : Store) (entity : String) :
    (store.call (.find entity filter)).2 =
      (arrangement (store.table entity) wanted order).map fun sorted =>
        .records (window.cut sorted) := by
  obtain ⟨fields, read, same⟩ := exists_readFilter page.readable
  have shown : readWindow fields = .ok window := by
    rw [← page.shows, readWindow, readWindow, same, same]
  simp only [Store.call, read, readQuery, same, page.wants, page.orders, shown, arrangement]
  cases conditionsOver (store.table entity) wanted with
  | error => rfl
  | ok conditions =>
    cases readOrder order with
    | error => rfl
    | ok clauses =>
      simp only [ok_bind, pure_bind, Query.answer]
      cases sortByAll clauses (select conditions (store.table entity)) <;> rfl

/-- A source in memory answers all filters with windows of one arrangement of the records. -/
theorem exists_found_of_orderable (asks : Asks wanted conditions) (reads : readOrder order = .ok clauses)
    (orderable : OrderableIn clauses (select conditions (store.table entity))) :
    ∃ sorted, sorted.Perm (select conditions (store.table entity)) ∧
      Arranged (recordOrder nullLast clauses) sorted ∧
      (∀ record ∈ select conditions (store.table entity),
        sorted.filter (fun other => recordOrder nullLast clauses record other == .eq) =
          (select conditions (store.table entity)).filter fun other =>
            recordOrder nullLast clauses record other == .eq) ∧
      ∀ filter window, AsksPage wanted order filter window →
        (store.call (.find entity filter)).2 = .ok (.records (window.cut sorted)) := by
  obtain ⟨sorted, done, arranged, places⟩ := exists_sortByAll orderable
  obtain ⟨known, asked, selected, _⟩ := exists_conditionsOver (store.table entity) asks
  have sorts : arrangement (store.table entity) wanted order = .ok sorted := by
    rw [arrangement, asked, reads, ok_bind, ok_bind, selected, done]
  refine ⟨sorted, perm_of_sortByAll done, arranged, places, fun filter window page => ?_⟩
  rw [page.reply, sorts]
  rfl

theorem exists_found (asks : Asks wanted conditions) (reads : readOrder order = .ok clauses)
    (comparable : ComparableIn clauses (select conditions (store.table entity))) :
    ∃ sorted, sorted.Perm (select conditions (store.table entity)) ∧
      Arranged (recordOrder nullLast clauses) sorted ∧
      ∀ filter window, AsksPage wanted order filter window →
        (store.call (.find entity filter)).2 = .ok (.records (window.cut sorted)) := by
  obtain ⟨sorted, same, arranged, _, answers⟩ :=
    exists_found_of_orderable asks reads comparable.orderable
  exact ⟨sorted, same, arranged, answers⟩

/-- A source in memory that is asked for all records that match finds just them, in the order of all
clauses: the first one that tells two records apart decides, with nulls behind everything, or before
everything if it is descending. Records that no clause tells apart stay as they stand in the table. -/
theorem find_sorts_stably (store : Store) (entity : String) (asks : Asks wanted conditions)
    (reads : readOrder order = .ok clauses) (page : AsksPage wanted order filter {})
    (orderable : OrderableIn clauses (select conditions (store.table entity))) :
    ∃ found, (store.call (.find entity filter)).2 = .ok (.records found) ∧
      found.Perm (select conditions (store.table entity)) ∧
      Arranged (recordOrder nullLast clauses) found ∧
      ∀ record ∈ found,
        found.filter (fun other => recordOrder nullLast clauses record other == .eq) =
          (select conditions (store.table entity)).filter fun other =>
            recordOrder nullLast clauses record other == .eq := by
  obtain ⟨sorted, same, arranged, places, answers⟩ :=
    exists_found_of_orderable asks reads orderable
  have answered := answers filter {} page
  rw [cut_whole] at answered
  exact ⟨sorted, answered, same, arranged, fun record listed => places record (same.mem_iff.mp listed)⟩

/-- Books by the place on their shelf, which one of them does not have, and by their rank. -/
def shelved (number : Nat) (place rank : Json) : Record :=
  [("id", .nat number), ("place", place), ("rank", rank)]

def bookStore : Store :=
  { tables := [("Book", [shelved 1 (.arr [.nat 1, .str "b"]) (.nat 2),
      shelved 2 (.arr [.nat 1, .str "a"]) .null, shelved 3 .null (.nat 5),
      shelved 4 (.arr [.nat 1, .str "b"]) (.nat 2), shelved 5 (.arr [.nat 1, .str "b"]) (.nat 1)])] }

theorem orderable_places :
    Orderable ((select [] (bookStore.table "Book")).map (valueOf · "place")) := by
  change Orderable [arr [nat 1, str "b"], arr [nat 1, str "a"], null, arr [nat 1, str "b"],
    arr [nat 1, str "b"]]
  have level : Settled (arr [nat 1, str "b"]) (arr [nat 1, str "b"]) := by
    have same : (arr [nat 1, str "b"]).same (arr [nat 1, str "b"]) = true := by
      simp [same, sameItems, nat, quantity?]
    exact .of_same same same
  have apart : Settled (arr [nat 1, str "b"]) (arr [nat 1, str "a"]) := by
    have texts : compareOfLessAndEq "b" "a" = .gt ∧ compareOfLessAndEq "a" "b" = .lt := by decide
    refine ⟨?_, .inr (.inr ?_)⟩
    · simp [comparable, comparableItems, same, nat, quantity?]
    · simp [order, orderItems, same, nat, quantity?, texts]
  simp [Orderable, level, apart, apart.symm]

private theorem orderable_ranks :
    Orderable ((select [] (bookStore.table "Book")).map (valueOf · "rank")) := by
  refine MutuallyComparable.orderable (.inl ?_)
  change ∀ value ∈ [nat 2, null, nat 5, nat 2, nat 1], _
  simp [nat, quantity?]

/-- Books that have the same place and rank stay as they stand. -/
theorem find_sorts_stably_books :
    Asks .null [] ∧
    readOrder (strings ["place DESC", "rank"]) = .ok [⟨"place", true⟩, ⟨"rank", false⟩] ∧
    AsksPage .null (strings ["place DESC", "rank"])
      (.obj [("where", .null), ("order", strings ["place DESC", "rank"])]) {} ∧
    OrderableIn [⟨"place", true⟩, ⟨"rank", false⟩] (select [] (bookStore.table "Book")) ∧
    ∃ found, (bookStore.call (.find "Book"
        (.obj [("where", .null), ("order", strings ["place DESC", "rank"])]))).2 =
          .ok (.records found) ∧
      found.Perm (select [] (bookStore.table "Book")) ∧
      Arranged (recordOrder nullLast [⟨"place", true⟩, ⟨"rank", false⟩]) found ∧
      ∀ record ∈ found, found.filter
          (fun other => recordOrder nullLast [⟨"place", true⟩, ⟨"rank", false⟩] record other == .eq) =
        (select [] (bookStore.table "Book")).filter fun other =>
          recordOrder nullLast [⟨"place", true⟩, ⟨"rank", false⟩] record other == .eq := by
  have asks : Asks .null [] := .inr ⟨rfl, rfl⟩
  have reads : readOrder (strings ["place DESC", "rank"]) =
      .ok [⟨"place", true⟩, ⟨"rank", false⟩] := rfl
  have orderable : OrderableIn [⟨"place", true⟩, ⟨"rank", false⟩]
      (select [] (bookStore.table "Book")) := by
    rw [OrderableIn, List.forall_mem_cons, List.forall_mem_singleton]
    exact ⟨orderable_places, orderable_ranks⟩
  exact ⟨asks, reads, .whole _ _, orderable,
    find_sorts_stably bookStore "Book" asks reads (.whole _ _) orderable⟩

end Sources

section Relational

variable {clauses : List Clause} {wanted order filter : Json} {window : Window}

private theorem valueOf_record (row : Row) (column : Column) :
    valueOf row.record column.label = row.value column := by
  cases column <;> rfl

private theorem orderRows_eq (columns : List (Column × Bool)) (a b : Row) : orderRows columns a b =
    recordOrder Json.order (columns.map fun column => ⟨column.1.label, column.2⟩) a.record b.record := by
  induction columns with
  | nil => rfl
  | cons column columns ih =>
    rw [orderRows, ih, List.map_cons, recordOrder, Clause.order, valueOf_record, valueOf_record]
    rfl

theorem label_of_ofName {name : String} {column : Column} (known : Column.ofName name = .ok column) :
    column.label = name := by
  unfold Column.ofName at known
  split at known
  · rename_i found
    obtain rfl := Except.ok.inj known
    have named := List.find?_some found
    exact eq_of_beq named
  · cases known

private theorem clauses_of_columns {columns : List (Column × Bool)}
    (known : (clauses.mapM fun clause => do
      return (← Column.ofName clause.field, clause.descending)) = Except.ok columns) :
    columns.map (fun column => ⟨column.1.label, column.2⟩) = clauses := by
  have same : columns.map (fun column => Clause.mk column.1.label column.2) = clauses.map id := by
    refine map_of_mapM (fun clause column made => ?_) known
    obtain ⟨given, named, made⟩ := bind_eq_ok_iff.mp made
    obtain rfl := Except.ok.inj made
    rw [label_of_ofName named, id_eq]
  rwa [List.map_id] at same

theorem readCount_of_readIndex {value : Json} {count : Option Int}
    (read : readIndex value = .ok count) : readCount value = .ok count := by
  unfold readIndex at read
  unfold readCount readIndex
  split at read
  · rename_i absent
    rw [if_pos absent, read]
  · rename_i given
    rw [if_neg given]
    cases value with
    | bool | int => exact (if_neg given).trans read
    | null | float | str | arr | obj => cases read

theorem get_of_readFilter {fields : Json} (read : readFilter filter = .ok fields) (key : String) :
    fields.get key = filter.get key := by
  cases filter with
  | obj entries =>
    obtain rfl := Except.ok.inj read
    rfl
  | null | bool | int | float | str | arr =>
    unfold readFilter at read
    simp only at read
    split at read
    · cases read
    · obtain rfl := Except.ok.inj read
      rfl

theorem orderedBy_sortRows {columns : List (Column × Bool)} {matching : List Row}
    (known : columns.map (fun column => ⟨column.1.label, column.2⟩) = clauses)
    (comparable : ComparableIn clauses (matching.map Row.record)) :
    OrderedBy clauses (matching.map Row.record) ((sortRows columns matching).map Row.record) := by
  have ranked : Ranked (recordOrder Json.order clauses) (matching.map Row.record) :=
    ranked_recordOrder fun clause listed => (comparable clause listed).ranked_order
  constructor
  · exact (List.mergeSort_perm _ _).map _
  · have same : orderRows columns =
        fun a b => recordOrder Json.order clauses a.record b.record := by
      funext a b
      rw [orderRows_eq, known]
    rw [Arranged, List.pairwise_map, sortRows, same]
    exact ranked.of_map.arranged_mergeSort

/-- A relational source answers a filter with a window of the rows that it selects, in such an order. -/
theorem Table.find_ordered {table : Table} {matching found : List Row}
    (page : AsksPage wanted order filter window) (reads : readOrder order = .ok clauses)
    (chosen : table.selectRows wanted = .ok matching)
    (comparable : ComparableIn clauses (matching.map Row.record))
    (done : table.find filter = .ok found) : ∃ rows,
      OrderedBy clauses (matching.map Row.record) rows ∧ found.map Row.record = window.cut rows := by
  obtain ⟨fields, read, done⟩ := bind_eq_ok_iff.mp done
  have same := get_of_readFilter read
  obtain ⟨conditions, wants, done⟩ := bind_eq_ok_iff.mp done
  obtain ⟨columns, placed, done⟩ := bind_eq_ok_iff.mp done
  obtain ⟨known, asked, done⟩ := bind_eq_ok_iff.mp done
  rw [same, page.orders, reads] at asked
  obtain rfl := Except.ok.inj asked
  obtain ⟨ordering, named, done⟩ := bind_eq_ok_iff.mp done
  obtain ⟨offset, first, done⟩ := bind_eq_ok_iff.mp done
  obtain ⟨limit, size, done⟩ := bind_eq_ok_iff.mp done
  obtain ⟨selected, kept, done⟩ := bind_eq_ok_iff.mp done
  obtain rfl := Except.ok.inj done
  -- Both read the same conditions out of the filter, and the same window.
  have again : table.selectRows wanted = .ok selected := by
    rw [same, page.wants] at wants
    exact bind_eq_ok_iff.mpr ⟨conditions, wants, bind_eq_ok_iff.mpr ⟨columns, placed, kept⟩⟩
  obtain rfl := Except.ok.inj (again.symm.trans chosen)
  obtain ⟨start, here, shown⟩ := bind_eq_ok_iff.mp page.shows
  obtain ⟨most, there, shown⟩ := bind_eq_ok_iff.mp shown
  obtain rfl := Except.ok.inj shown
  rw [same, readCount_of_readIndex here] at first
  rw [same, readCount_of_readIndex there] at size
  obtain rfl := Except.ok.inj first
  obtain rfl := Except.ok.inj size
  exact ⟨_, orderedBy_sortRows (clauses_of_columns named) comparable, map_page page.forward _⟩

end Relational

section Agreement

variable {clauses : List Clause} {conditions : Conditions} {wanted order : Json}

/-- A source in memory finds records in the order of a relational source, up to records with the same
values in all ordered fields, whatever the window, exactly if no clause has to tell a null from another
value. A table that selects the same records finds them in such an order. -/
theorem find_order_agrees_iff (store : Store) (entity : String) (asks : Asks wanted conditions)
    (reads : readOrder order = .ok clauses)
    (comparable : ComparableIn clauses (select conditions (store.table entity)))
    {rows : List Record}
    (ordered : OrderedBy clauses (select conditions (store.table entity)) rows) :
    ((∀ filter window, AsksPage wanted order filter window → ∃ found,
      (store.call (.find entity filter)).2 = .ok (.records found) ∧
      List.Forall₂ (Ties clauses) found (window.cut rows)) ↔
    ∀ a ∈ select conditions (store.table entity), ∀ b ∈ select conditions (store.table entity),
      NullsAlike clauses a b) ∧
    ∀ (table : Table) (matching : List Row), table.selectRows wanted = .ok matching →
      matching.map Row.record = select conditions (store.table entity) →
      ∀ filter window found, AsksPage wanted order filter window → table.find filter = .ok found →
        ∃ rows, OrderedBy clauses (select conditions (store.table entity)) rows ∧
          found.map Row.record = window.cut rows := by
  refine ⟨?_, fun table matching chosen same filter window found page done =>
    same ▸ Table.find_ordered page reads chosen (same ▸ comparable) done⟩
  obtain ⟨sorted, perm, arranged, answers⟩ := exists_found asks reads comparable
  rw [← ties_iff_nullsAlike comparable perm arranged ordered]
  constructor
  · intro agree
    obtain ⟨found, answered, tied⟩ := agree _ _ (.whole wanted order)
    rw [answers _ _ (.whole wanted order)] at answered
    obtain rfl := Reply.records.inj (Except.ok.inj answered)
    rwa [cut_whole, cut_whole] at tied
  · intro tied filter window page
    exact ⟨_, answers filter window page, forall₂_cut window tied⟩

/-- An item without a rank, and one with the first rank. -/
def unranked : Record := [("id", .nat 1), ("name", .str "a"), ("rank", .null)]

def topRanked : Record := [("id", .nat 2), ("name", .str "b"), ("rank", .nat 1)]

/-- The two items in a store and in a table. -/
def itemStore : Store :=
  { tables := [("Item", [unranked, topRanked])], issued := [("Item", 0)] }

def itemTable : Table := [⟨1, "a", .null⟩, ⟨2, "b", .nat 1⟩]

theorem comparable_names : MutuallyComparable ([unranked, topRanked].map (valueOf · "name")) := by
  refine .inr ?_
  change ∀ value ∈ [str "a", str "b"], _
  simp

theorem comparable_ranks : MutuallyComparable ([unranked, topRanked].map (valueOf · "rank")) := by
  refine .inl ?_
  change ∀ value ∈ [null, nat 1], _
  simp [nat, quantity?]

/-- Names tell the items apart before ranks are asked for. -/
theorem find_order_agrees_iff_names :
    Asks .null [] ∧
    readOrder (strings ["name DESC", "rank"]) = .ok [⟨"name", true⟩, ⟨"rank", false⟩] ∧
    ComparableIn [⟨"name", true⟩, ⟨"rank", false⟩] (select [] (itemStore.table "Item")) ∧
    OrderedBy [⟨"name", true⟩, ⟨"rank", false⟩] (select [] (itemStore.table "Item"))
      [topRanked, unranked] ∧
    ∀ filter window, AsksPage .null (strings ["name DESC", "rank"]) filter window → ∃ found,
      (itemStore.call (.find "Item" filter)).2 = .ok (.records found) ∧
      List.Forall₂ (Ties [⟨"name", true⟩, ⟨"rank", false⟩]) found
        (window.cut [topRanked, unranked]) ∧
      ∀ rows, itemTable.find filter = .ok rows → ∃ ordered,
        OrderedBy [⟨"name", true⟩, ⟨"rank", false⟩] (select [] (itemStore.table "Item")) ordered ∧
          rows.map Row.record = window.cut ordered := by
  have asks : Asks .null [] := .inr ⟨rfl, rfl⟩
  have reads : readOrder (strings ["name DESC", "rank"]) =
      .ok [⟨"name", true⟩, ⟨"rank", false⟩] := rfl
  have comparable : ComparableIn [⟨"name", true⟩, ⟨"rank", false⟩]
      (select [] (itemStore.table "Item")) := by
    rw [ComparableIn, List.forall_mem_cons, List.forall_mem_singleton]
    exact ⟨comparable_names, comparable_ranks⟩
  have ordered : OrderedBy [⟨"name", true⟩, ⟨"rank", false⟩] (select [] (itemStore.table "Item"))
      [topRanked, unranked] := ⟨.swap _ _ _, by decide⟩
  have alike : ∀ a ∈ [unranked, topRanked], ∀ b ∈ [unranked, topRanked],
      NullsAlike [⟨"name", true⟩, ⟨"rank", false⟩] a b := by
    have first : valueOf unranked "name" = str "a" := rfl
    have second : valueOf topRanked "name" = str "b" := rfl
    simp [NullsAlike, first, second, same_str_iff]
  obtain ⟨agrees, tabled⟩ := find_order_agrees_iff itemStore "Item" asks reads comparable ordered
  refine ⟨asks, reads, comparable, ordered, fun filter window page => ?_⟩
  obtain ⟨found, answered, tied⟩ := agrees.mpr alike filter window page
  exact ⟨found, answered, tied, fun rows done =>
    tabled itemTable itemTable rfl rfl filter window rows page done⟩

private theorem mergeSort_pair {α : Type} (le : α → α → Bool) (a b : α) :
    [a, b].mergeSort le = if le a b then [a, b] else [b, a] := by
  simp [List.mergeSort, List.merge, List.MergeSort.Internal.splitInTwo]

/-- By their ranks, a source in memory finds the item without one last, and a relational source finds
it first. -/
theorem unranked_found_apart :
    readOrder (.str "rank") = .ok [⟨"rank", false⟩] ∧
    ComparableIn [⟨"rank", false⟩] [unranked, topRanked] ∧
    ((Source.memory {}).call (.create "Item" (.arr ([unranked, topRanked].map .obj)))).1 =
      .memory itemStore ∧
    ((Source.relational []).call (.create "Item" (.arr ([unranked, topRanked].map .obj)))).1 =
      .relational itemTable ∧
    ∃ found rows,
      (itemStore.call (.find "Item" (.obj [("order", .str "rank")]))).2 = .ok (.records found) ∧
      itemTable.find (.obj [("order", .str "rank")]) = .ok rows ∧
      ¬ List.Forall₂ (Ties [⟨"rank", false⟩]) found (rows.map Row.record) := by
  have sorted : sortByAll [⟨"rank", false⟩] [unranked, topRanked] = .ok [topRanked, unranked] := by
    rw [sortByAll, sortByAll, ok_bind, sortBy, if_pos (by decide), mergeSort_pair]
    rfl
  have answered : Query.answer ⟨[], [⟨"rank", false⟩], {}⟩ (itemStore.table "Item") =
      .ok [topRanked, unranked] := by
    change (sortByAll [⟨"rank", false⟩] [unranked, topRanked] >>= fun sorted =>
      .ok (Window.cut {} sorted)) = _
    rw [sorted]
    rfl
  refine ⟨rfl, ?_, rfl, rfl, [topRanked, unranked], itemTable, ?_, ?_, ?_⟩
  · rw [ComparableIn, List.forall_mem_singleton]
    exact comparable_ranks
  · change (Query.answer ⟨[], [⟨"rank", false⟩], {}⟩ (itemStore.table "Item") >>= fun records =>
      .ok (Reply.records records)) = _
    rw [answered]
    rfl
  · change Except.ok (page none none (sortRows [(.rank, false)] itemTable)) = _
    rw [sortRows, itemTable, mergeSort_pair]
    rfl
  · intro agree
    have ranks : (nat 1).same null = true :=
      (List.forall₂_cons.mp agree).1 ⟨"rank", false⟩ List.mem_cons_self
    exact Json.noConfusion (same_null_right_iff.mp ranks)

end Agreement

end Blueprint.Records
