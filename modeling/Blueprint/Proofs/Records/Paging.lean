import Blueprint.Proofs.Records.Arrangement

namespace Blueprint.Records

open Json

section Pages

variable {α : Type} {limit offset : Nat} {items : List α}

/-- What is shown of items behind an offset: at most as many as the limit says, where zero is no
limit. -/
def shownPage (limit offset : Nat) (items : List α) : List α :=
  if limit = 0 then items.drop offset else (items.drop offset).take limit

theorem shownPage_of_pos (given : 0 < limit) :
    shownPage limit offset items = (items.drop offset).take limit :=
  if_neg (Nat.ne_of_gt given)

theorem shownPage_zero : shownPage 0 offset items = items.drop offset := rfl

private theorem shownPage_eq_iff : shownPage limit offset items = (items.drop offset).take limit ↔
    0 < limit ∨ items.length ≤ offset := by
  rcases Nat.eq_zero_or_pos limit with rfl | given
  · rw [shownPage_zero, List.take_zero, List.drop_eq_nil_iff]
    simp
  · exact iff_of_true (shownPage_of_pos given) (Or.inl given)

private theorem length_shownPage_le_iff : (shownPage limit offset items).length ≤ limit ↔
    0 < limit ∨ items.length ≤ offset := by
  rcases Nat.eq_zero_or_pos limit with rfl | given
  · rw [shownPage_zero, List.length_drop]
    omega
  · rw [shownPage_of_pos given]
    exact iff_of_true (List.length_take_le _ _) (Or.inl given)

private theorem flatten_pages (size : Nat) (items : List α) (count : Nat) :
    ((List.range count).map fun number => (items.drop (number * size)).take size).flatten =
      items.take (count * size) := by
  induction count with
  | zero => simp
  | succ count ih =>
    rw [List.range_succ, List.map_append, List.flatten_append, ih, Nat.succ_mul, List.take_add]
    simp

end Pages

/-- A filter asks for what is wanted in an order, with a limit and an offset; null is none. -/
structure AsksFor (wanted order limit offset filter : Json) : Prop where
  readable : ∃ fields, Asks filter fields
  wants : filter.get "where" = wanted
  orders : filter.get "order" = order
  limits : filter.get "limit" = limit
  skips : filter.get "offset" = offset

section Filters

variable {wanted order filter : Json} {limit offset : Nat}

/-- The window that a filter with numbers shows. -/
def windowOf (limit offset : Nat) : Window where
  offset := offset
  limit := if limit = 0 then none else some (limit : Int)

private theorem isForward_windowOf (limit offset : Nat) : (windowOf limit offset).IsForward := by
  refine ⟨Int.natCast_nonneg offset, fun size limited => ?_⟩
  simp only [windowOf, Option.ite_none_left_eq_some] at limited
  rw [← Option.some.inj limited.2]
  exact Int.natCast_nonneg limit

private theorem cut_windowOf {α : Type} (limit offset : Nat) (items : List α) :
    (windowOf limit offset).cut items = shownPage limit offset items := by
  rw [(isForward_windowOf limit offset).cut_eq]
  rcases Nat.eq_zero_or_pos limit with rfl | given
  · rfl
  · rw [shownPage_of_pos given]
    simp only [windowOf, if_neg (Nat.ne_of_gt given), Int.toNat_natCast]

private theorem readIndex_nat (number : Nat) :
    readIndex (.nat number) = .ok (if number = 0 then none else some (number : Int)) := by
  rcases Nat.eq_zero_or_pos number with rfl | given
  · rfl
  · have truthy : (int number).isTruthy = true := by
      simpa [isTruthy] using Nat.ne_of_gt given
    rw [nat, readIndex, truthy, if_neg (Nat.ne_of_gt given)]
    rfl

theorem AsksFor.page (asks : AsksFor wanted order (.nat limit) (.nat offset) filter) :
    AsksPage wanted order filter (windowOf limit offset) where
  readable := asks.readable
  wants := asks.wants
  orders := asks.orders
  shows := by
    have start : (if offset = 0 then none else some (offset : Int)).getD 0 = offset := by
      split
      · rename_i zero
        rw [zero]
        rfl
      · rfl
    rw [readWindow, asks.skips, asks.limits, readIndex_nat, readIndex_nat, ok_bind, ok_bind, start]
    rfl
  forward := isForward_windowOf limit offset

/-- A filter without a limit and an offset asks for everything. -/
theorem AsksFor.whole (asks : AsksFor wanted order .null .null filter) :
    AsksPage wanted order filter {} where
  readable := asks.readable
  wants := asks.wants
  orders := asks.orders
  shows := by
    rw [readWindow, asks.skips, asks.limits]
    rfl
  forward := isForward_whole

end Filters

section Sources

variable {wanted order whole : Json} {found : List Record}

/-- Records are found in pages: a filter with numbers is answered with a page of them, at most `limit`
records behind the first `offset`, exactly if the limit is not zero or nothing stands behind the offset.
The pages of a size, asked for one after another, are the records that are found. -/
structure FoundInPages (store : Store) (entity : String) (wanted order : Json) (found : List Record) :
    Prop where
  page : ∀ limit offset filter, AsksFor wanted order (.nat limit) (.nat offset) filter →
    ∃ records, (store.call (.find entity filter)).2 = .ok (.records records) ∧
      (records = (found.drop offset).take limit ↔ 0 < limit ∨ found.length ≤ offset) ∧
      (records.length ≤ limit ↔ 0 < limit ∨ found.length ≤ offset) ∧
      (limit = 0 → records = found.drop offset)
  pages : ∀ limit count (filters : Nat → Json), 0 < limit → found.length ≤ count * limit →
    (∀ number, AsksFor wanted order (.nat limit) (.nat (number * limit)) (filters number)) →
    ∃ after, ∃ pages : List (List Record), Source.run (.memory store)
        ((List.range count).map fun number => .find entity (filters number)) =
          (.memory after, pages.map fun records => .ok (.records records)) ∧
      pages.flatten = found

private theorem table_find (store : Store) (entity : String) (filter : Json) :
    (store.call (.find entity filter)).1.table = store.table := by
  simp only [Store.call]
  split
  · rfl
  · exact Store.table_touch store entity

theorem AsksFor.reply {filter : Json} {limit offset : Nat} {store : Store} {entity : String}
    (asks : AsksFor wanted order (.nat limit) (.nat offset) filter)
    (arranged : arrangement (store.table entity) wanted order = .ok found) :
    (store.call (.find entity filter)).2 = .ok (.records (shownPage limit offset found)) := by
  rw [asks.page.reply, arranged, Except.map, cut_windowOf]

theorem run_pages {entity : String} {limit : Nat} {filters : Nat → Json}
    (asks : ∀ number, AsksFor wanted order (.nat limit) (.nat (number * limit)) (filters number))
    (numbers : List Nat) (store : Store)
    (arranged : arrangement (store.table entity) wanted order = .ok found) :
    ∃ after, Source.run (.memory store) (numbers.map fun number => .find entity (filters number)) =
      (.memory after, numbers.map fun number =>
        .ok (.records (shownPage limit (number * limit) found))) := by
  induction numbers generalizing store with
  | nil => exact ⟨store, rfl⟩
  | cons number numbers ih =>
    obtain ⟨after, ran⟩ := ih (store.call (.find entity (filters number))).1 (by rwa [table_find])
    refine ⟨after, ?_⟩
    rw [List.map_cons, List.map_cons, ← (asks number).reply arranged]
    simp only [Source.run, Source.call, ran]

/-- A source in memory that is asked for what is wanted in an order finds it in pages, or finds nothing
for the same reason whatever the limit and the offset. -/
theorem find_in_pages (store : Store) (entity : String) (asks : AsksFor wanted order .null .null whole) :
    (∃ fault, (store.call (.find entity whole)).2 = .error fault ∧
      ∀ limit offset filter, AsksFor wanted order (.nat limit) (.nat offset) filter →
        (store.call (.find entity filter)).2 = .error fault) ∨
    ∃ found, (store.call (.find entity whole)).2 = .ok (.records found) ∧
      FoundInPages store entity wanted order found := by
  cases arranged : arrangement (store.table entity) wanted order with
  | error fault =>
    refine Or.inl ⟨fault, ?_, fun limit offset filter page => ?_⟩
    · rw [asks.whole.reply, arranged, Except.map]
    · rw [page.page.reply, arranged, Except.map]
  | ok found =>
    refine Or.inr ⟨found, ?_, ?_, ?_⟩
    · rw [asks.whole.reply, arranged, Except.map, cut_whole]
    · intro limit offset filter page
      refine ⟨_, page.reply arranged, shownPage_eq_iff, length_shownPage_le_iff, ?_⟩
      rintro rfl
      exact shownPage_zero
    · intro limit count filters given enough each
      obtain ⟨after, ran⟩ := run_pages each (List.range count) store arranged
      refine ⟨after, (List.range count).map fun number => shownPage limit (number * limit) found,
        ?_, ?_⟩
      · rw [ran, List.map_map]
        rfl
      · simp only [shownPage_of_pos given]
        rw [flatten_pages, List.take_of_length_le enough]

/-- Items in the order of their names are found in pages. -/
theorem find_in_pages_items :
    AsksFor .null (.str "name") .null .null (.obj [("order", .str "name")]) ∧
    ∃ found, (itemStore.call (.find "Item" (.obj [("order", .str "name")]))).2 =
        .ok (.records found) ∧
      FoundInPages itemStore "Item" .null (.str "name") found := by
  have asks : AsksFor .null (.str "name") .null .null (.obj [("order", .str "name")]) :=
    ⟨⟨_, .inl rfl⟩, rfl, rfl, rfl, rfl⟩
  have comparable : ComparableIn [⟨"name", false⟩] (select [] (itemStore.table "Item")) := by
    rw [ComparableIn, List.forall_mem_singleton]
    exact comparable_names
  have wanted : Asks .null [] := .inr ⟨rfl, rfl⟩
  have reads : readOrder (.str "name") = .ok [⟨"name", false⟩] := rfl
  obtain ⟨sorted, _, _, answers⟩ := exists_found wanted reads comparable
  refine ⟨asks, (find_in_pages itemStore "Item" asks).resolve_left ?_⟩
  rintro ⟨fault, failed, _⟩
  rw [answers _ _ asks.whole] at failed
  cases failed

/-- A limit of zero leaves both items where it should leave none. -/
theorem zero_limit_keeps_items :
    AsksFor .null .null .null .null (.obj []) ∧
    AsksFor .null .null (.nat 0) (.nat 0) (.obj [("limit", .nat 0), ("offset", .nat 0)]) ∧
    ∃ found, (itemStore.call (.find "Item" (.obj []))).2 = .ok (.records found) ∧
      ∃ records, (itemStore.call (.find "Item" (.obj [("limit", .nat 0), ("offset", .nat 0)]))).2 =
          .ok (.records records) ∧
        records ≠ (found.drop 0).take 0 ∧ ¬ records.length ≤ 0 := by
  refine ⟨⟨⟨_, .inl rfl⟩, rfl, rfl, rfl, rfl⟩, ⟨⟨_, .inl rfl⟩, rfl, rfl, rfl, rfl⟩,
    [unranked, topRanked], rfl, [unranked, topRanked], rfl, ?_, ?_⟩
  · exact List.cons_ne_nil _ _
  · decide

end Sources

end Blueprint.Records
