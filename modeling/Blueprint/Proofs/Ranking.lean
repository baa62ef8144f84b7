import Mathlib.Data.List.Forall2
import Mathlib.Data.List.Sort
import Mathlib.Data.Prod.Lex
import Mathlib.Order.Compare

namespace Blueprint

variable {α : Type}

/-- One of two different items of a list precedes the other. -/
theorem sublist_or_sublist {first second : α} {items : List α} (apart : first ≠ second)
    (one : first ∈ items) (other : second ∈ items) :
    [first, second].Sublist items ∨ [second, first].Sublist items := by
  induction items with
  | nil => cases one
  | cons item items ih =>
    rcases List.mem_cons.mp one with rfl | later
    · have behind : second ∈ items := (List.mem_cons.mp other).resolve_left (Ne.symm apart)
      exact Or.inl ((List.singleton_sublist.mpr behind).cons_cons _)
    · rcases List.mem_cons.mp other with rfl | behind
      · exact Or.inr ((List.singleton_sublist.mpr later).cons_cons _)
      · exact (ih later behind).imp (.cons _) (.cons _)

theorem compare_map {Rank Finer : Type} [LinearOrder Rank] [LinearOrder Finer] {image : Rank → Finer}
    (mono : StrictMono image) (first second : Rank) :
    compare (image first) (image second) = compare first second := by
  rw [← cmp_eq_compare, ← cmp_eq_compare]
  exact mono.cmp_map_eq first second

/-- The items of a list are compared by a rank: an order without contradictions, in which different
items may have the same place. -/
def Ranked (order : α → α → Ordering) (items : List α) : Prop :=
  ∃ (Rank : Type) (_ : LinearOrder Rank) (rank : α → Rank),
    ∀ first ∈ items, ∀ second ∈ items, order first second = compare (rank first) (rank second)

/-- No item of a list comes after one behind it. -/
def Arranged (order : α → α → Ordering) (items : List α) : Prop :=
  items.Pairwise fun first second => order first second ≠ .gt

instance (order : α → α → Ordering) (items : List α) : Decidable (Arranged order items) := by
  unfold Arranged
  infer_instance

namespace Ranked

variable {order later : α → α → Ordering} {items others : List α}

theorem subset (ranked : Ranked order items) (within : ∀ item ∈ others, item ∈ items) :
    Ranked order others := by
  obtain ⟨Rank, _, rank, same⟩ := ranked
  exact ⟨Rank, _, rank, fun first one second other => same first (within _ one) second (within _ other)⟩

theorem congr (ranked : Ranked order items)
    (agree : ∀ first ∈ items, ∀ second ∈ items, later first second = order first second) :
    Ranked later items := by
  obtain ⟨Rank, _, rank, same⟩ := ranked
  exact ⟨Rank, _, rank, fun first one second other =>
    (agree first one second other).trans (same first one second other)⟩

theorem eq_swap (ranked : Ranked order items) {first second : α} (one : first ∈ items)
    (other : second ∈ items) : order first second = (order second first).swap := by
  obtain ⟨Rank, _, rank, same⟩ := ranked
  rw [same first one second other, same second other first one]
  exact Std.OrientedOrd.eq_swap

theorem of_map {β : Type} {image : β → α} {sources : List β}
    (ranked : Ranked order (sources.map image)) :
    Ranked (fun first second => order (image first) (image second)) sources := by
  obtain ⟨Rank, _, rank, same⟩ := ranked
  exact ⟨Rank, _, rank ∘ image, fun first one second other =>
    same _ (List.mem_map_of_mem one) _ (List.mem_map_of_mem other)⟩

theorem ties (items : List α) : Ranked (fun _ _ => .eq) items :=
  ⟨PUnit, inferInstance, fun _ => ⟨⟩, fun _ _ _ _ => (Std.ReflCmp.compare_self).symm⟩

/-- The order turned round. -/
theorem swap (ranked : Ranked order items) :
    Ranked (fun first second => (order first second).swap) items := by
  obtain ⟨Rank, _, rank, same⟩ := ranked
  refine ⟨Rankᵒᵈ, inferInstance, fun item => OrderDual.toDual (rank item), ?_⟩
  intro first one second other
  change (order first second).swap = _
  rw [same first one second other, ← Std.OrientedOrd.eq_swap]
  rfl

/-- An order refined by another one. -/
theorem andThen (ranked : Ranked order items) (refined : Ranked later items) :
    Ranked (fun first second => (order first second).then (later first second)) items := by
  obtain ⟨Rank, _, rank, same⟩ := ranked
  obtain ⟨Finer, _, finer, alike⟩ := refined
  refine ⟨Rank ×ₗ Finer, inferInstance, fun item => toLex (rank item, finer item), ?_⟩
  intro first one second other
  change (order first second).then (later first second) = _
  rw [same first one second other, alike first one second other]
  rfl

end Ranked

section Sorting

variable {order later : α → α → Ordering} {items : List α}

section Rank

variable {Rank : Type} [LinearOrder Rank] (rank : α → Rank)

theorem decide_rank_trans (first second third : α) (one : decide (rank first ≤ rank second) = true)
    (two : decide (rank second ≤ rank third) = true) : decide (rank first ≤ rank third) = true := by
  rw [decide_eq_true_eq] at *
  exact one.trans two

private theorem decide_rank_total (first second : α) :
    (decide (rank first ≤ rank second) || decide (rank second ≤ rank first)) = true := by
  rw [Bool.or_eq_true, decide_eq_true_eq, decide_eq_true_eq]
  exact le_total _ _

/-- Sorting keeps the places of those items that it does not tell apart. -/
theorem filter_mergeSort (items : List α) (place : Rank) :
    (items.mergeSort fun first second => decide (rank first ≤ rank second)).filter
      (fun item => decide (rank item = place)) =
    items.filter fun item => decide (rank item = place) := by
  have level : (items.filter fun item => decide (rank item = place)).Pairwise
      fun first second => decide (rank first ≤ rank second) = true := by
    refine List.pairwise_of_forall_mem_list fun first one second other => ?_
    have here := of_decide_eq_true (List.mem_filter.mp one).2
    have there := of_decide_eq_true (List.mem_filter.mp other).2
    rw [decide_eq_true_eq, here, there]
  have kept := (List.sublist_mergeSort (decide_rank_trans rank) (decide_rank_total rank) level
    List.filter_sublist).filter fun item => decide (rank item = place)
  simp only [List.filter_filter, Bool.and_self] at kept
  exact (kept.eq_of_length ((List.mergeSort_perm _ _).filter _).length_eq.symm).symm

end Rank

theorem mergeSort_eq_of_rank {Rank : Type} [LinearOrder Rank] {rank : α → Rank}
    (same : ∀ first ∈ items, ∀ second ∈ items, order first second = compare (rank first) (rank second)) :
    (items.mergeSort fun first second => order first second != .gt) =
      items.mergeSort fun first second => decide (rank first ≤ rank second) := by
  have ordered : ∀ first ∈ items, ∀ second ∈ items,
      (order first second != .gt) = decide (rank first ≤ rank second) := by
    intro first one second other
    rw [same first one second other, Bool.eq_iff_iff, bne_iff_ne, decide_eq_true_eq]
    exact compare_le_iff_le
  have sorted : ((items.mergeSort fun first second => order first second != .gt).map id) =
      (items.map id).mergeSort fun first second => decide (rank first ≤ rank second) :=
    List.map_mergeSort ordered
  rwa [List.map_id, List.map_id] at sorted

/-- Sorting keeps the places of those items that the order does not tell from one of them. -/
theorem Ranked.filter_mergeSort (ranked : Ranked order items) {item : α} (member : item ∈ items) :
    (items.mergeSort fun first second => order first second != .gt).filter
      (fun other => order item other == .eq) = items.filter fun other => order item other == .eq := by
  obtain ⟨Rank, _, rank, same⟩ := ranked
  have level {others : List α} (within : ∀ other ∈ others, other ∈ items) :
      others.filter (fun other => order item other == .eq) =
        others.filter fun other => decide (rank other = rank item) := by
    refine List.filter_congr fun other listed => ?_
    rw [same item member other (within other listed), Bool.eq_iff_iff, beq_iff_eq, compare_eq_iff_eq,
      decide_eq_true_eq, eq_comm]
  rw [level fun other => List.mem_mergeSort.mp, level fun other => id, mergeSort_eq_of_rank same,
    Blueprint.filter_mergeSort]

/-- Sorting what is arranged by one order by another one arranges it by both. -/
theorem Ranked.arranged_mergeSort_then (ranked : Ranked order items) (before : Arranged later items) :
    Arranged (fun first second => (order first second).then (later first second))
      (items.mergeSort fun first second => order first second != .gt) := by
  obtain ⟨Rank, _, rank, same⟩ := ranked
  have sorted := mergeSort_eq_of_rank same
  rw [sorted, Arranged, List.pairwise_iff_forall_sublist]
  intro first second listed
  have one : first ∈ items := List.mem_mergeSort.mp (listed.subset (by simp))
  have other : second ∈ items := List.mem_mergeSort.mp (listed.subset (by simp))
  have placed : rank first ≤ rank second := by
    have ascending :=
      List.pairwise_mergeSort (decide_rank_trans rank) (decide_rank_total rank) items
    exact of_decide_eq_true (List.pairwise_iff_forall_sublist.mp ascending listed)
  rw [same first one second other]
  rcases placed.lt_or_eq with below | level
  · rw [compare_lt_iff_lt.mpr below]
    exact Ordering.noConfusion
  · -- Sorting keeps the order of items of one rank, which is that of the earlier sorting.
    have kept := listed.filter fun item => decide (rank item = rank second)
    rw [Blueprint.filter_mergeSort, List.filter_cons_of_pos (by simp [level]),
      List.filter_cons_of_pos (by simp), List.filter_nil] at kept
    rw [compare_eq_iff_eq.mpr level]
    exact List.pairwise_iff_forall_sublist.mp before (kept.trans List.filter_sublist)

theorem Ranked.arranged_mergeSort (ranked : Ranked order items) :
    Arranged order (items.mergeSort fun first second => order first second != .gt) := by
  have level : Arranged (fun _ _ => Ordering.eq) items :=
    List.pairwise_of_forall fun _ _ => Ordering.noConfusion
  refine (ranked.arranged_mergeSort_then level).imp fun {first second} ordered => ?_
  change (order first second).then .eq ≠ .gt at ordered
  rwa [Ordering.then_eq] at ordered

end Sorting

section Ranks

variable {order : α → α → Ordering} {items : List α}

theorem countP_lt_countP {fewer more : α → Bool}
    (counts : ∀ item ∈ items, fewer item = true → more item = true) {own : α} (member : own ∈ items)
    (refused : fewer own = false) (accepted : more own = true) :
    items.countP fewer < items.countP more := by
  obtain ⟨front, back, rfl⟩ := List.append_of_mem member
  have ahead : front.countP fewer ≤ front.countP more :=
    List.countP_mono_left fun item listed => counts item (by simp [listed])
  have behind : back.countP fewer ≤ back.countP more :=
    List.countP_mono_left fun item listed => counts item (by simp [listed])
  simp only [List.countP_append, List.countP_cons, refused, accepted, Bool.false_eq_true, ↓reduceIte]
  omega

/-- An order without contradictions is one by ranks: the rank of an item is how many come before it. -/
theorem ranked_of_trans
    (swap : ∀ first ∈ items, ∀ second ∈ items, order first second = (order second first).swap)
    (trans : ∀ first ∈ items, ∀ second ∈ items, ∀ third ∈ items,
      order first second ≠ .gt → order second third ≠ .gt → order first third ≠ .gt) :
    Ranked order items := by
  have before {first second third : α} (one : first ∈ items) (two : second ∈ items)
      (three : third ∈ items) (below : order first second = .lt) (upTo : order second third ≠ .gt) :
      order first third = .lt := by
    cases shape : order first third with
    | lt => rfl
    | gt => exact absurd shape (trans first one second two third three (by simp [below]) upTo)
    | eq =>
      have back := trans second two third three first one upTo (by
        rw [swap third three first one, shape]
        decide)
      rw [swap second two first one, below] at back
      exact absurd rfl back
  have itself (item : α) (one : item ∈ items) : (order item item == .lt) = false := by
    have turned := swap item one item one
    revert turned
    cases order item item <;> decide
  let rank (item : α) : Nat := items.countP fun other => order other item == .lt
  have lower {first second : α} (one : first ∈ items) (two : second ∈ items)
      (below : order first second = .lt) : rank first < rank second := by
    refine countP_lt_countP (fun other listed less => ?_) one (itself first one) (by simp [below])
    rw [beq_iff_eq] at less ⊢
    exact before listed one two less (by simp [below])
  refine ⟨Nat, inferInstance, rank, fun first one second two => ?_⟩
  cases shape : order first second with
  | lt => exact (compare_lt_iff_lt.mpr (lower one two shape)).symm
  | gt =>
    have turned : order second first = .lt := by rw [swap second two first one, shape]; rfl
    exact (compare_gt_iff_gt.mpr (lower two one turned)).symm
  | eq =>
    have turned : order second first = .eq := by rw [swap second two first one, shape]; rfl
    refine (compare_eq_iff_eq.mpr (List.countP_congr fun other listed => ?_)).symm
    rw [beq_iff_eq, beq_iff_eq]
    exact ⟨fun less => before listed one two less (by simp [shape]),
      fun less => before listed two one less (by simp [turned])⟩

end Ranks

section Arrangements

variable {order : α → α → Ordering} {items first second : List α}

theorem Ranked.arranged_iff {Rank : Type} [LinearOrder Rank] {rank : α → Rank}
    (same : ∀ one ∈ items, ∀ other ∈ items, order one other = compare (rank one) (rank other)) :
    Arranged order items ↔ (items.map rank).Pairwise (· ≤ ·) := by
  rw [List.pairwise_map, Arranged]
  exact List.Pairwise.iff_of_mem fun one other => by rw [same _ one _ other, compare_le_iff_le]

theorem forall₂_iff_map_eq {Rank : Type} [LinearOrder Rank] {rank : α → Rank}
    (same : ∀ one ∈ items, ∀ other ∈ items, order one other = compare (rank one) (rank other))
    (within : ∀ item ∈ first, item ∈ items) (withinToo : ∀ item ∈ second, item ∈ items) :
    List.Forall₂ (fun one other => order one other = .eq) first second ↔
      first.map rank = second.map rank := by
  induction first generalizing second with
  | nil => cases second <;> simp
  | cons one first ih =>
    cases second with
    | nil => simp
    | cons other second =>
      rw [List.forall_mem_cons] at within withinToo
      rw [List.forall₂_cons, List.map_cons, List.map_cons, List.cons.injEq,
        ih within.2 withinToo.2, same _ within.1 _ withinToo.1, compare_eq_iff_eq]

/-- Two arrangements of the same items agree up to items that the order does not tell apart. -/
theorem Ranked.forall₂_of_arranged (ranked : Ranked order items) (one : first.Perm items)
    (other : second.Perm items) (arranged : Arranged order first)
    (arrangedToo : Arranged order second) :
    List.Forall₂ (fun one other => order one other = .eq) first second := by
  obtain ⟨Rank, _, rank, same⟩ := ranked
  rw [forall₂_iff_map_eq same (fun item => one.mem_iff.mp) (fun item => other.mem_iff.mp)]
  rw [Ranked.arranged_iff fun _ here _ there => same _ (one.mem_iff.mp here) _ (one.mem_iff.mp there)]
    at arranged
  rw [Ranked.arranged_iff fun _ here _ there =>
    same _ (other.mem_iff.mp here) _ (other.mem_iff.mp there)] at arrangedToo
  exact List.Perm.eq_of_pairwise (fun _ _ _ _ => le_antisymm) arranged arrangedToo
    ((one.trans other.symm).map rank)

/-- What agrees with an arrangement up to such items is arranged. -/
theorem Ranked.arranged_of_forall₂ (ranked : Ranked order items)
    (one : ∀ item ∈ first, item ∈ items) (other : ∀ item ∈ second, item ∈ items)
    (agree : List.Forall₂ (fun one other => order one other = .eq) first second)
    (arranged : Arranged order first) : Arranged order second := by
  obtain ⟨Rank, _, rank, same⟩ := ranked
  rw [forall₂_iff_map_eq same one other] at agree
  rw [Ranked.arranged_iff fun _ here _ there => same _ (one _ here) _ (one _ there), agree]
    at arranged
  rwa [Ranked.arranged_iff fun _ here _ there => same _ (other _ here) _ (other _ there)]

/-- What is arranged by two orders has no items that the one puts before and the other behind each
other. -/
theorem Ranked.not_opposite {opposite : α → α → Ordering} (ranked : Ranked order items)
    (rankedToo : Ranked opposite items) (arranged : Arranged order items)
    (arrangedToo : Arranged opposite items) {one other : α} (here : one ∈ items)
    (there : other ∈ items) (turned : opposite one other = (order one other).swap) :
    order one other = .eq := by
  by_contra decides
  have apart : one ≠ other := by
    rintro rfl
    have itself := ranked.eq_swap here here
    exact decides (by revert itself; cases order one one <;> decide)
  rcases sublist_or_sublist apart here there with listed | listed
  · have before := List.pairwise_iff_forall_sublist.mp arranged listed
    have beforeToo := List.pairwise_iff_forall_sublist.mp arrangedToo listed
    rw [turned] at beforeToo
    revert before beforeToo decides
    cases order one other <;> decide
  · have before := List.pairwise_iff_forall_sublist.mp arranged listed
    have beforeToo := List.pairwise_iff_forall_sublist.mp arrangedToo listed
    rw [ranked.eq_swap there here] at before
    rw [rankedToo.eq_swap there here, turned] at beforeToo
    revert before beforeToo decides
    cases order one other <;> decide

end Arrangements

end Blueprint
