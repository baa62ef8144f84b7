import Blueprint.Proofs.Records.ValueOrder

namespace Blueprint.Json

section Same

mutual

/-- Values that stand for the same are not told apart, from either side. -/
theorem order_eq_of_same (first : Json) {second : Json} (alike : first.same second = true) :
    first.order second = .eq ∧ second.order first = .eq := by
  cases first with
  | null =>
    obtain rfl := same_null_iff.mp alike
    exact ⟨order_null_null, order_null_null⟩
  | bool | int | float =>
    obtain ⟨quantity, mine, theirs⟩ := (same_number_iff rfl).mp alike
    have reduced := isReduced_quantity? mine
    rw [order_number mine theirs, order_number theirs mine, Quantity.order_eq_compare reduced reduced,
      compare_eq_iff_eq]
    exact ⟨rfl, rfl⟩
  | str text =>
    obtain rfl := same_str_iff.mp alike
    rw [order_str, compare_eq_iff_eq]
    exact ⟨rfl, rfl⟩
  | arr items =>
    obtain ⟨others, rfl, each⟩ := same_arr_iff.mp alike
    rw [order, order]
    exact orderItems_eq_of_same items each
  | obj =>
    obtain ⟨others, rfl, _⟩ := same_obj_iff.mp alike
    simp [order, quantity?, kindRank]

theorem orderItems_eq_of_same (first : List Json) {second : List Json}
    (alike : sameItems first second = true) :
    orderItems first second = .eq ∧ orderItems second first = .eq := by
  match first, second with
  | [], [] => simp [orderItems]
  | [], _ :: _ | _ :: _, [] => simp [sameItems] at alike
  | a :: as, b :: bs =>
    rw [sameItems, Bool.and_eq_true] at alike
    have rest := orderItems_eq_of_same as alike.2
    rw [orderItems, orderItems, if_pos alike.1]
    refine ⟨rest.1, ?_⟩
    split
    · exact rest.2
    · exact (order_eq_of_same a alike.1).2

end

private theorem comparableItems_of_same (first : List Json) {second : List Json}
    (alike : sameItems first second = true) : comparableItems first second = true := by
  induction first generalizing second with
  | nil => simp [comparableItems]
  | cons a as ih =>
    cases second with
    | nil => simp [comparableItems]
    | cons b bs =>
      rw [sameItems, Bool.and_eq_true] at alike
      rw [comparableItems, if_pos alike.1]
      exact ih alike.2

private theorem comparable_of_same {first second : Json} (alike : first.same second = true) :
    first.comparable second = true := by
  cases first with
  | arr items =>
    obtain ⟨others, rfl, each⟩ := same_arr_iff.mp alike
    rw [comparable]
    exact comparableItems_of_same items each
  | null | bool | int | float | str | obj => cases second <;> simp_all [comparable]

theorem kindRank_of_comparable {first second : Json} (comparable : first.comparable second = true) :
    first.kindRank = second.kindRank := by
  cases first <;> cases second <;>
    first | rfl | simp [Json.comparable, same, quantity?, kindRank] at comparable

theorem order_cons_of_same {a b : Json} {as bs : List Json} (alike : a.same b = true) :
    (arr (a :: as)).order (arr (b :: bs)) = (arr as).order (arr bs) := by
  rw [order, order, orderItems, if_pos alike]

theorem order_cons_of_not_same {a b : Json} {as bs : List Json} (apart : ¬ a.same b = true) :
    (arr (a :: as)).order (arr (b :: bs)) = a.order b := by
  rw [order, orderItems, if_neg apart]

theorem order_heads {a b : Json} {as bs : List Json}
    (below : (arr (a :: as)).order (arr (b :: bs)) ≠ .gt) : a.order b ≠ .gt := by
  by_cases alike : a.same b = true
  · rw [(order_eq_of_same a alike).1]
    exact Ordering.noConfusion
  · rwa [order_cons_of_not_same alike] at below

mutual

theorem order_self (value : Json) : value.order value = .eq := by
  cases value with
  | null => exact order_null_null
  | bool | int => exact (order_eq_of_same _ (by simp [same, quantity?])).1
  | float number =>
    cases known : Quantity.ofDouble? number with
    | none => simp [order, quantity?, known]
    | some => exact (order_eq_of_same _ (by simp [same, quantity?, known])).1
  | str => exact (order_eq_of_same _ (by simp [same])).1
  | arr items =>
    rw [order]
    exact orderItems_self items
  | obj => simp [order, quantity?]

private theorem orderItems_self (items : List Json) : orderItems items items = .eq := by
  match items with
  | [] => rw [orderItems]
  | item :: items =>
    rw [orderItems]
    split
    · exact orderItems_self items
    · exact order_self item

end

theorem exists_quantity_of_order {first second : Json} (number : first.kindRank = 1)
    (numberToo : second.kindRank = 1) (decides : first.order second ≠ .eq) :
    ∃ one other, first.quantity? = some one ∧ second.quantity? = some other := by
  cases first with
  | bool | int | float =>
    cases second with
    | bool | int | float =>
      simp only [order] at decides
      split at decides
      · rename_i mine theirs
        exact ⟨_, _, mine, theirs⟩
      · exact absurd rfl decides
    | null | str | arr | obj => cases numberToo
  | null | str | arr | obj => cases number

end Same

/-- The order of two values is settled: from both sides it may be asked for, and either they stand for
the same or one of them is below the other. -/
structure Settled (first second : Json) : Prop where
  comparable : first.comparable second = true ∧ second.comparable first = true
  decides : first.same second = true ∧ second.same first = true ∨
    first.order second = .lt ∧ second.order first = .gt ∨
    first.order second = .gt ∧ second.order first = .lt

namespace Settled

variable {first second third a b : Json} {as bs : List Json}

theorem symm (settled : Settled first second) : Settled second first where
  comparable := settled.comparable.symm
  decides := settled.decides.imp And.symm fun apart => (apart.imp And.symm And.symm).symm

theorem of_same (alike : first.same second = true) (back : second.same first = true) :
    Settled first second :=
  ⟨⟨comparable_of_same alike, comparable_of_same back⟩, .inl ⟨alike, back⟩⟩

theorem order_eq_iff (settled : Settled first second) :
    first.order second = .eq ↔ first.same second = true := by
  refine ⟨fun level => ?_, fun alike => (order_eq_of_same first alike).1⟩
  rcases settled.decides with alike | below | above
  · exact alike.1
  · exact absurd (level.symm.trans below.1) Ordering.noConfusion
  · exact absurd (level.symm.trans above.1) Ordering.noConfusion

private theorem order_swap (settled : Settled first second) :
    first.order second = (second.order first).swap := by
  rcases settled.decides with alike | below | above
  · rw [(order_eq_of_same first alike.1).1, (order_eq_of_same first alike.1).2]
    rfl
  · rw [below.1, below.2]
    rfl
  · rw [above.1, above.2]
    rfl

theorem kindRank_eq (settled : Settled first second) : first.kindRank = second.kindRank :=
  kindRank_of_comparable settled.comparable.1

private theorem exists_quantity (settled : Settled first second) (number : first.kindRank = 1) :
    ∃ one other, first.quantity? = some one ∧ second.quantity? = some other := by
  by_cases alike : first.same second = true
  · obtain ⟨quantity, mine, theirs⟩ := (same_number_iff number).mp alike
    exact ⟨quantity, quantity, mine, theirs⟩
  · rw [← settled.order_eq_iff] at alike
    exact exists_quantity_of_order number (settled.kindRank_eq ▸ number) alike

theorem same_heads (settled : Settled (arr (a :: as)) (arr (b :: bs))) (alike : a.same b = true) :
    b.same a = true := by
  by_contra apart
  have level : (arr (b :: bs)).order (arr (a :: as)) = .eq :=
    (order_cons_of_not_same apart).trans (order_eq_of_same a alike).2
  rw [settled.symm.order_eq_iff, same, sameItems, Bool.and_eq_true] at level
  exact apart level.1

theorem tails (settled : Settled (arr (a :: as)) (arr (b :: bs))) (alike : a.same b = true) :
    Settled (arr as) (arr bs) := by
  have back := settled.same_heads alike
  obtain ⟨comparable, decides⟩ := settled
  rw [order_cons_of_same alike, order_cons_of_same back] at decides
  simp only [Json.comparable, comparableItems, if_pos alike, if_pos back] at comparable
  simp only [same, sameItems, alike, back, Bool.true_and] at decides
  constructor
  · simpa only [Json.comparable] using comparable
  · simpa only [same] using decides

/-- Lists in a settled order begin with items in a settled order. -/
theorem heads (settled : Settled (arr (a :: as)) (arr (b :: bs))) : Settled a b := by
  by_cases alike : a.same b = true
  · exact .of_same alike (settled.same_heads alike)
  · have apart := mt settled.symm.same_heads alike
    obtain ⟨comparable, decides⟩ := settled
    rw [order_cons_of_not_same alike, order_cons_of_not_same apart] at decides
    simp only [Json.comparable, comparableItems, if_neg alike, if_neg apart] at comparable
    simp only [same, sameItems, alike, Bool.false_and] at decides
    exact ⟨comparable, decides.imp (fun both => absurd both.1 Bool.noConfusion) id⟩

end Settled

/-- The order of three values, any two of which have a settled order, passes on. -/
def Passes (first second third : Json) : Prop :=
  Settled first second → Settled second third → Settled first third →
    first.order second ≠ .gt → second.order third ≠ .gt → first.order third ≠ .gt

/-- The order of lists passes on if that of their items does. -/
theorem passes_arr {as bs cs : List Json}
    (items : ∀ a ∈ as, ∀ b ∈ bs, ∀ c ∈ cs, Passes a b c ∧ Passes b c a) :
    Passes (arr as) (arr bs) (arr cs) := by
  intro one other across below belowToo
  induction as generalizing bs cs with
  | nil => cases cs <;> simp [order, orderItems]
  | cons a as ih =>
    cases bs with
    | nil => simp [order, orderItems] at below
    | cons b bs =>
      cases cs with
      | nil => simp [order, orderItems] at belowToo
      | cons c cs =>
        obtain ⟨around, back⟩ :=
          items a List.mem_cons_self b List.mem_cons_self c List.mem_cons_self
        by_cases alike : a.same c = true
        · rw [order_cons_of_same alike]
          by_cases near : a.same b = true
          · have far : b.same c = true := same_trans b (one.same_heads near) alike
            rw [order_cons_of_same near] at below
            rw [order_cons_of_same far] at belowToo
            exact ih (fun a one b other c last => items a (List.mem_cons_of_mem _ one) b
              (List.mem_cons_of_mem _ other) c (List.mem_cons_of_mem _ last))
              (one.tails near) (other.tails far) (across.tails alike) below belowToo
          · -- The order goes up from `a` to `b`, so not back to `c`, which is the same as `a`.
            have level : c.order a ≠ .gt := by
              rw [(order_eq_of_same a alike).2]
              exact Ordering.noConfusion
            have down := back other.heads across.heads.symm one.heads.symm (order_heads belowToo) level
            have up := order_heads below
            rw [one.heads.symm.order_swap] at down
            rw [← one.heads.order_eq_iff] at near
            cases shape : a.order b with
            | lt => exact absurd (congrArg Ordering.swap shape) down
            | eq => exact absurd shape near
            | gt => exact absurd shape up
        · rw [order_cons_of_not_same alike]
          exact around one.heads other.heads across.heads (order_heads below) (order_heads belowToo)

theorem passes_number {first second third : Json} (number : first.kindRank = 1) :
    Passes first second third := by
  intro one other across below belowToo
  obtain ⟨a, b, mine, theirs⟩ := one.exists_quantity number
  obtain ⟨_, c, again, last⟩ := across.exists_quantity number
  obtain rfl := Option.some.inj (mine.symm.trans again)
  have order {x y : Json} {p q : Quantity} (known : x.quantity? = some p)
      (knownToo : y.quantity? = some q) : x.order y ≠ .gt ↔ p.place ≤ q.place := by
    rw [order_number known knownToo, Quantity.order_eq_compare (isReduced_quantity? known)
      (isReduced_quantity? knownToo), compare_le_iff_le]
  rw [order mine theirs] at below
  rw [order theirs last] at belowToo
  rw [order mine last]
  exact below.trans belowToo

theorem passes (first second third : Json) : Passes first second third := by
  cases first with
  | bool | int | float => exact passes_number rfl
  | null =>
    intro _ _ across _ _
    cases third with
    | null => simp [order_null_null]
    | bool | int | float | str | arr | obj => cases across.kindRank_eq
  | str a =>
    intro one other across below belowToo
    cases second with
    | str b =>
      cases third with
      | str c =>
        rw [order_str, compare_le_iff_le] at below belowToo ⊢
        exact below.trans belowToo
      | null | bool | int | float | arr | obj => cases across.kindRank_eq
    | null | bool | int | float | arr | obj => cases one.kindRank_eq
  | obj =>
    intro _ _ across _ _
    cases third with
    | obj => simp [order, quantity?, kindRank]
    | null | bool | int | float | str | arr => cases across.kindRank_eq
  | arr as =>
    intro one other across below belowToo
    cases second with
    | arr bs =>
      cases third with
      | arr cs =>
        refine passes_arr (fun a one b other c last => ?_) one other across below belowToo
        have := List.sizeOf_lt_of_mem one
        have := List.sizeOf_lt_of_mem other
        have := List.sizeOf_lt_of_mem last
        exact ⟨passes a b c, passes b c a⟩
      | null | bool | int | float | str | obj => cases across.kindRank_eq
    | null | bool | int | float | str | obj => cases one.kindRank_eq
termination_by sizeOf first + sizeOf second + sizeOf third

end Blueprint.Json

namespace Blueprint.Records

open Json

/-- Any two values of a list that are not null have a settled order. -/
def Orderable (values : List Json) : Prop :=
  values.Pairwise fun first second => first ≠ null → second ≠ null → Settled first second

namespace Orderable

variable {values others : List Json} {first second third : Json}

theorem perm (orderable : Orderable values) (same : others.Perm values) : Orderable others :=
  (same.pairwise_iff fun settled given givenToo => (settled givenToo given).symm).mpr orderable

theorem settled (orderable : Orderable values) (one : first ∈ values) (other : second ∈ values)
    (given : first ≠ null) (givenToo : second ≠ null) (apart : first ≠ second) :
    Settled first second := by
  rcases sublist_or_sublist apart one other with listed | listed
  · exact List.pairwise_iff_forall_sublist.mp orderable listed given givenToo
  · exact (List.pairwise_iff_forall_sublist.mp orderable listed givenToo given).symm

theorem areComparable (orderable : Orderable values) : areComparable values = true := by
  induction orderable with
  | nil => rfl
  | @cons value values ahead _ ih =>
    rw [Records.areComparable, ih, Bool.and_true, List.all_eq_true]
    intro other listed
    rw [Bool.or_eq_true, Bool.or_eq_true, isNull_iff, isNull_iff, or_assoc]
    by_cases absent : value = null
    · exact .inl absent
    · by_cases absentToo : other = null
      · exact .inr (.inl absentToo)
      · exact .inr (.inr (ahead other listed absent absentToo).comparable.1)

theorem nullLast_swap (orderable : Orderable values) (one : first ∈ values)
    (other : second ∈ values) : nullLast first second = (nullLast second first).swap := by
  by_cases absent : first = null <;> by_cases absentToo : second = null
  · rw [absent, absentToo]
    rfl
  · rw [absent, nullLast_null_left absentToo, nullLast_null_right absentToo]
    rfl
  · rw [absentToo, nullLast_null_left absent, nullLast_null_right absent]
    rfl
  · rw [nullLast_eq_order absent absentToo, nullLast_eq_order absentToo absent]
    by_cases same : first = second
    · rw [same, order_self]
      rfl
    · exact (orderable.settled one other absent absentToo same).order_swap

theorem order_trans (orderable : Orderable values) (one : first ∈ values) (two : second ∈ values)
    (three : third ∈ values) (given : first ≠ null) (next : second ≠ null) (last : third ≠ null)
    (below : first.order second ≠ .gt) (belowToo : second.order third ≠ .gt) :
    first.order third ≠ .gt := by
  by_cases same : first = second
  · rwa [same]
  · by_cases sameToo : second = third
    · rwa [← sameToo]
    · by_cases across : first = third
      · rw [across, order_self]
        exact Ordering.noConfusion
      · exact passes first second third (orderable.settled one two given next same)
          (orderable.settled two three next last sameToo)
          (orderable.settled one three given last across) below belowToo

theorem nullLast_trans (orderable : Orderable values) (one : first ∈ values) (two : second ∈ values)
    (three : third ∈ values) (below : nullLast first second ≠ .gt)
    (belowToo : nullLast second third ≠ .gt) : nullLast first third ≠ .gt := by
  by_cases last : third = null
  · rw [last]
    by_cases given : first = null
    · rw [given]
      exact Ordering.noConfusion
    · rw [nullLast_null_right given]
      exact Ordering.noConfusion
  · -- Nothing but null is above null, so neither of the others is null.
    have next : second ≠ null := by
      rintro rfl
      exact belowToo (nullLast_null_left last)
    have given : first ≠ null := by
      rintro rfl
      exact below (nullLast_null_left next)
    rw [nullLast_eq_order given next] at below
    rw [nullLast_eq_order next last] at belowToo
    rw [nullLast_eq_order given last]
    exact orderable.order_trans one two three given next last below belowToo

theorem ranked_nullLast (orderable : Orderable values) : Ranked nullLast values :=
  ranked_of_trans (fun _ one _ other => orderable.nullLast_swap one other)
    fun _ one _ two _ three => orderable.nullLast_trans one two three

end Orderable

/-- Plain values are orderable. -/
theorem MutuallyComparable.orderable {values : List Json} (comparable : MutuallyComparable values) :
    Orderable values := by
  obtain ⟨Rank, _, rank, same⟩ := comparable.exists_rank
  refine List.pairwise_of_forall_mem_list fun first one second other given givenToo => ?_
  obtain ⟨ordered, alike, asked⟩ := same first one given second other givenToo
  obtain ⟨back, alikeToo, askedToo⟩ := same second other givenToo first one given
  refine ⟨⟨asked, askedToo⟩, ?_⟩
  rw [ordered, back, ← alike, ← alikeToo]
  rcases lt_trichotomy (rank first) (rank second) with below | level | above
  · exact .inr (.inl ⟨compare_lt_iff_lt.mpr below, compare_gt_iff_gt.mpr below⟩)
  · exact .inl ⟨level, level.symm⟩
  · exact .inr (.inr ⟨compare_gt_iff_gt.mpr above, compare_lt_iff_lt.mpr above⟩)

end Blueprint.Records

