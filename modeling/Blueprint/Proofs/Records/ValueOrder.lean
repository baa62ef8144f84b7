import Mathlib.Algebra.Order.Ring.Rat
import Mathlib.Data.Rat.Lemmas
import Mathlib.Data.String.Basic
import Mathlib.Order.WithBot
import Mathlib.Tactic.FieldSimp
import Mathlib.Tactic.Positivity
import Blueprint.Proofs.Ranking
import Blueprint.Proofs.Records.Sameness
import Blueprint.Records.Relational

namespace Blueprint

namespace Quantity

/-- A fraction in lowest terms, or an infinity. -/
def IsReduced : Quantity → Prop
  | ratio num den => 0 < den ∧ num.natAbs.Coprime den
  | infinite _ => True

/-- The place of an exact value between the infinities. -/
def place : Quantity → WithBot (WithTop ℚ)
  | ratio num den => (((num : ℚ) / den : ℚ) : WithTop ℚ)
  | infinite true => ⊥
  | infinite false => ((⊤ : WithTop ℚ) : WithBot (WithTop ℚ))

theorem compare_place_ratio {a c : Int} {b d : Nat} (below : 0 < b) (belowToo : 0 < d) :
    compare (ratio a b).place (ratio c d).place = compare (a * d) (c * b) := by
  have scaled : StrictMono fun x : ℚ => x * (b * d) :=
    strictMono_mul_right_of_pos (by positivity)
  have one : ((a : ℚ) / b) * (b * d) = ((a * d : Int) : ℚ) := by
    push_cast
    field_simp
  have other : ((c : ℚ) / d) * (b * d) = ((c * b : Int) : ℚ) := by
    push_cast
    field_simp
  calc compare (ratio a b).place (ratio c d).place
      = compare (((a : ℚ) / b : ℚ) : WithTop ℚ) ((c : ℚ) / d : ℚ) :=
        compare_map (WithBot.coe_strictMono (α := WithTop ℚ)) _ _
    _ = compare ((a : ℚ) / b) (c / d) := compare_map WithTop.coe_strictMono _ _
    _ = compare ((a * d : Int) : ℚ) ((c * b : Int) : ℚ) := by
        rw [← compare_map scaled, one, other]
    _ = compare (a * d) (c * b) := compare_map Int.cast_strictMono _ _

/-- Exact values are in the order of their places. -/
theorem order_eq_compare {first second : Quantity} (one : first.IsReduced)
    (other : second.IsReduced) : first.order second = compare first.place second.place := by
  have above (value : ℚ) : (⊥ : WithBot (WithTop ℚ)) < (value : WithTop ℚ) := WithBot.bot_lt_coe _
  have below (value : ℚ) : ((value : WithTop ℚ) : WithBot (WithTop ℚ)) < (⊤ : WithTop ℚ) :=
    WithBot.coe_lt_coe.mpr (WithTop.coe_lt_top _)
  have across : (⊥ : WithBot (WithTop ℚ)) < (⊤ : WithTop ℚ) := WithBot.bot_lt_coe _
  rcases first with ⟨a, b⟩ | _ | _ <;> rcases second with ⟨c, d⟩ | _ | _
  · exact (compare_place_ratio one.1 other.1).symm
  · exact (compare_lt_iff_lt.mpr (below _)).symm
  · exact (compare_gt_iff_gt.mpr (above _)).symm
  · exact (compare_gt_iff_gt.mpr (below _)).symm
  · exact (compare_eq_iff_eq.mpr rfl).symm
  · exact (compare_gt_iff_gt.mpr across).symm
  · exact (compare_lt_iff_lt.mpr (above _)).symm
  · exact (compare_lt_iff_lt.mpr across).symm
  · exact (compare_eq_iff_eq.mpr rfl).symm

theorem eq_of_place_eq {first second : Quantity} (one : first.IsReduced) (other : second.IsReduced)
    (same : first.place = second.place) : first = second := by
  rcases first with ⟨a, b⟩ | _ | _ <;> rcases second with ⟨c, d⟩ | _ | _
  · have fractions : ((a : ℚ) / b) = c / d := WithTop.coe_injective (WithBot.coe_injective same)
    have ends := Rat.div_int_inj (a := a) (b := (b : Int)) (c := c) (d := (d : Int))
      (by exact_mod_cast one.1) (by exact_mod_cast other.1) one.2 other.2
      (by exact_mod_cast fractions)
    rw [ends.1, Int.ofNat_inj.mp ends.2]
  all_goals first | rfl | simp [place] at same

private theorem isReduced_ofRatio {num : Int} {den : Nat} (positive : 0 < den) :
    (ofRatio num den).IsReduced := by
  have shared : 0 < Nat.gcd num.natAbs den := Nat.gcd_pos_of_pos_right _ positive
  refine ⟨Nat.div_pos (Nat.gcd_le_right _ positive) shared, ?_⟩
  rw [Int.natAbs_ediv_of_dvd (Int.gcd_dvd_left num den)]
  exact Nat.coprime_div_gcd_div_gcd shared

/-- The value of a double is reduced. -/
theorem isReduced_ofDouble? {value : Double} {quantity : Quantity}
    (known : ofDouble? value = some quantity) : quantity.IsReduced := by
  cases value with
  | nan => cases known
  | infinite negative =>
    obtain rfl := Option.some.inj known
    trivial
  | finite negative mantissa exponent fits =>
    simp only [ofDouble?, Option.map_eq_some_iff] at known
    obtain ⟨fraction, found, rfl⟩ := known
    obtain rfl := Option.some.inj found
    refine isReduced_ofRatio ?_
    by_cases small : exponent < 0
    · rw [if_pos small]
      exact Nat.pow_pos Nat.two_pos
    · rw [if_neg small]
      exact Nat.one_pos

end Quantity

namespace Json

theorem isReduced_quantity? {value : Json} {quantity : Quantity}
    (known : value.quantity? = some quantity) : quantity.IsReduced := by
  cases value with
  | bool | int =>
    obtain rfl := Option.some.inj known
    exact ⟨Nat.one_pos, Nat.coprime_one_right _⟩
  | float => exact Quantity.isReduced_ofDouble? known
  | null | str | arr | obj => cases known

theorem order_number {first second : Json} {one other : Quantity}
    (known : first.quantity? = some one) (knownToo : second.quantity? = some other) :
    first.order second = one.order other := by
  cases first <;> cases second <;> simp_all [order, quantity?]

theorem order_str (first second : String) : (str first).order (str second) = compare first second := by
  rw [order, LinearOrder.compare_eq_compareOfLessAndEq]

theorem order_null_left {value : Json} (given : value ≠ null) : null.order value = .lt := by
  cases value with
  | null => exact absurd rfl given
  | bool | int | float | str | arr | obj =>
    simp only [order, quantity?, kindRank]
    rfl

theorem order_null_right {value : Json} (given : value ≠ null) : value.order null = .gt := by
  cases value with
  | null => exact absurd rfl given
  | bool | int | str | arr | obj =>
    simp only [order, quantity?, kindRank]
    rfl
  | float number =>
    simp only [order, quantity?, kindRank]
    cases Quantity.ofDouble? number <;> rfl

theorem order_null_null : null.order null = .eq := by
  simp [order, quantity?]

theorem same_null_right_iff {value : Json} : value.same null = true ↔ value = null := by
  cases value <;> simp [same, quantity?]

private theorem comparable_numbers {first second : Json} (one : first.kindRank = 1)
    (other : second.kindRank = 1) : first.comparable second = true := by
  cases first <;> cases second <;> simp_all [comparable, kindRank]

theorem isNull_iff {value : Json} : value.isNull = true ↔ value = null := by
  cases value <;> simp [isNull]

end Json

namespace Records

open Json

/-- Values that can be compared with each other: apart from nulls, all of them are numbers or all of
them are texts. -/
def MutuallyComparable (values : List Json) : Prop :=
  (∀ value ∈ values, value ≠ null → ∃ quantity, value.quantity? = some quantity) ∨
    ∀ value ∈ values, value ≠ null → ∃ text, value = str text

theorem isNull_of_ne {value : Json} (given : value ≠ null) : value.isNull = false := by
  rw [Bool.eq_false_iff]
  exact mt isNull_iff.mp given

theorem nullLast_null_left {value : Json} (given : value ≠ null) : nullLast null value = .gt := by
  simp only [nullLast, isNull_of_ne given]
  rfl

theorem nullLast_null_right {value : Json} (given : value ≠ null) : nullLast value null = .lt := by
  simp only [nullLast, isNull_of_ne given]
  rfl

theorem nullLast_eq_order {first second : Json} (given : first ≠ null) (givenToo : second ≠ null) :
    nullLast first second = first.order second := by
  simp only [nullLast, isNull_of_ne given, isNull_of_ne givenToo]

namespace MutuallyComparable

variable {values : List Json} {first second : Json}

/-- The values that are not null are in the order of a rank, and those of one rank stand for the
same. -/
theorem exists_rank (comparable : MutuallyComparable values) :
    ∃ (Rank : Type) (_ : LinearOrder Rank) (rank : Json → Rank),
      ∀ first ∈ values, first ≠ null → ∀ second ∈ values, second ≠ null →
        first.order second = compare (rank first) (rank second) ∧
        (rank first = rank second ↔ first.same second = true) ∧
        first.comparable second = true := by
  rcases comparable with numbers | texts
  · refine ⟨WithBot (WithTop ℚ), inferInstance,
      fun value => (value.quantity?.map Quantity.place).getD ⊥, ?_⟩
    intro first one given second other givenToo
    obtain ⟨mine, known⟩ := numbers first one given
    obtain ⟨theirs, knownToo⟩ := numbers second other givenToo
    have rank := kindRank_of_quantity? known
    rw [order_number known knownToo, same_number_iff rank]
    simp only [known, knownToo, Option.map_some, Option.getD_some, Option.some.injEq]
    refine ⟨Quantity.order_eq_compare (isReduced_quantity? known) (isReduced_quantity? knownToo),
      ⟨fun level => ?_, ?_⟩, ?_⟩
    · exact ⟨mine, rfl, (Quantity.eq_of_place_eq (isReduced_quantity? known)
        (isReduced_quantity? knownToo) level).symm⟩
    · rintro ⟨_, rfl, rfl⟩
      rfl
    · exact comparable_numbers rank (kindRank_of_quantity? knownToo)
  · refine ⟨String, inferInstance, Json.text, ?_⟩
    intro first one given second other givenToo
    obtain ⟨mine, rfl⟩ := texts first one given
    obtain ⟨theirs, rfl⟩ := texts second other givenToo
    refine ⟨order_str mine theirs, ?_, by simp [Json.comparable]⟩
    rw [same_str_iff]
    simp [Json.text, text?, eq_comm]

/-- Values are ranked by an order that has the nulls on one side of the others. -/
theorem ranked_of_side (comparable : MutuallyComparable values) {order : Json → Json → Ordering}
    {side : Ordering} (nulls : order null null = .eq)
    (below : ∀ value, value ≠ null → order null value = side)
    (above : ∀ value, value ≠ null → order value null = side.swap)
    (others : ∀ first second, first ≠ null → second ≠ null → order first second = first.order second)
    (Placed : ∀ (Rank : Type) [LinearOrder Rank], ∃ (Place : Type) (_ : LinearOrder Place)
      (embed : Rank → Place) (lone : Place),
      StrictMono embed ∧ ∀ rank, compare lone (embed rank) = side) : Ranked order values := by
  classical
  obtain ⟨Rank, _, rank, same⟩ := comparable.exists_rank
  obtain ⟨Place, _, embed, lone, mono, apart⟩ := Placed Rank
  refine ⟨Place, inferInstance, fun value => if value = null then lone else embed (rank value), ?_⟩
  intro first one second other
  dsimp only
  by_cases absent : first = null <;> by_cases absentToo : second = null
  · rw [absent, absentToo, nulls, if_pos rfl]
    exact (compare_eq_iff_eq.mpr rfl).symm
  · rw [absent, below second absentToo, if_pos rfl, if_neg absentToo, apart]
  · rw [absentToo, above first absent, if_pos rfl, if_neg absent, ← apart (rank first)]
    exact Std.OrientedOrd.eq_swap.symm
  · rw [if_neg absent, if_neg absentToo, others first second absent absentToo, compare_map mono,
      (same first one absent second other absentToo).1]

theorem ranked_order (comparable : MutuallyComparable values) : Ranked Json.order values :=
  comparable.ranked_of_side order_null_null (fun _ => order_null_left) (fun _ => order_null_right)
    (fun _ _ _ _ => rfl) fun Rank _ => ⟨WithBot Rank, inferInstance, _, ⊥, WithBot.coe_strictMono,
      fun _ => compare_lt_iff_lt.mpr (WithBot.bot_lt_coe _)⟩

theorem ranked_nullLast (comparable : MutuallyComparable values) : Ranked nullLast values :=
  comparable.ranked_of_side rfl (fun _ => nullLast_null_left) (fun _ => nullLast_null_right)
    (fun _ _ => nullLast_eq_order) fun Rank _ => ⟨WithTop Rank, inferInstance, _, ⊤,
      WithTop.coe_strictMono, fun _ => compare_gt_iff_gt.mpr (WithTop.coe_lt_top _)⟩

/-- Values that are not told apart stand for the same. -/
theorem order_eq_iff_same (comparable : MutuallyComparable values) (one : first ∈ values)
    (other : second ∈ values) : first.order second = .eq ↔ first.same second = true := by
  obtain ⟨Rank, _, rank, same⟩ := comparable.exists_rank
  by_cases absent : first = null <;> by_cases absentToo : second = null
  · rw [absent, absentToo, order_null_null]
    simp [Json.same]
  · rw [absent, order_null_left absentToo, same_null_iff]
    simp [absentToo]
  · rw [absentToo, order_null_right absent]
    exact iff_of_false Ordering.noConfusion fun alike => absent (same_null_right_iff.mp alike)
  · obtain ⟨ordered, alike, _⟩ := same first one absent second other absentToo
    rw [ordered, compare_eq_iff_eq, alike]

/-- The two orders agree on two values exactly if both or neither of them are null. -/
theorem nullLast_eq_order_iff : nullLast first second = first.order second ↔
    (first = null ↔ second = null) := by
  by_cases absent : first = null <;> by_cases absentToo : second = null
  · rw [absent, absentToo, order_null_null]
    exact iff_of_true rfl Iff.rfl
  · rw [absent, nullLast_null_left absentToo, order_null_left absentToo]
    exact iff_of_false Ordering.noConfusion fun both => absentToo (both.mp rfl)
  · rw [absentToo, nullLast_null_right absent, order_null_right absent]
    exact iff_of_false Ordering.noConfusion fun both => absent (both.mpr rfl)
  · exact iff_of_true (nullLast_eq_order absent absentToo) (iff_of_false absent absentToo)

/-- Where the two orders differ, one is the other turned round. -/
theorem nullLast_eq_or_swap (first second : Json) : nullLast first second = first.order second ∨
    nullLast first second = (first.order second).swap ∧ first.order second ≠ .eq := by
  by_cases absent : first = null <;> by_cases absentToo : second = null
  · rw [absent, absentToo, order_null_null]
    exact Or.inl rfl
  · rw [absent, nullLast_null_left absentToo, order_null_left absentToo]
    exact Or.inr ⟨rfl, Ordering.noConfusion⟩
  · rw [absentToo, nullLast_null_right absent, order_null_right absent]
    exact Or.inr ⟨rfl, Ordering.noConfusion⟩
  · exact Or.inl (nullLast_eq_order absent absentToo)

end MutuallyComparable

end Records

end Blueprint
