import Mathlib.Data.List.Perm.Basic
import Blueprint.Proofs.OrderedMap
import Blueprint.Proofs.ServerCode.LiteralTokens

namespace Blueprint.ServerCode.Literal

section Zeros

open Double

theorem ratio?_unsignedZero (x : Double) : (unsignedZero x).ratio? = x.ratio? := by
  rcases x with _ | _ | ⟨negative, mantissa, exponent, fits⟩
  · rfl
  · rfl
  · cases negative
    · rfl
    · cases mantissa
      · simp only [unsignedZero, ratio?, Nat.zero_mul, Bool.false_eq_true, if_true, if_false]
        split <;> rfl
      · rfl

theorem unsignedZero_cases (x : Double) :
    unsignedZero x = x ∨ ∃ exponent fits, x = .finite true 0 exponent fits ∧
      unsignedZero x = .finite false 0 exponent fits := by
  rcases x with _ | _ | ⟨negative, mantissa, exponent, fits⟩
  · exact Or.inl rfl
  · exact Or.inl rfl
  · cases negative
    · exact Or.inl rfl
    · cases mantissa
      · exact Or.inr ⟨exponent, fits, rfl, rfl⟩
      · exact Or.inl rfl

theorem unsignedZero_unsignedZero (x : Double) : unsignedZero (unsignedZero x) = unsignedZero x := by
  rcases unsignedZero_cases x with same | ⟨exponent, fits, rfl, unsigned⟩
  · rw [same, same]
  · rw [unsigned]
    rfl

private theorem compareInt?_unsignedZero (n : Int) (x : Double) :
    (unsignedZero x).compareInt? n = x.compareInt? n := by
  have fraction := ratio?_unsignedZero x
  rcases unsignedZero_cases x with same | ⟨exponent, fits, rfl, unsigned⟩
  · rw [same]
  · rw [unsigned] at fraction ⊢
    simp only [compareInt?, fraction]

private theorem equal_unsignedZero (x y : Double) : (unsignedZero x).equal y = x.equal y := by
  have fraction := ratio?_unsignedZero x
  rcases unsignedZero_cases x with same | ⟨exponent, fits, rfl, unsigned⟩
  · rw [same]
  · rw [unsigned] at fraction ⊢
    rcases y with _ | _ | ⟨negative, mantissa, exponent', fits'⟩
    · rfl
    · rfl
    · simp only [equal, compare?, fraction]

theorem equal_comm (x y : Double) : x.equal y = y.equal x := by
  rcases x with _ | a | ⟨a, m, e, f⟩ <;> rcases y with _ | b | ⟨b, n, e', f'⟩
  case infinite.infinite => cases a <;> cases b <;> rfl
  case infinite.finite => cases a <;> rfl
  case finite.infinite => cases b <;> rfl
  case finite.finite =>
    simp only [equal, compare?]
    obtain ⟨p, hp⟩ : ∃ p, (finite a m e f).ratio? = some p := ⟨_, rfl⟩
    obtain ⟨q, hq⟩ : ∃ q, (finite b n e' f').ratio? = some q := ⟨_, rfl⟩
    simp only [hp, hq]
    rw [Bool.eq_iff_iff]
    simp only [beq_iff_eq, Option.some.injEq, Std.compare_eq_iff_eq]
    exact eq_comm
  all_goals rfl

end Zeros

/-- A number whose zeros have no signs. -/
def Number.unsigned : Number → Number
  | .complex re im => .complex (unsignedZero re) (unsignedZero im)
  | other => other

theorem Number.same_unsigned (x y : Number) : x.unsigned.same y = x.same y := by
  cases x with
  | complex re im =>
    cases y <;> simp [unsigned, same, equal_unsignedZero, compareInt?_unsignedZero]
  | _ => rfl

theorem Number.same_comm (x y : Number) : x.same y = y.same x := by
  cases x <;> cases y <;> simp [same, equal_comm, Bool.beq_comm]

theorem same_of_number {a : Literal} {x : Number} (number : a.number? = some x) (b : Literal) :
    same a b = (b.number?.any x.same) := by
  cases a <;> cases number <;> cases b <;> rfl

private theorem same_of_no_number {a b : Literal} {x : Number} (number : a.number? = some x)
    (other : b.number? = Option.none) : same b a = false := by
  cases a <;> cases number <;> cases b <;> first | rfl | cases other

theorem same_comm_of_number {a : Literal} {x : Number} (number : a.number? = some x) (b : Literal) :
    same a b = same b a := by
  rw [same_of_number number]
  cases other : b.number? with
  | some y =>
    rw [same_of_number other, number]
    exact Number.same_comm x y
  | none => exact (same_of_no_number number other).symm

theorem same_comm (a b : Literal) : same a b = same b a := by
  induction a using Literal.induction generalizing b with
  | step a ih =>
    cases a with
    | bool | int | float | complex => exact same_comm_of_number rfl b
    | text a =>
      cases b with
      | text b => exact Bool.beq_comm
      | _ => rfl
    | bytes a =>
      cases b with
      | bytes b => exact Bool.beq_comm
      | _ => rfl
    | tuple items =>
      cases b with
      | tuple others =>
        change sameItems items others = sameItems others items
        induction items generalizing others with
        | nil => cases others <;> rfl
        | cons item items inner =>
          cases others with
          | nil => rfl
          | cons other others =>
            rw [sameItems, sameItems, ih item List.mem_cons_self,
              inner (fun part member => ih part (List.mem_cons_of_mem _ member))]
      | _ => rfl
    | _ => cases b <;> rfl

/-- Values that are equal: zeros of a complex number may differ in their signs, and members of a set
may stand in another order. -/
inductive Alike : Literal → Literal → Prop where
  | refl (value : Literal) : Alike value value
  | complex {real imaginary real' imaginary' : Double} (reals : unsignedZero real = unsignedZero real')
      (imaginaries : unsignedZero imaginary = unsignedZero imaginary') :
      Alike (.complex real imaginary) (.complex real' imaginary')
  | tuple {items others : List Literal} (each : List.Forall₂ Alike items others) :
      Alike (.tuple items) (.tuple others)
  | list {items others : List Literal} (each : List.Forall₂ Alike items others) :
      Alike (.list items) (.list others)
  | set {items members others : List Literal} (each : List.Forall₂ Alike items members)
      (order : members.Perm others) : Alike (.set items) (.set others)
  | dict {entries others : List (Literal × Literal)}
      (keys : List.Forall₂ Alike (entries.map Prod.fst) (others.map Prod.fst))
      (values : List.Forall₂ Alike (entries.map Prod.snd) (others.map Prod.snd)) :
      Alike (.dict entries) (.dict others)

/-- Values that are alike are keys of the same values. -/
theorem Alike.same_left {a a' : Literal} (alike : Alike a a') (b : Literal) :
    same a' b = same a b := by
  induction a using Literal.induction generalizing a' b with
  | step a ih =>
    cases alike with
    | refl => rfl
    | @complex real imaginary real' imaginary' reals imaginaries =>
      have numbers : (Number.complex real imaginary).unsigned =
          (Number.complex real' imaginary').unsigned := by
        simp only [Number.unsigned, reals, imaginaries]
      rw [same_of_number (a := .complex real imaginary) rfl,
        same_of_number (a := .complex real' imaginary') rfl]
      congr 1
      funext y
      rw [← Number.same_unsigned, ← numbers, Number.same_unsigned]
    | @tuple items others each =>
      cases b with
      | tuple values =>
        change sameItems others values = sameItems items values
        induction each generalizing values with
        | nil => rfl
        | @cons item other items others first each inner =>
          cases values with
          | nil => rfl
          | cons value values =>
            rw [sameItems, sameItems, ih item List.mem_cons_self first,
              inner (fun part member => ih part (List.mem_cons_of_mem _ member))]
      | _ => rfl
    | _ => cases b <;> rfl

theorem Alike.same {a a' b b' : Literal} (first : Alike a a') (second : Alike b b') :
    Literal.same a' b' = Literal.same a b := by
  rw [first.same_left, same_comm, second.same_left, same_comm]

theorem Alike.isKey {a b : Literal} (alike : Alike a b) : b.isKey = a.isKey := by
  induction a using Literal.induction generalizing b with
  | step a ih =>
    cases alike with
    | @tuple items others each =>
      change areKeys others = areKeys items
      induction each with
      | nil => rfl
      | @cons item other items others first each inner =>
        rw [areKeys, areKeys, ih item List.mem_cons_self first,
          inner fun part member => ih part (List.mem_cons_of_mem _ member)]
    | _ => rfl

section Places

/-- The members that stand in a table. -/
def standing (table : List (Option Literal)) : List Literal := table.filterMap id

theorem freePlace?_free {table : List (Option Literal)} {fuel rest start free : Nat}
    (found : freePlace? table fuel rest start = some free) : table[free]? = some Option.none := by
  induction fuel generalizing rest start with
  | zero => cases found
  | succ fuel ih =>
    unfold freePlace? at found
    simp only at found
    split at found
    · next first =>
      cases found
      have empty := List.find?_some first
      cases place : table[free]? with
      | none =>
        rw [place] at empty
        cases empty
      | some place' =>
        rw [place] at empty
        cases place' with
        | none => rfl
        | some => cases empty
    · exact ih found

theorem standing_set {table : List (Option Literal)} {free : Nat} (member : Literal)
    (empty : table[free]? = some Option.none) :
    (standing (table.set free (some member))).Perm (member :: standing table) := by
  obtain ⟨inside, here⟩ := List.getElem?_eq_some_iff.mp empty
  have whole : standing table = standing (table.take free) ++ standing (table.drop (free + 1)) := by
    conv_lhs => rw [← List.take_append_drop free table, List.drop_eq_getElem_cons inside, here]
    exact List.filterMap_append
  have changed : standing (table.set free (some member)) =
      standing (table.take free) ++ member :: standing (table.drop (free + 1)) := by
    rw [List.set_eq_take_append_cons_drop, if_pos inside]
    exact List.filterMap_append
  rw [changed, whole]
  exact List.perm_middle

theorem standing_place (table : List (Option Literal)) (member : Literal) :
    (standing (place table member)).Perm (member :: standing table) := by
  unfold place
  simp only
  split
  · next found => exact standing_set member (freePlace?_free found)
  · rw [standing, List.filterMap_append]
    exact List.perm_append_singleton member (standing table)

private theorem standing_foldl {step : List (Option Literal) → Literal → List (Option Literal)}
    (one : ∀ table member, (standing (step table member)).Perm (member :: standing table))
    (members : List Literal) (table : List (Option Literal)) :
    (standing (members.foldl step table)).Perm (members ++ standing table) := by
  induction members generalizing table with
  | nil => exact List.Perm.refl _
  | cons member members ih =>
    exact (ih _).trans (((one table member).append_left members).trans List.perm_middle)

theorem standing_replicate (size : Nat) : standing (List.replicate size Option.none) = [] := by
  simp [standing]

private theorem standing_enter (table : List (Option Literal)) (member : Literal) :
    (standing (enter table member)).Perm (member :: standing table) := by
  unfold enter
  simp only
  split
  · exact standing_place table member
  · have moved := standing_foldl standing_place (standing (place table member))
      (List.replicate (Nat.pow 2 (Nat.log2 ((standing (place table member)).length * 4) + 1))
        Option.none)
    rw [standing_replicate, List.append_nil] at moved
    exact moved.trans (standing_place table member)

theorem shown_perm (members : List Literal) : (shown members).Perm members := by
  unfold shown
  split
  · have entered := standing_foldl standing_enter members (List.replicate 8 Option.none)
    rwa [standing_replicate, List.append_nil] at entered
  · exact List.Perm.refl _

end Places

/-- A property of a value, of its parts, of their parts and so on. -/
inductive Throughout (holds : Literal → Prop) : Literal → Prop where
  | mk {value : Literal} (here : holds value)
      (inside : ∀ part ∈ value.parts, Throughout holds part) : Throughout holds value

/-- The members of a set and the keys of a dictionary. -/
def keys : Literal → List Literal
  | set items => items
  | dict entries => entries.map Prod.fst
  | _ => []

/-- Values of which no two are equal as keys. -/
def Unequal (values : List Literal) : Prop := values.Pairwise fun a b => same a b = false

/-- Keys that a set or a dictionary can have at once. -/
structure AreKeys (values : List Literal) : Prop where
  keys : ∀ key ∈ values, key.isKey = true
  unequal : Unequal values

/-- A value that there can be: all keys in it are keys, and those of one set or dictionary differ. -/
def Formed : Literal → Prop := Throughout fun value => AreKeys value.keys

theorem Unequal.perm {values others : List Literal} (unequal : Unequal values)
    (order : values.Perm others) : Unequal others :=
  (order.pairwise_iff fun {a b} apart => (same_comm b a).trans apart).mp unequal

theorem AreKeys.perm {values others : List Literal} (keys : AreKeys values)
    (order : values.Perm others) : AreKeys others where
  keys key member := keys.keys key (order.mem_iff.mpr member)
  unequal := keys.unequal.perm order

theorem areKeys_nil : AreKeys [] where
  keys := nofun
  unequal := List.Pairwise.nil

theorem AreKeys.concat {values : List Literal} {key : Literal} (keys : AreKeys values)
    (able : key.isKey = true) (apart : ∀ value ∈ values, same value key = false) :
    AreKeys (values ++ [key]) where
  keys := List.forall_mem_append.mpr ⟨keys.keys, List.forall_mem_singleton.mpr able⟩
  unequal := by
    refine List.pairwise_append.mpr ⟨keys.unequal, List.pairwise_singleton _ _, ?_⟩
    rintro value member _ (_ | ⟨_, ⟨⟩⟩)
    exact apart value member

theorem AreKeys.insert {values : List Literal} {key : Literal} (keys : AreKeys values)
    (able : key.isKey = true) : AreKeys (insert key values) := by
  unfold Literal.insert
  split
  · exact keys
  · next absent =>
    refine keys.concat able fun value member => ?_
    rw [Bool.not_eq_true, List.any_eq_false] at absent
    rw [same_comm]
    exact Bool.eq_false_of_not_eq_true (absent value member)

theorem keys_write (key value : Literal) (entries : List (Literal × Literal)) :
    (write key value entries).map Prod.fst =
      if (entries.map Prod.fst).any (same · key) then entries.map Prod.fst
      else entries.map Prod.fst ++ [key] := by
  induction entries with
  | nil => rfl
  | cons entry entries ih =>
    unfold write
    cases equal : same entry.1 key with
    | true => simp [equal]
    | false =>
      simp only [Bool.false_eq_true, if_false, List.map_cons, ih, List.any_cons, equal,
        Bool.false_or]
      split <;> rfl

theorem AreKeys.write {entries : List (Literal × Literal)} {key : Literal}
    (keys : AreKeys (entries.map Prod.fst)) (able : key.isKey = true) (value : Literal) :
    AreKeys ((write key value entries).map Prod.fst) := by
  rw [keys_write]
  split
  · exact keys
  · next absent =>
    rw [Bool.not_eq_true, List.any_eq_false] at absent
    exact keys.concat able fun value member => Bool.eq_false_of_not_eq_true (absent value member)

/-- What is written in a dictionary are its entries, or the new value under one of its keys or the
new key. -/
theorem mem_write {entries : List (Literal × Literal)} {key value : Literal}
    {found : Literal × Literal} (member : found ∈ write key value entries) :
    (found.1 = key ∨ found.1 ∈ entries.map Prod.fst) ∧
      (found.2 = value ∨ found.2 ∈ entries.map Prod.snd) := by
  induction entries with
  | nil =>
    rw [List.mem_singleton.mp member]
    exact ⟨Or.inl rfl, Or.inl rfl⟩
  | cons entry entries ih =>
    unfold Literal.write at member
    split at member
    · rcases List.mem_cons.mp member with rfl | later
      · exact ⟨Or.inr List.mem_cons_self, Or.inl rfl⟩
      · exact ⟨Or.inr (List.mem_cons_of_mem _ (List.mem_map_of_mem later)),
          Or.inr (List.mem_cons_of_mem _ (List.mem_map_of_mem later))⟩
    · rcases List.mem_cons.mp member with rfl | later
      · exact ⟨Or.inr List.mem_cons_self, Or.inr List.mem_cons_self⟩
      · exact ⟨(ih later).1.imp_right (List.mem_cons_of_mem _),
          (ih later).2.imp_right (List.mem_cons_of_mem _)⟩

theorem formed_leaf {value : Literal} (parts : value.parts = []) (keys : value.keys = []) :
    Formed value := by
  refine ⟨?_, fun part member => ?_⟩
  · rw [keys]
    exact areKeys_nil
  · rw [parts] at member
    cases member

theorem formed_list {items : List Literal} (formed : ∀ item ∈ items, Formed item) :
    Formed (list items) :=
  ⟨areKeys_nil, formed⟩

theorem formed_dict {entries : List (Literal × Literal)} (able : AreKeys (entries.map Prod.fst))
    (keys : ∀ key ∈ entries.map Prod.fst, Formed key)
    (values : ∀ value ∈ entries.map Prod.snd, Formed value) : Formed (dict entries) := by
  refine ⟨able, fun part member => ?_⟩
  obtain ⟨entry, inside, which⟩ := List.mem_flatMap.mp member
  simp only [List.mem_cons, List.not_mem_nil, or_false] at which
  rcases which with rfl | rfl
  · exact keys _ (List.mem_map_of_mem inside)
  · exact values _ (List.mem_map_of_mem inside)

end Blueprint.ServerCode.Literal
