import Mathlib.Data.List.Infix
import Mathlib.Data.List.Sort
import Mathlib.Data.List.TakeWhile
import Mathlib.Data.String.Basic
import Blueprint.Proofs.Distinct
import Blueprint.Text.Lines
import Blueprint.Text.Replace
import Blueprint.Text.CharTables

namespace Blueprint.Text

section Letters

/-! What holds of every letter of a text is looked up in the text: the instance of Batteries goes
through the whole alphabet instead, which no proof can follow. -/

variable {holds : Char → Prop} [DecidablePred holds]

instance (priority := high) decidableForallLetter (text : List Char) :
    Decidable (∀ c ∈ text, holds c) :=
  text.decidableBAll holds

instance (priority := high) decidableForallPlace (place : Option Char) :
    Decidable (∀ c ∈ place, holds c) :=
  place.decidableForallMem

end Letters

@[elab_as_elim]
theorem of_ascii {motive : Char → Prop} (c : Char) (ascii : c.toNat < 0x80)
    (table : ∀ n : Fin 0x80, motive (Char.ofNat n)) : motive c := by
  have here := table ⟨c.toNat, ascii⟩
  rwa [Char.ofNat_toNat] at here

theorem toList_of_eq {text : String} {letters : List Char} (same : text = String.ofList letters) :
    text.toList = letters := by
  rw [same, String.toList_ofList]

section Runs

variable {α : Type} {accepts : α → Bool} {run rest : List α}

theorem takeWhile_append_stop (taken : ∀ c ∈ run, accepts c = true)
    (stops : ∀ c ∈ rest.head?, accepts c = false) : (run ++ rest).takeWhile accepts = run := by
  rw [List.takeWhile_append_of_pos taken]
  cases rest with
  | nil => simp
  | cons c rest => simp [stops c rfl]

theorem dropWhile_append_stop (taken : ∀ c ∈ run, accepts c = true)
    (stops : ∀ c ∈ rest.head?, accepts c = false) : (run ++ rest).dropWhile accepts = rest := by
  rw [List.dropWhile_append_of_pos taken]
  cases rest with
  | nil => rfl
  | cons c rest => simp [stops c rfl]

/-- A text falls into a run and what follows it. -/
theorem exists_run (accepts : α → Bool) (text : List α) :
    text = text.takeWhile accepts ++ text.dropWhile accepts ∧
      (∀ c ∈ text.takeWhile accepts, accepts c = true) ∧
      ∀ c ∈ (text.dropWhile accepts).head?, accepts c = false := by
  refine ⟨(List.takeWhile_append_dropWhile).symm, fun c => List.mem_takeWhile_imp, ?_⟩
  induction text with
  | nil => simp
  | cons d text ih =>
    rw [List.dropWhile_cons]
    split
    · exact ih
    · rename_i refused
      intro c same
      obtain rfl := Option.some.inj same
      simpa using refused

/-- A run that stops within a text stops there whatever follows. -/
theorem takeWhile_append_of_refused {text : List α} (stops : ∃ c ∈ text, accepts c = false)
    (rest : List α) : (text ++ rest).takeWhile accepts = text.takeWhile accepts ∧
      (text.takeWhile accepts).length < text.length := by
  obtain ⟨_, taken, _⟩ := exists_run accepts text
  obtain ⟨c, member, refused⟩ := stops
  have short : (text.takeWhile accepts).length < text.length := by
    by_contra long
    have whole := (List.takeWhile_prefix accepts (l := text)).eq_of_length_le (by omega)
    rw [← whole] at member
    rw [taken c member] at refused
    cases refused
  refine ⟨?_, short⟩
  rw [List.takeWhile_append, if_neg (by omega)]

theorem head?_append_eq {front : List α} (nonempty : front ≠ []) (first second : List α) :
    (front ++ first).head? = (front ++ second).head? := by
  cases front with
  | nil => exact absurd rfl nonempty
  | cons c front => rfl

end Runs

section Places

variable {text lead : List Char}

/-- What stands behind the places of a text at which another stands. -/
def behindAll (lead text : List Char) : List (List Char) := text.tails.filterMap (after? lead)

theorem mem_behindAll {body : List Char} :
    body ∈ behindAll lead text ↔ ∃ front, text = front ++ (lead ++ body) := by
  unfold behindAll
  simp only [List.mem_filterMap, List.mem_tails]
  constructor
  · rintro ⟨tail, ⟨front, rfl⟩, found⟩
    exact ⟨front, by rw [eq_append_of_after? found]⟩
  · rintro ⟨front, rfl⟩
    exact ⟨lead ++ body, List.suffix_append _ _, after?_append lead body⟩

theorem forall_behindAll {holds : List Char → Prop} : (∀ body ∈ behindAll lead text, holds body) ↔
    ∀ front body, text = front ++ (lead ++ body) → holds body := by
  simp only [mem_behindAll, forall_exists_index]
  exact forall_comm

end Places

section CodePoints

/-! Sets of code points as the bits of numbers, which are compared at once instead of one point with
each other one. -/

variable {n : Nat}

/-- Code points as the bits of a number. -/
def marks (points : List Nat) : Nat :=
  points.foldr (fun point others => 2 ^ point ||| others) 0

theorem testBit_marks {points : List Nat} (listed : n ∈ points) : (marks points).testBit n = true := by
  induction points with
  | nil => cases listed
  | cons point points ih =>
    rw [marks, List.foldr_cons, Nat.testBit_or, Bool.or_eq_true]
    rcases List.mem_cons.mp listed with rfl | later
    · exact Or.inl Nat.testBit_two_pow_self
    · exact Or.inr (ih later)

/-- Ranges of code points as the bits of a number. -/
def Ranges.bits (ranges : Ranges) : Nat :=
  ranges.foldr (fun range others => (2 ^ (range.2 + 1 - range.1) - 1) <<< range.1 ||| others) 0

theorem Ranges.testBit_bits (ranges : Ranges) :
    ranges.bits.testBit n = ranges.any fun range => range.1 ≤ n && n ≤ range.2 := by
  induction ranges with
  | nil => exact Nat.zero_testBit n
  | cons range ranges ih =>
    have here : ((2 ^ (range.2 + 1 - range.1) - 1) <<< range.1).testBit n =
        (decide (range.1 ≤ n) && decide (n ≤ range.2)) := by
      rw [Nat.testBit_shiftLeft, Nat.testBit_two_pow_sub_one, Bool.eq_iff_iff]
      simp only [Bool.and_eq_true, decide_eq_true_eq]
      omega
    rw [bits, List.foldr_cons, Nat.testBit_or, here, List.any_cons]
    exact congrArg _ ih

theorem Ranges.testBit_toNat (ranges : Ranges) (c : Char) :
    ranges.bits.testBit c.toNat = ranges.has c :=
  ranges.testBit_bits

/-- The word characters of ASCII. -/
def asciiWordRanges : Ranges := [(0x30, 0x39), (0x41, 0x5a), (0x5f, 0x5f), (0x61, 0x7a)]

/-- The word characters as the bits of a number. -/
def wordBits : Nat := Ranges.bits (asciiWordRanges ++ wordRanges)

private theorem valid_wordRanges : ∀ range ∈ wordRanges, 0x80 ≤ range.1 ∧
    (range.2 < 0xd800 ∨ 0xe000 ≤ range.1 ∧ range.2 < 0x110000) := by
  decide +kernel

theorem testBit_wordBits (c : Char) : wordBits.testBit c.toNat = isWord c := by
  rw [wordBits, Ranges.testBit_toNat, isWord, Ranges.has, List.any_append]
  split
  · rename_i ascii
    have here : asciiWordRanges.has c = (c.isAlphanum || c == '_') :=
      of_ascii c ascii (by decide)
    have low : wordRanges.has c = false := by
      refine Bool.eq_false_iff.mpr fun found => ?_
      obtain ⟨range, listed, above, _⟩ := Ranges.has_iff.mp found
      have := (valid_wordRanges range listed).1
      omega
    exact (congrArg₂ or here low).trans (Bool.or_false _)
  · rename_i beyond
    have high : asciiWordRanges.has c = false := by
      simp only [asciiWordRanges, Ranges.has, List.any_cons, List.any_nil, Bool.or_false,
        Bool.or_eq_false_iff, Bool.and_eq_false_iff, decide_eq_false_iff_not]
      omega
    exact (congrArg (· || _) high).trans (Bool.false_or _)

theorem valid_of_testBit_wordBits (word : wordBits.testBit n = true) :
    n < 0xd800 ∨ 0xe000 ≤ n ∧ n < 0x110000 := by
  rw [wordBits, Ranges.testBit_bits, List.any_eq_true] at word
  obtain ⟨range, listed, inside⟩ := word
  simp only [Bool.and_eq_true, decide_eq_true_eq] at inside
  have ascii : ∀ range ∈ asciiWordRanges, range.2 < 0xd800 := by decide
  rcases List.mem_append.mp listed with low | high
  · have := ascii range low
    omega
  · have := (valid_wordRanges range high).2
    omega

end CodePoints

section Blanks

/-- The blanks, as ranges. -/
def blankRanges : Ranges :=
  [(9, 13), (28, 32), (0x85, 0x85), (0xa0, 0xa0), (0x1680, 0x1680), (0x2000, 0x200a),
    (0x2028, 0x2029), (0x202f, 0x202f), (0x205f, 0x205f), (0x3000, 0x3000)]

theorem has_of_isBlank {c : Char} (blank : isBlank c = true) : blankRanges.has c = true := by
  simp only [isBlank, Bool.or_eq_true, Bool.and_eq_true, decide_eq_true_eq, beq_iff_eq] at blank
  simp only [Ranges.has, blankRanges, List.any_cons, List.any_nil, Bool.or_eq_true,
    Bool.and_eq_true, decide_eq_true_eq]
  omega

private theorem blanks_apart_words : blankRanges.bits &&& wordBits = 0 := by
  decide +kernel

theorem isWord_of_isBlank {c : Char} (blank : isBlank c = true) : isWord c = false := by
  have apart : (blankRanges.bits &&& wordBits).testBit c.toNat = false := by
    rw [blanks_apart_words, Nat.zero_testBit]
  rwa [Nat.testBit_and, Ranges.testBit_toNat, has_of_isBlank blank, Bool.true_and,
    testBit_wordBits] at apart

end Blanks

section Digits

variable {c : Char}

theorem toNat_lt_of_isDigit (digit : c.isDigit = true) : c.toNat < 0x80 := by
  simp only [Char.isDigit, Bool.and_eq_true, decide_eq_true_eq] at digit
  have upper : c.toNat ≤ 57 := digit.2
  omega

theorem isDecimal_of_isDigit (digit : c.isDigit = true) : isDecimal c = true := by
  rw [isDecimal, if_pos (toNat_lt_of_isDigit digit), digit]

/-- The digits of a number are read as the number. -/
theorem foldl_toDigits (n : Nat) :
    (Nat.toDigits 10 n).foldl (fun value c => 10 * value + decimalValue c) 0 = n := by
  have same : ∀ value, ∀ c ∈ Nat.toDigits 10 n,
      10 * value + decimalValue c = 10 * value + (c.toNat - '0'.toNat) := by
    intro value c member
    have digit := Nat.isDigit_of_mem_toDigits (by decide) (by decide) member
    rw [decimalValue, if_pos (toNat_lt_of_isDigit digit)]
  rw [List.foldl_ext _ _ _ same, ← Nat.ofDigitChars_eq_foldl, Nat.ofDigitChars_ten_toDigits]

end Digits

section Joining

theorem joinLines_cons_cons (first second : List Char) (lines : List (List Char)) :
    joinLines (first :: second :: lines) = first ++ '\n' :: joinLines (second :: lines) := by
  simp [joinLines, List.intercalate]

theorem joinLines_linesOf (text : List Char) : joinLines (linesOf text) = text :=
  List.intercalate_splitOn '\n'

end Joining

section SortedSets

theorem pairwise_sorted {texts : List String} (distinct : texts.Nodup) :
    (sorted texts).Pairwise (· < ·) := by
  have ordered : (sorted texts).Pairwise (· ≤ ·) := List.pairwise_mergeSort' (· ≤ ·) texts
  have apart : (sorted texts).Nodup := (List.mergeSort_perm _ _).nodup_iff.mpr distinct
  exact (ordered.and apart).imp fun both => lt_of_le_of_ne both.1 both.2

theorem pairwise_sortedSet (texts : List String) : (sortedSet texts).Pairwise (· < ·) :=
  pairwise_sorted (nodup_eraseDups texts)

theorem sortedSet_congr {texts others : List String}
    (same : ∀ text, text ∈ texts ↔ text ∈ others) : sortedSet texts = sortedSet others := by
  apply List.Pairwise.eq_of_mem_iff (pairwise_sortedSet texts) (pairwise_sortedSet others)
  intro text
  rw [mem_sortedSet, mem_sortedSet, same]

theorem sortedSet_eq_singleton_iff {texts : List String} {text : String} :
    sortedSet texts = [text] ↔ text ∈ texts ∧ ∀ other ∈ texts, other = text := by
  constructor
  · intro same
    have member (other : String) : other ∈ texts ↔ other = text := by
      rw [← mem_sortedSet, same, List.mem_singleton]
    exact ⟨(member text).mpr rfl, fun other => (member other).mp⟩
  · rintro ⟨listed, only⟩
    refine List.Pairwise.eq_of_mem_iff (pairwise_sortedSet _) (List.pairwise_singleton _ _) ?_
    intro other
    rw [mem_sortedSet, List.mem_singleton]
    exact ⟨only other, fun same => same ▸ listed⟩

theorem sortedSet_filter (texts : List String) (accepts : String → Bool) :
    sortedSet (texts.filter accepts) = (sortedSet texts).filter accepts := by
  apply List.Pairwise.eq_of_mem_iff (pairwise_sortedSet _) ((pairwise_sortedSet texts).filter _)
  intro text
  rw [mem_sortedSet, List.mem_filter, List.mem_filter, mem_sortedSet]

end SortedSets

end Blueprint.Text
