import Blueprint.Proofs.Naming.WordBoundaries
import Blueprint.Proofs.Text

namespace Blueprint.Text

variable {c x : Char}

section Table

/-- The code points that the table changes. -/
def lowerSources : List Nat := lowerRuns.flatMap fun run => run.pointsFrom run.first

/-- What it changes them to. -/
def lowerImages : List Nat := lowerRuns.flatMap fun run => run.pointsFrom run.image

private theorem marks_apart : marks lowerSources &&& marks lowerImages = 0 := by
  decide +kernel

private theorem lowerRuns_apart : ∀ run ∈ lowerRuns,
    (0x130 < run.image ∨ run.image + (run.last - run.first) < 0x130) ∧
    ∀ blank ∈ blankRanges, run.image + (run.last - run.first) < blank.1 ∨ blank.2 < run.image := by
  decide +kernel

theorem lowerChar_ascii : ∀ n : Fin 0x80,
    lowerChar (Char.ofNat n).toLower = [(Char.ofNat n).toLower] ∧
    (Naming.isSeparator (Char.ofNat n).toLower = true → (Char.ofNat n).toLower = Char.ofNat n) ∧
    (Naming.isCapital (Char.ofNat n) = true →
      lowerChar (Char.ofNat n) ≠ [Char.ofNat n] ∧ Naming.isSeparator (Char.ofNat n) = false) := by
  decide +kernel

theorem lowerChar_wide : ∀ n ∈ 0x3c2 :: 0x3c3 :: lowerWide.flatMap Prod.snd,
    lowerChar (Char.ofNat n) = [Char.ofNat n] ∧ Naming.isSeparator (Char.ofNat n) = false := by
  decide

variable {n m : Nat}

private theorem mem_sources_and_images (found : CaseRun.image? lowerRuns n = some m) :
    n ∈ lowerSources ∧ m ∈ lowerImages := by
  obtain ⟨run, listed, inside, place, rfl⟩ := exists_run_of_image? found
  constructor
  · exact List.mem_flatMap.mpr ⟨run, listed, CaseRun.mem_pointsFrom_first inside place⟩
  · exact List.mem_flatMap.mpr ⟨run, listed, run.mem_pointsFrom run.image inside.2 place⟩

theorem image?_image (found : CaseRun.image? lowerRuns n = some m) :
    CaseRun.image? lowerRuns m = none := by
  rw [Option.eq_none_iff_forall_ne_some]
  intro k again
  have source := testBit_marks (mem_sources_and_images again).1
  have image := testBit_marks (mem_sources_and_images found).2
  have none : (marks lowerSources &&& marks lowerImages).testBit m = false := by
    rw [marks_apart, Nat.zero_testBit]
  rw [Nat.testBit_and, source, image] at none
  cases none

theorem lowerChar_image (found : CaseRun.image? lowerRuns n = some m) :
    lowerChar (Char.ofNat m) = [Char.ofNat m] := by
  rcases toNat_image found with rfl | ⟨beyond, same⟩
  · rfl
  · obtain ⟨run, listed, inside, _, place⟩ := exists_run_of_image? found
    have alone : lowerWide.lookup m = none := by
      have apart := (lowerRuns_apart run listed).1
      have other : (m == 0x130) = false := beq_eq_false_iff_ne.mpr (by omega)
      rw [lowerWide, List.lookup_cons, other]
      rfl
    rw [lowerChar, if_neg (by omega), mapped, same, image?_image found]
    simp only [alone]

theorem isSeparator_image (found : CaseRun.image? lowerRuns n = some m) :
    Naming.isSeparator (Char.ofNat m) = false := by
  rcases toNat_image found with rfl | ⟨beyond, same⟩
  · rfl
  · obtain ⟨run, listed, inside, _, place⟩ := exists_run_of_image? found
    have unlike {x : Char} (sign : IsSign x) : Char.ofNat m ≠ x := fun same =>
      not_isSign_image found (same ▸ sign)
    cases separates : Naming.isSeparator (Char.ofNat m) with
    | false => rfl
    | true =>
      simp only [Naming.isSeparator, Bool.or_eq_true, beq_iff_eq] at separates
      rcases separates with ((blank | line) | hyphen) | dot
      · obtain ⟨range, member, low, high⟩ := Ranges.has_iff.mp (has_of_isBlank blank)
        have := (lowerRuns_apart run listed).2 range member
        omega
      · exact absurd line (unlike (by decide))
      · exact absurd hyphen (unlike (by decide))
      · exact absurd dot (unlike (by decide))

private theorem lowerChar_of_listed {entry : Nat × List Nat} (listed : entry ∈ lowerWide)
    (inside : n ∈ entry.2) :
    lowerChar (Char.ofNat n) = [Char.ofNat n] ∧ Naming.isSeparator (Char.ofNat n) = false :=
  lowerChar_wide n (List.mem_cons_of_mem _ (List.mem_cons_of_mem _
    (List.mem_flatMap.mpr ⟨entry, listed, inside⟩)))

end Table

private theorem lowerChar_of_mem_lowerChar (member : x ∈ lowerChar c) : lowerChar x = [x] := by
  rcases mem_lowerChar_cases member with ⟨n, rfl, _⟩ | ⟨n, m, found, rfl⟩ |
    ⟨entry, listed, n, inside, rfl⟩ | ⟨rfl, same⟩
  · exact (lowerChar_ascii n).1
  · exact lowerChar_image found
  · exact (lowerChar_of_listed listed inside).1
  · exact same

private theorem eq_of_isSeparator_of_mem_lowerChar (separates : Naming.isSeparator x = true)
    (member : x ∈ lowerChar c) : x = c := by
  rcases mem_lowerChar_cases member with ⟨n, rfl, rfl⟩ | ⟨n, m, found, rfl⟩ |
    ⟨entry, listed, n, inside, rfl⟩ | ⟨same, _⟩
  · exact (lowerChar_ascii n).2.1 separates
  · exact absurd ((isSeparator_image found).symm.trans separates) Bool.false_ne_true
  · exact absurd ((lowerChar_of_listed listed inside).2.symm.trans separates) Bool.false_ne_true
  · exact same

private theorem lowerChar_of_mem_lowerText {text : List Char} (member : x ∈ lowerText text) :
    lowerChar x = [x] := by
  rcases exists_of_mem_lowerAfter member with ⟨c, _, image⟩ | rfl | rfl
  · exact lowerChar_of_mem_lowerChar image
  · exact (lowerChar_wide _ List.mem_cons_self).1
  · exact (lowerChar_wide _ (List.mem_cons_of_mem _ List.mem_cons_self)).1

private theorem mem_of_isSeparator_of_mem_lowerText {text : List Char}
    (separates : Naming.isSeparator x = true) (member : x ∈ lowerText text) : x ∈ text := by
  rcases exists_of_mem_lowerAfter member with ⟨c, inside, image⟩ | rfl | rfl
  · rwa [eq_of_isSeparator_of_mem_lowerChar separates image]
  · have sigma := lowerChar_wide 0x3c2 List.mem_cons_self
    exact absurd (sigma.2.symm.trans separates) Bool.false_ne_true
  · have sigma := lowerChar_wide 0x3c3 (List.mem_cons_of_mem _ List.mem_cons_self)
    exact absurd (sigma.2.symm.trans separates) Bool.false_ne_true

/-- A text of small characters is its own small form: the sigma that depends on its place is a capital. -/
theorem lowerText_of_small {text : List Char} (small : ∀ c ∈ text, lowerChar c = [c]) :
    lowerText text = text := by
  have after (before : List Char) : lowerAfter before text = text := by
    induction text generalizing before with
    | nil => rfl
    | cons c text ih =>
      obtain ⟨here, later⟩ := List.forall_mem_cons.mp small
      have other : (c.toNat == 0x3a3) = false := by
        rw [beq_eq_false_iff_ne]
        intro same
        have sigma : c = Char.ofNat 0x3a3 := by rw [← same, Char.ofNat_toNat]
        rw [sigma] at here
        exact absurd here (by decide)
      rw [lowerAfter, other, here, ih later]
      rfl
  exact after []

theorem lowerText_lowerText (text : List Char) : lowerText (lowerText text) = lowerText text :=
  lowerText_of_small fun _ => lowerChar_of_mem_lowerText

end Blueprint.Text

namespace Blueprint.Naming

open Blueprint.Text

variable {c : Char}

theorem changes_of_isCapital (capital : isCapital c = true) :
    lowerChar c ≠ [c] ∧ isSeparator c = false := by
  have ascii : c.toNat < 0x80 := by
    simp only [isCapital, Bool.and_eq_true, decide_eq_true_eq, Char.le_def,
      UInt32.le_iff_toNat_le] at capital
    exact Nat.lt_of_le_of_lt capital.2 (by decide)
  have same : isCapital c = true → lowerChar c ≠ [c] ∧ isSeparator c = false :=
    of_ascii c ascii fun n => (lowerChar_ascii n).2.2
  exact same capital

private theorem isCapital_of_small (small : lowerChar c = [c]) : isCapital c = false := by
  rw [← Bool.not_eq_true]
  exact fun capital => (changes_of_isCapital capital).1 small

theorem isCapital_of_isSeparator (separates : isSeparator c = true) : isCapital c = false := by
  rw [← Bool.not_eq_true]
  intro capital
  rw [(changes_of_isCapital capital).2] at separates
  cases separates

theorem spaceBefore_of_small {text : List Char} (small : ∀ c ∈ text, isCapital c = false) :
    spaceBefore startsWord text = text := by
  induction text with
  | nil => rfl
  | cons c text ih =>
    obtain ⟨_, later⟩ := List.forall_mem_cons.mp small
    have behind : spaceBehind startsWord c text = [] := by
      cases text with
      | nil => rfl
      | cons d text => simp [spaceBehind, startsWord, leavesSmall, leavesAcronym, later d]
    rw [spaceBefore, behind, ih later, List.nil_append]

theorem fieldsFrom_append {word : List Char} (rest : List Char) (filled : word ≠ [])
    (plain : ∀ c ∈ word, isSeparator c = false) (ends : ∀ c ∈ rest.head?, isSeparator c = true) :
    fieldsFrom [] (word ++ rest) = word :: fieldsFrom [] rest := by
  cases word with
  | nil => exact absurd rfl filled
  | cons c word =>
    obtain ⟨here, later⟩ := List.forall_mem_cons.mp plain
    have inside : ∀ c ∈ word, (!isSeparator c) = true := by simpa using later
    have stops : ∀ c ∈ rest.head?, (!isSeparator c) = false := by simpa using ends
    rw [List.cons_append, fieldsFrom, if_neg (by simp [here]),
      fieldsFrom_of_ne_nil (List.cons_ne_nil c []), takeWhile_append_stop inside stops,
      dropWhile_append_stop inside stops]
    rfl

/-- Words that are joined by a separator are read back, if they hold neither separators nor capitals. -/
theorem words_intercalate {joint : Char} (separates : isSeparator joint = true)
    {parts : List (List Char)}
    (plain : ∀ part ∈ parts, part ≠ [] ∧ ∀ c ∈ part, isSeparator c = false ∧ isCapital c = false) :
    words ([joint].intercalate parts) = parts := by
  have small : ∀ c ∈ [joint].intercalate parts, isCapital c = false := by
    intro c member
    rcases mem_of_mem_intercalate member with between | ⟨part, listed, inside⟩
    · rw [List.mem_singleton.mp between]
      exact isCapital_of_isSeparator separates
    · exact ((plain part listed).2 c inside).2
  rw [words, spaceAcronyms_spaceCapitals, spaceBefore_of_small small]
  clear small
  induction parts with
  | nil => rfl
  | cons first parts ih =>
    obtain ⟨⟨filled, inside⟩, later⟩ := List.forall_mem_cons.mp plain
    have unseparated : ∀ c ∈ first, isSeparator c = false := fun c member => (inside c member).1
    cases parts with
    | nil =>
      have alone := fieldsFrom_append [] filled unseparated (by simp)
      rw [List.append_nil] at alone
      rwa [List.intercalate_singleton]
    | cons second parts =>
      rw [List.intercalate_cons_cons, List.append_assoc, fieldsFrom_append _ filled unseparated,
        List.singleton_append, fieldsFrom, if_pos separates, List.isEmpty_nil, if_pos rfl, ih later]
      simpa using separates

theorem lowerWords_plain {name word : List Char} (listed : word ∈ lowerWords name) :
    (word ≠ [] ∧ ∀ c ∈ word, isSeparator c = false ∧ isCapital c = false) ∧ lowerText word = word := by
  obtain ⟨whole, own, rfl⟩ := List.mem_map.mp listed
  refine ⟨⟨lowerText_ne_nil (ne_nil_of_mem_fieldsFrom own), fun c member => ⟨?_, ?_⟩⟩,
    lowerText_lowerText whole⟩
  · rw [← Bool.not_eq_true]
    intro separates
    have inside := mem_of_isSeparator_of_mem_lowerText separates member
    rw [(mem_of_mem_words own inside).2] at separates
    cases separates
  · exact isCapital_of_small (lowerChar_of_mem_lowerText member)

theorem words_joined {joint : Char} (separates : isSeparator joint = true) (name : List Char) :
    words ([joint].intercalate (lowerWords name)) = lowerWords name :=
  words_intercalate separates fun _ listed => (lowerWords_plain listed).1

theorem lowerWords_joined {joint : Char} (separates : isSeparator joint = true) (name : List Char) :
    lowerWords ([joint].intercalate (lowerWords name)) = lowerWords name := by
  rw [lowerWords, words_joined separates]
  calc (lowerWords name).map lowerText
      = (lowerWords name).map id := List.map_congr_left fun word listed => (lowerWords_plain listed).2
    _ = lowerWords name := List.map_id _

end Blueprint.Naming

namespace Blueprint

open Naming Text

/-- A name in a style that joins small words has the small words of the name as its words; so it stays as
it is in its own style, and in the other one it becomes what the name becomes. -/
theorem joined_styles_stable (name : String) :
    wordsOf (kebabCase name) = (wordsOf name).map lower ∧
    wordsOf (snakeCase name) = (wordsOf name).map lower ∧
    kebabCase (kebabCase name) = kebabCase name ∧ snakeCase (snakeCase name) = snakeCase name ∧
    kebabCase (snakeCase name) = kebabCase name ∧ snakeCase (kebabCase name) = snakeCase name := by
  have hyphen : isSeparator '-' = true := rfl
  have line : isSeparator '_' = true := rfl
  have small : (wordsOf name).map lower = (lowerWords name.toList).map String.ofList := by
    simp [wordsOf, lowerWords, lower, Function.comp_def]
  refine ⟨?_, ?_, ?_, ?_, ?_, ?_⟩
  · rw [small, wordsOf, kebabCase, String.toList_ofList, kebab, words_joined hyphen]
  · rw [small, wordsOf, snakeCase, String.toList_ofList, snake, words_joined line]
  · simp only [kebabCase, String.toList_ofList, kebab, lowerWords_joined hyphen]
  · simp only [snakeCase, String.toList_ofList, snake, lowerWords_joined line]
  · simp only [kebabCase, snakeCase, String.toList_ofList, kebab, snake, lowerWords_joined line]
  · simp only [kebabCase, snakeCase, String.toList_ofList, kebab, snake, lowerWords_joined hyphen]

end Blueprint
