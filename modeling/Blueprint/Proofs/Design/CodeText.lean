import Mathlib.Data.List.Flatten
import Blueprint.Design.Grammar
import Blueprint.Proofs.Text

namespace Blueprint.Text

/-- Puts an indentation before a line that is not empty. -/
def moveIn (margin line : List Char) : List Char := if line.isEmpty then [] else margin ++ line

section CommonStart

variable {first second line : List Char} {others : List (List Char)}

private theorem commonStart_append (lead first second : List Char) :
    commonStart (lead ++ first) (lead ++ second) = lead ++ commonStart first second := by
  induction lead with
  | nil => rfl
  | cons c lead ih => rw [List.cons_append, List.cons_append, commonStart, if_pos rfl, ih]; rfl

private theorem commonStart_prefix (first second : List Char) :
    commonStart first second <+: first ∧ commonStart first second <+: second := by
  fun_induction commonStart first second with
  | case1 first c second ih =>
    exact ⟨(List.prefix_cons_inj c).mpr ih.1, (List.prefix_cons_inj c).mpr ih.2⟩
  | case2 => exact ⟨List.nil_prefix, List.nil_prefix⟩
  | case3 => exact ⟨List.nil_prefix, List.nil_prefix⟩

private theorem foldl_commonStart_append (lead first : List Char) (others : List (List Char)) :
    (others.map (lead ++ ·)).foldl commonStart (lead ++ first) =
      lead ++ others.foldl commonStart first := by
  induction others generalizing first with
  | nil => rfl
  | cons other others ih => rw [List.map_cons, List.foldl_cons, commonStart_append, ih, List.foldl_cons]

private theorem foldl_commonStart_prefix (first : List Char) (others : List (List Char)) :
    ∀ line ∈ first :: others, others.foldl commonStart first <+: line := by
  induction others generalizing first with
  | nil => simp
  | cons other others ih =>
    have both := commonStart_prefix first other
    obtain ⟨here, later⟩ := List.forall_mem_cons.mp (ih (commonStart first other))
    rw [List.foldl_cons]
    exact List.forall_mem_cons.mpr ⟨here.trans both.1,
      List.forall_mem_cons.mpr ⟨here.trans both.2, later⟩⟩

end CommonStart

section Margins

variable {margin line : List Char} {lines : List (List Char)}

/-- The indentations of the lines that hold more than spaces and tabs. -/
def indentations (lines : List (List Char)) : List (List Char) :=
  (lines.filter fun line => !line.all isIndent).map (·.takeWhile isIndent)

/-- A line is empty or holds more than spaces and tabs. -/
def IsFirm (line : List Char) : Prop := line = [] ∨ line.all isIndent = false

instance (line : List Char) : Decidable (IsFirm line) := inferInstanceAs (Decidable (_ ∨ _))

private theorem isFirm_iff : IsFirm line ↔ line = [] ∨ ∃ c ∈ line, isIndent c = false := by
  simp [IsFirm]

theorem commonIndent_eq (lines : List (List Char)) : commonIndent lines =
    match indentations lines with
    | [] => []
    | first :: rest => rest.foldl commonStart first := rfl

private theorem commonIndent_prefix (member : line ∈ lines) (firm : line.all isIndent = false) :
    commonIndent lines <+: line.takeWhile isIndent := by
  have listed : line.takeWhile isIndent ∈ indentations lines :=
    List.mem_map.mpr ⟨line, List.mem_filter.mpr ⟨member, by simp [firm]⟩, rfl⟩
  rw [commonIndent_eq]
  split
  · rename_i none
    rw [none] at listed
    cases listed
  · rename_i first rest shape
    rw [shape] at listed
    exact foldl_commonStart_prefix first rest _ listed

private theorem all_moveIn (firm : line.all isIndent = false) :
    (moveIn margin line).all isIndent = false := by
  have filled : line.isEmpty = false := by
    cases line with
    | nil => cases firm
    | cons => rfl
  rw [moveIn, filled, if_neg Bool.false_ne_true, List.all_append, firm, Bool.and_false]

theorem indentations_moveIn (indented : ∀ c ∈ margin, isIndent c = true)
    (firm : ∀ line ∈ lines, IsFirm line) :
    indentations (lines.map (moveIn margin)) = (indentations lines).map (margin ++ ·) := by
  induction lines with
  | nil => rfl
  | cons line lines ih =>
    obtain ⟨here, later⟩ := List.forall_mem_cons.mp firm
    have rest := ih later
    rw [indentations, indentations] at rest ⊢
    rcases here with rfl | here
    · simpa [moveIn] using rest
    · have moved : moveIn margin line = margin ++ line := by
        rw [moveIn, if_neg]
        rintro none
        rw [List.isEmpty_iff.mp none] at here
        cases here
      have stays : (moveIn margin line).all isIndent = false := all_moveIn here
      rw [List.map_cons, List.filter_cons_of_pos (by simp [stays]),
        List.filter_cons_of_pos (by simp [here]), List.map_cons, List.map_cons, List.map_cons, rest,
        moved, List.takeWhile_append_of_pos indented]

theorem commonIndent_moveIn (indented : ∀ c ∈ margin, isIndent c = true)
    (firm : ∀ line ∈ lines, IsFirm line) (some : ∃ line ∈ lines, line ≠ []) :
    commonIndent (lines.map (moveIn margin)) = margin ++ commonIndent lines := by
  rw [commonIndent_eq, commonIndent_eq, indentations_moveIn indented firm]
  cases shape : indentations lines with
  | nil =>
    obtain ⟨line, member, filled⟩ := some
    have firm := (firm line member).resolve_left filled
    have listed : line.takeWhile isIndent ∈ indentations lines :=
      List.mem_map.mpr ⟨line, List.mem_filter.mpr ⟨member, by simp [firm]⟩, rfl⟩
    rw [shape] at listed
    cases listed
  | cons first rest => exact foldl_commonStart_append margin first rest

theorem dedentLines_moveIn (indented : ∀ c ∈ margin, isIndent c = true)
    (firm : ∀ line ∈ lines, IsFirm line) (some : ∃ line ∈ lines, line ≠ [])
    (flush : commonIndent lines = []) : dedentLines (lines.map (moveIn margin)) = lines := by
  have common := commonIndent_moveIn indented firm some
  rw [flush, List.append_nil] at common
  rw [dedentLines, common, List.map_map]
  conv_rhs => rw [← List.map_id lines]
  refine List.map_congr_left fun line member => ?_
  rcases firm line member with rfl | firm
  · rfl
  · rw [Function.comp_apply, all_moveIn firm, if_neg Bool.false_ne_true, moveIn, if_neg]
    · exact List.drop_left
    · rintro none
      rw [List.isEmpty_iff.mp none] at firm
      cases firm

end Margins

end Blueprint.Text

namespace Blueprint.Design

open Blueprint.Text

section Trimming

variable {lines before after : List (List Char)}

theorem trimBlankLines_around (ahead : ∀ line ∈ before, isBlankText line = true)
    (behind : ∀ line ∈ after, isBlankText line = true) (nonempty : lines ≠ [])
    (first : ∀ line ∈ lines.head?, isBlankText line = false)
    (last : ∀ line ∈ lines.getLast?, isBlankText line = false) :
    trimBlankLines (before ++ lines ++ after) = lines := by
  have front : (before ++ lines ++ after).dropWhile isBlankText = lines ++ after := by
    rw [List.append_assoc]
    refine dropWhile_append_stop ahead fun line found => first line ?_
    rwa [head?_append_eq nonempty after [], List.append_nil] at found
  have back : (lines ++ after).reverse.dropWhile isBlankText = lines.reverse := by
    rw [List.reverse_append]
    refine dropWhile_append_stop (fun line member => behind line (List.mem_reverse.mp member)) ?_
    rwa [List.head?_reverse]
  rw [trimBlankLines, front, back, List.reverse_reverse]

end Trimming

section Ticks

variable {mark text inner : List Char}

/-- What stands between two marks is what is found there. -/
theorem between?_eq_some_iff : between? mark text = some inner ↔ text = mark ++ inner ++ mark := by
  have middle (inner : List Char) : (((mark ++ inner ++ mark).drop mark.length).take
      ((mark ++ inner ++ mark).length - 2 * mark.length)) = inner := by
    have size : (mark ++ inner ++ mark).length - 2 * mark.length = inner.length := by
      simp only [List.length_append]
      omega
    rw [size, List.append_assoc, List.drop_left, List.take_left]
  unfold between?
  simp only [Bool.and_eq_true, decide_eq_true_eq, List.isPrefixOf_iff_prefix,
    List.isSuffixOf_iff_suffix]
  constructor
  · intro found
    split at found
    · rename_i marked
      obtain ⟨⟨enough, rest, rfl⟩, ends⟩ := marked
      rw [List.length_append] at enough
      obtain ⟨inner, rfl⟩ : mark <:+ rest :=
        List.suffix_of_suffix_length_le ends (List.suffix_append mark rest) (by omega)
      rw [← List.append_assoc, middle] at found
      rw [← List.append_assoc, Option.some.inj found]
    · cases found
  · rintro rfl
    rw [middle, if_pos]
    refine ⟨⟨?_, List.append_assoc mark inner mark ▸ List.prefix_append _ _⟩, List.suffix_append _ _⟩
    simp only [List.length_append]
    omega

private theorem rawCode_fence (inner : List Char) :
    rawCode (fence ++ inner ++ fence) = joinLines (fencedLines inner) := by
  rw [rawCode, between?_eq_some_iff.mpr rfl]

end Ticks

/-- Lines of code that a fence can hold: none of them is broken, the first and the last are not
blank, the others are empty or hold more than spaces and tabs, and no indentation is common to all
that are not empty. -/
structure IsCode (lines : List (List Char)) : Prop where
  unbroken : ∀ line ∈ lines, '\n' ∉ line
  first : ∀ line ∈ lines.head?, isBlankText line = false
  last : ∀ line ∈ lines.getLast?, isBlankText line = false
  firm : ∀ line ∈ lines, line = [] ∨ ∃ c ∈ line, isIndent c = false
  flush : ∀ run : List Char, (∀ c ∈ run, isIndent c = true) →
    (∀ line ∈ lines, line ≠ [] → run <+: line) → run = []

namespace IsCode

variable {lines : List (List Char)}

theorem nonempty (code : IsCode lines) : lines ≠ [] := by
  rintro rfl
  exact absurd (code.flush [' '] (by decide) (by simp)) (by decide)

private theorem isFirm (code : IsCode lines) : ∀ line ∈ lines, IsFirm line := by
  intro line member
  exact isFirm_iff.mpr (code.firm line member)

private theorem exists_filled (code : IsCode lines) : ∃ line ∈ lines, line ≠ [] := by
  obtain ⟨line, rest, rfl⟩ := List.exists_cons_of_ne_nil code.nonempty
  refine ⟨line, List.mem_cons_self, ?_⟩
  rintro rfl
  exact absurd (code.first [] rfl) (by decide)

private theorem commonIndent_eq_nil (code : IsCode lines) : commonIndent lines = [] := by
  have below (line : List Char) (member : line ∈ lines) (filled : line ≠ []) :
      commonIndent lines <+: line.takeWhile isIndent :=
    commonIndent_prefix member ((code.isFirm line member).resolve_left filled)
  obtain ⟨line, member, filled⟩ := code.exists_filled
  refine code.flush _ (fun c inside => ?_) fun line member filled =>
    (below line member filled).trans (List.takeWhile_prefix _)
  exact List.mem_takeWhile_imp ((below line member filled).subset inside)

end IsCode

/-- Lines that are blank, and not broken. -/
def AreBlank (lines : List (List Char)) : Prop :=
  ∀ line ∈ lines, isBlankText line = true ∧ '\n' ∉ line

section Recovery

variable {lines before after : List (List Char)} {margin : List Char}

private theorem isBlankText_moveIn {line : List Char} (shown : isBlankText line = false) :
    isBlankText (moveIn margin line) = false := by
  cases line with
  | nil => cases shown
  | cons c line =>
    rw [moveIn, List.isEmpty_cons, if_neg Bool.false_ne_true, isBlankText, List.all_append]
    exact Bool.and_eq_false_iff.mpr (.inr shown)

private theorem not_mem_moveIn {line : List Char} (indented : ∀ c ∈ margin, isIndent c = true)
    (unbroken : '\n' ∉ line) : '\n' ∉ moveIn margin line := by
  unfold moveIn
  split
  · exact List.not_mem_nil
  · rw [List.mem_append, not_or]
    exact ⟨fun inside => absurd (indented _ inside) (by decide), unbroken⟩

/-- Code comes back from a fence: with any indentation before its lines, and with any blank lines
around them. -/
theorem rawText_fence (code : IsCode lines) (indented : ∀ c ∈ margin, isIndent c = true)
    (ahead : AreBlank before) (behind : AreBlank after) :
    rawText (String.ofList (fence ++
      joinLines (before ++ lines.map (moveIn margin) ++ after) ++ fence)) =
      String.ofList (joinLines lines) := by
  have unbroken : ∀ line ∈ before ++ lines.map (moveIn margin) ++ after, '\n' ∉ line := by
    simp only [List.forall_mem_append, List.forall_mem_map]
    exact ⟨⟨fun line member => (ahead line member).2,
      fun line member => not_mem_moveIn indented (code.unbroken line member)⟩,
      fun line member => (behind line member).2⟩
  have split : linesOf (joinLines (before ++ lines.map (moveIn margin) ++ after)) =
      before ++ lines.map (moveIn margin) ++ after :=
    List.splitOn_intercalate '\n' unbroken (by simp [code.nonempty])
  have trimmed : trimBlankLines (before ++ lines.map (moveIn margin) ++ after) =
      lines.map (moveIn margin) := by
    refine trimBlankLines_around (fun line member => (ahead line member).1)
      (fun line member => (behind line member).1) (by simpa using code.nonempty) ?_ ?_
    · intro line found
      rw [List.head?_map, Option.mem_def, Option.map_eq_some_iff] at found
      obtain ⟨own, first, rfl⟩ := found
      exact isBlankText_moveIn (code.first own first)
    · intro line found
      rw [List.getLast?_map, Option.mem_def, Option.map_eq_some_iff] at found
      obtain ⟨own, last, rfl⟩ := found
      exact isBlankText_moveIn (code.last own last)
  have dedented := dedentLines_moveIn indented code.isFirm code.exists_filled code.commonIndent_eq_nil
  rw [rawText, String.toList_ofList, rawCode_fence, fencedLines, split, trimmed, dedented]

/-- Lines that start with a tab or with spaces, an empty one, and one that a form feed fills. -/
def mixedLines : List (List Char) :=
  ["\tif early:".toList, [], "  pass".toList, "\x0c".toList, "\t  wait()".toList]

theorem isCode_mixedLines : IsCode mixedLines where
  unbroken := by decide
  first := by decide
  last := by decide
  firm line member := isFirm_iff.mp ((show ∀ line ∈ mixedLines, IsFirm line by decide) line member)
  flush run _ common := by
    have tab : run <+: "\tif early:".toList := common _ List.mem_cons_self (by decide)
    have space : run <+: "  pass".toList := common _ (by simp [mixedLines]) (by decide)
    cases run with
    | nil => rfl
    | cons c run =>
      have same := (List.cons_prefix_cons.mp tab).1.symm.trans (List.cons_prefix_cons.mp space).1
      exact absurd same (by decide)

theorem rawText_fence_mixedLines : AreBlank [[], " \u00a0".toList] ∧ AreBlank ["\t".toList] ∧
    IsCode mixedLines ∧ (∀ c ∈ " \t".toList, isIndent c = true) ∧
    rawText (String.ofList (fence ++ joinLines ([[], " \u00a0".toList] ++
      mixedLines.map (moveIn " \t".toList) ++ ["\t".toList]) ++ fence)) =
      "\tif early:\n\n  pass\n\x0c\n\t  wait()" := by
  have ahead : AreBlank [[], " \u00a0".toList] := by unfold AreBlank; decide
  have behind : AreBlank ["\t".toList] := by unfold AreBlank; decide
  have indented : ∀ c ∈ " \t".toList, isIndent c = true := by decide
  refine ⟨ahead, behind, isCode_mixedLines, indented, ?_⟩
  rw [rawText_fence isCode_mixedLines indented ahead behind]
  decide

end Recovery

section Ticks

variable {c : Char}

theorem count_joinLines (other : c ≠ '\n') (lines : List (List Char)) :
    (joinLines lines).count c = lines.flatten.count c := by
  induction lines with
  | nil => rfl
  | cons first lines ih =>
    cases lines with
    | nil => simp [joinLines, List.intercalate]
    | cons second lines =>
      rw [joinLines_cons_cons, List.count_append, List.count_cons_of_ne other.symm, ih,
        ← List.count_append]
      rfl

private theorem trimBlankLines_sublist (lines : List (List Char)) :
    (trimBlankLines lines).Sublist lines := by
  refine List.Sublist.trans ?_ (List.dropWhile_sublist isBlankText)
  rw [trimBlankLines, ← List.reverse_sublist, List.reverse_reverse]
  exact List.dropWhile_sublist _

private theorem flatten_dedentLines_sublist (lines : List (List Char)) :
    (dedentLines lines).flatten.Sublist lines.flatten := by
  rw [dedentLines, ← List.flatMap_def, ← List.flatMap_id]
  refine List.Sublist.flatMap_right lines fun line _ => ?_
  split
  · exact List.nil_sublist _
  · exact List.drop_sublist _ _

theorem count_fencedLines_le (other : c ≠ '\n') (inner : List Char) :
    (joinLines (fencedLines inner)).count c ≤ inner.count c :=
  calc (joinLines (fencedLines inner)).count c
      = (fencedLines inner).flatten.count c := count_joinLines other _
    _ ≤ (trimBlankLines (linesOf inner)).flatten.count c :=
      (flatten_dedentLines_sublist _).count_le c
    _ ≤ (linesOf inner).flatten.count c := (trimBlankLines_sublist _).flatten.count_le c
    _ = (joinLines (linesOf inner)).count c := (count_joinLines other _).symm
    _ = inner.count c := by rw [joinLines_linesOf]

/-- A text is taken as it is exactly if it does not stand between two backticks. -/
theorem rawCode_eq_self_iff {text : List Char} :
    rawCode text = text ↔ ¬ ∃ inner, text = tick ++ inner ++ tick := by
  constructor
  · rintro same ⟨inner, rfl⟩
    unfold rawCode at same
    split at same
    · -- A fence has six backticks that are not recovered.
      rename_i body found
      rw [between?_eq_some_iff.mp found] at same
      have total := congrArg (List.count '`') same
      have fewer := count_fencedLines_le (c := '`') (by decide) body
      rw [List.count_append, List.count_append, show fence.count '`' = 3 from rfl] at total
      omega
    · rw [between?_eq_some_iff.mpr rfl, Option.getD_some] at same
      have total := congrArg List.length same
      simp only [tick, List.length_append] at total
      simp at total
      omega
  · intro bare
    have noFence : between? fence text = none := by
      rw [Option.eq_none_iff_forall_ne_some]
      intro inner found
      refine bare ⟨"``".toList ++ inner ++ "``".toList, ?_⟩
      rw [between?_eq_some_iff.mp found]
      simp [fence, tick]
    have noTick : between? tick text = none := by
      rw [Option.eq_none_iff_forall_ne_some]
      exact fun inner found => bare ⟨inner, between?_eq_some_iff.mp found⟩
    rw [rawCode, noFence, noTick]
    rfl

end Ticks

end Blueprint.Design
