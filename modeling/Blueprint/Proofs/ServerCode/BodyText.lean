import Blueprint.Proofs.Outcomes
import Blueprint.Proofs.Text
import Blueprint.ServerCode.Module

namespace Blueprint.Text

/-- Puts an indentation before one line that is not blank. -/
def indentLine (margin line : List Char) : List Char :=
  if isBlankText line then line else margin ++ line

/-- Nothing visible stands behind a character of a line that ends lines. -/
def isPlainLine (line : List Char) : Bool := isBlankText (line.dropWhile (!isLineEnd ·))

/-- No line between line feeds goes on visibly behind another end of a line. -/
def PlainLines (text : List Char) : Prop := ∀ line ∈ linesOf text, isPlainLine line = true

instance (text : List Char) : Decidable (PlainLines text) := List.decidableBAll _ _

/-- As long as another text or longer, with as many line feeds. -/
structure Over (long short : List Char) : Prop where
  length : short.length ≤ long.length
  feeds : long.count '\n' = short.count '\n'

theorem Over.refl (text : List Char) : Over text text := ⟨Nat.le_refl _, rfl⟩

section Joining

theorem not_mem_of_mem_linesOf (text : List Char) : ∀ line ∈ linesOf text, '\n' ∉ line := by
  induction text with
  | nil => simp [linesOf]
  | cons c text ih =>
    rw [linesOf] at ih ⊢
    rw [List.splitOn_cons_eq_if_modifyHead]
    split
    · exact List.forall_mem_cons.mpr ⟨List.not_mem_nil, ih⟩
    · rename_i other
      cases shape : text.splitOn '\n' with
      | nil => exact absurd shape (List.splitOn_ne_nil '\n' text)
      | cons first lines =>
        rw [shape, List.forall_mem_cons] at ih
        refine List.forall_mem_cons.mpr ⟨?_, ih.2⟩
        rw [List.mem_cons, not_or]
        exact ⟨fun same => other (beq_iff_eq.mpr same.symm), ih.1⟩

theorem linesOf_joinLines (first : List Char) (lines : List (List Char)) :
    linesOf (joinLines (first :: lines)) = (first :: lines).flatMap linesOf := by
  induction lines generalizing first with
  | nil => simp [joinLines]
  | cons second lines ih =>
    rw [joinLines_cons_cons, linesOf, List.splitOn_append_cons_self, List.flatMap_cons, ← ih second]
    rfl

/-- Joining longer lines gives a longer text, and the same text from the same lines only. -/
theorem joinLines_over {long short : List (List Char)} (above : List.Forall₂ Over long short) :
    Over (joinLines long) (joinLines short) ∧ (joinLines long = joinLines short → long = short) := by
  induction above with
  | nil => exact ⟨.refl _, fun _ => rfl⟩
  | @cons first own long short here rest ih =>
    cases rest with
    | nil => simpa [joinLines] using here
    | cons next others =>
      rw [joinLines_cons_cons, joinLines_cons_cons]
      have own := here.length
      have later := ih.1.length
      refine ⟨⟨?_, ?_⟩, fun same => ?_⟩
      · simp only [List.length_append, List.length_cons]
        omega
      · simp [here.feeds, ih.1.feeds]
      · have total := congrArg List.length same
        simp only [List.length_append, List.length_cons] at total
        obtain ⟨rfl, behind⟩ := List.append_inj same (by omega)
        rw [ih.2 (List.cons.inj behind).2]

end Joining

section Lines

variable {margin line text : List Char}

theorem isBlankText_append (front back : List Char) :
    isBlankText (front ++ back) = (isBlankText front && isBlankText back) := List.all_append

theorem indentLine_append_blank {back : List Char} (blank : isBlankText back = true) :
    indentLine margin (line ++ back) = indentLine margin line ++ back := by
  rw [indentLine, indentLine, isBlankText_append, blank, Bool.and_true]
  split <;> simp

private theorem indentLine_nil (line : List Char) : indentLine [] line = line := by simp [indentLine]

private theorem splitLinesFrom_pair (line text : List Char) :
    splitLinesFrom line ('\r' :: '\n' :: text) =
      (line.reverse ++ ['\r', '\n']) :: splitLines text := by
  simp [splitLinesFrom, splitLines]

theorem splitLinesFrom_end {c : Char} (ends : isLineEnd c = true) (line : List Char)
    (single : c = '\r' → text.head? ≠ some '\n') :
    splitLinesFrom line (c :: text) = (line.reverse ++ [c]) :: splitLines text := by
  rw [splitLinesFrom, if_pos ends, List.reverse_cons, splitLines]
  rintro rest rfl rfl
  exact single rfl rfl

private theorem splitLinesFrom_inner {c : Char} (inner : isLineEnd c = false) (line : List Char) :
    splitLinesFrom line (c :: text) = splitLinesFrom (c :: line) text := by
  rw [splitLinesFrom, if_neg (by simp [inner])]
  rintro rest rfl
  cases inner

private theorem splitLinesFrom_append {front : List Char} (within : ∀ c ∈ front, isLineEnd c = false)
    (line text : List Char) :
    splitLinesFrom line (front ++ text) = splitLinesFrom (front.reverse ++ line) text := by
  induction front generalizing line with
  | nil => rfl
  | cons c front ih =>
    obtain ⟨here, later⟩ := List.forall_mem_cons.mp within
    rw [List.cons_append, splitLinesFrom_inner here, ih later, List.reverse_cons, List.append_assoc]
    rfl

private theorem flatten_splitLinesFrom (line text : List Char) :
    (splitLinesFrom line text).flatten = line.reverse ++ text := by
  fun_induction splitLinesFrom line text <;> simp_all

theorem flatten_splitLines (text : List Char) : (splitLines text).flatten = text :=
  flatten_splitLinesFrom [] text

/-- A line feed ends a line whatever stands before it. -/
theorem indentFrom_append_feed (margin line first rest : List Char) :
    (splitLinesFrom line (first ++ '\n' :: rest)).flatMap (indentLine margin) =
      (splitLinesFrom line first).flatMap (indentLine margin) ++ '\n' :: indent margin rest := by
  have fed (line : List Char) : indentLine margin (line ++ ['\n']) = indentLine margin line ++ ['\n'] :=
    indentLine_append_blank rfl
  have after (text : List Char) :
      (splitLines text).flatMap (indentLine margin) = indent margin text := rfl
  fun_induction splitLinesFrom line first with
  | case1 line empty =>
    rw [List.isEmpty_iff.mp empty]
    rfl
  | case2 line =>
    rw [List.nil_append, splitLinesFrom_end rfl line (by simp), List.flatMap_cons, fed, after]
    simp
  | case3 line behind ih =>
    rw [List.cons_append, List.cons_append, splitLinesFrom_pair, List.flatMap_cons, splitLines, ih]
    simp
  | case4 line c behind notBoth ends ih =>
    by_cases pair : c = '\r' ∧ behind = []
    · obtain ⟨rfl, rfl⟩ := pair
      have both : indentLine margin (line.reverse ++ ['\r', '\n']) =
          indentLine margin (line.reverse ++ ['\r']) ++ ['\n'] := by
        rw [← fed, List.append_assoc]
        rfl
      rw [List.cons_append, List.nil_append, splitLinesFrom_pair, List.flatMap_cons, after, both]
      simp [splitLinesFrom]
    · have single : c = '\r' → (behind ++ '\n' :: rest).head? ≠ some '\n' := by
        intro returned
        cases behind with
        | nil => exact absurd ⟨returned, rfl⟩ pair
        | cons next behind =>
          intro same
          exact notBoth behind returned (by rw [Option.some.inj same])
      rw [List.cons_append, splitLinesFrom_end ends line single, List.flatMap_cons, splitLines, ih]
      simp
  | case5 line c behind notBoth inner ih =>
    rw [List.cons_append, splitLinesFrom_inner (by simpa using inner), ih]

theorem indent_joinLines (margin first : List Char) (lines : List (List Char)) :
    indent margin (joinLines (first :: lines)) =
      joinLines ((first :: lines).map (indent margin)) := by
  induction lines generalizing first with
  | nil => simp [joinLines]
  | cons second lines ih =>
    rw [joinLines_cons_cons, List.map_cons, List.map_cons, joinLines_cons_cons, ← List.map_cons,
      ← ih second]
    exact indentFrom_append_feed margin [] first _

private theorem indent_eq_joinLines (margin text : List Char) :
    indent margin text = joinLines ((linesOf text).map (indent margin)) := by
  cases shape : linesOf text with
  | nil => exact absurd shape (List.splitOn_ne_nil '\n' text)
  | cons first lines => rw [← indent_joinLines, ← shape, joinLines_linesOf]

theorem indent_of_blank (blank : isBlankText text = true) : indent margin text = text := by
  have pieces : ∀ line ∈ splitLines text, indentLine margin line = line := by
    intro line member
    refine if_pos (List.all_eq_true.mpr fun c inside => List.all_eq_true.mp blank c ?_)
    rw [← flatten_splitLines text]
    exact List.mem_flatten.mpr ⟨line, member, inside⟩
  calc indent margin text
      = (splitLines text).flatMap (indentLine margin) := rfl
    _ = (splitLines text).flatMap id := List.flatMap_congr pieces
    _ = text := by rw [List.flatMap_id, flatten_splitLines]

/-- A visible text gets the indentation at least once. -/
theorem length_indent_of_visible (visible : isBlankText text = false) :
    margin.length + text.length ≤ (indent margin text).length := by
  have longer (lines : List (List Char)) :
      lines.flatten.length ≤ (lines.flatMap (indentLine margin)).length ∧
      (isBlankText lines.flatten = false →
        margin.length + lines.flatten.length ≤ (lines.flatMap (indentLine margin)).length) := by
    induction lines with
    | nil => exact ⟨Nat.zero_le _, fun visible => absurd visible (by decide)⟩
    | cons line lines ih =>
      rw [List.flatten_cons, List.flatMap_cons, isBlankText_append]
      simp only [List.length_append]
      cases blank : isBlankText line with
      | true =>
        rw [indentLine, if_pos blank]
        refine ⟨by omega, fun visible => ?_⟩
        have := ih.2 visible
        omega
      | false =>
        rw [indentLine, if_neg (by simp [blank]), List.length_append]
        exact ⟨by omega, fun _ => by omega⟩
  have whole := (longer (splitLines text)).2
  rw [flatten_splitLines] at whole
  exact whole visible

private theorem isBlank_of_isLineEnd {c : Char} (ends : isLineEnd c = true) : isBlank c = true := by
  simp only [isLineEnd, isBlank, Bool.or_eq_true, Bool.and_eq_true, decide_eq_true_eq,
    beq_iff_eq] at ends ⊢
  omega

theorem isLineEnd_of_isIndent {c : Char} (indents : isIndent c = true) : isLineEnd c = false := by
  rcases (Bool.or_eq_true_iff.mp indents).imp eq_of_beq eq_of_beq with rfl | rfl <;> rfl

private theorem indent_nil (text : List Char) : indent [] text = text := by
  calc indent [] text
      = (splitLines text).flatMap id := List.flatMap_congr fun line _ => indentLine_nil line
    _ = text := by rw [List.flatMap_id, flatten_splitLines]

private theorem count_indentLine (apart : '\n' ∉ margin) (line : List Char) :
    (indentLine margin line).count '\n' = line.count '\n' := by
  rw [indentLine]
  split
  · rfl
  · rw [List.count_append, List.count_eq_zero.mpr apart, Nat.zero_add]

theorem count_indent (apart : '\n' ∉ margin) (text : List Char) :
    (indent margin text).count '\n' = text.count '\n' := by
  have pieces (lines : List (List Char)) :
      (lines.flatMap (indentLine margin)).count '\n' = lines.flatten.count '\n' := by
    induction lines with
    | nil => rfl
    | cons line lines ih => simp [count_indentLine apart, ih]
  calc (indent margin text).count '\n'
      = (splitLines text).flatten.count '\n' := pieces _
    _ = text.count '\n' := by rw [flatten_splitLines]

/-- What is moved in of a line up to the first character that ends it, and behind. -/
theorem indent_append_end {front behind : List Char} {c : Char}
    (within : ∀ c ∈ front, isLineEnd c = false) (ends : isLineEnd c = true)
    (single : '\n' ∉ behind) :
    indent margin (front ++ c :: behind) = indentLine margin front ++ c :: indent margin behind := by
  have pieces : splitLines (front ++ c :: behind) = (front ++ [c]) :: splitLines behind := by
    rw [splitLines, splitLinesFrom_append within, splitLinesFrom_end ends]
    · simp
    · intro _ fed
      exact single (List.mem_of_mem_head? fed)
  have blank : isBlankText [c] = true := by simp [isBlankText, isBlank_of_isLineEnd ends]
  calc indent margin (front ++ c :: behind)
      = indentLine margin (front ++ [c]) ++ indent margin behind := by
        rw [indent, pieces, List.flatMap_cons]
        rfl
    _ = indentLine margin front ++ c :: indent margin behind := by
        rw [indentLine_append_blank blank, List.append_assoc]
        rfl

private theorem indent_of_within (within : ∀ c ∈ line, isLineEnd c = false) :
    indent margin line = indentLine margin line := by
  have pieces := splitLinesFrom_append within [] []
  cases line with
  | nil => rfl
  | cons c line =>
    rw [List.append_nil, List.append_nil] at pieces
    rw [indent, splitLines, pieces]
    simp [splitLinesFrom, indentLine]

/-- A line with something visible behind an end is moved in as a whole only by no margin. -/
private theorem margin_eq_nil {margin front behind : List Char} {c : Char}
    (inMargin : ∀ c ∈ margin, isLineEnd c = false) (within : ∀ c ∈ front, isLineEnd c = false)
    (ends : isLineEnd c = true)
    (longer : margin.length + behind.length ≤ (indent margin behind).length)
    (same : indentLine margin front ++ c :: indent margin behind = margin ++ (front ++ c :: behind)) :
    margin = [] := by
  cases seen : isBlankText front with
  | true =>
    -- The first character that ends a line stands at another place.
    rw [indentLine, if_pos seen, ← List.append_assoc] at same
    have runs := congrArg (List.takeWhile (!isLineEnd ·)) same
    rw [takeWhile_append_stop (by simpa using within) (by simpa using ends),
      takeWhile_append_stop (by simpa [or_imp, forall_and] using ⟨inMargin, within⟩)
        (by simpa using ends)] at runs
    simpa using runs
  | false =>
    rw [indentLine, if_neg (by simp [seen])] at same
    have total := congrArg List.length same
    simp only [List.length_append, List.length_cons] at total
    exact List.eq_nil_of_length_eq_zero (by omega)

/-- A line is moved in as a whole exactly if nothing visible stands behind another end of a line. -/
theorem indent_line_iff (indents : ∀ c ∈ margin, isIndent c = true) (single : '\n' ∉ line) :
    Over (indent margin line) (indentLine margin line) ∧
      (indent margin line = indentLine margin line ↔ margin = [] ∨ isPlainLine line = true) := by
  have inMargin : ∀ c ∈ margin, isLineEnd c = false := fun c member =>
    isLineEnd_of_isIndent (indents c member)
  have apart : '\n' ∉ margin := fun member => absurd (inMargin _ member) (by decide)
  have feeds : (indent margin line).count '\n' = (indentLine margin line).count '\n' := by
    rw [count_indent apart, count_indentLine apart]
  obtain ⟨parts, within, stops⟩ := exists_run (!isLineEnd ·) line
  rw [isPlainLine]
  generalize line.takeWhile (!isLineEnd ·) = front at *
  generalize line.dropWhile (!isLineEnd ·) = back at *
  simp only [Bool.not_eq_eq_eq_not, Bool.not_true] at within
  cases back with
  | nil =>
    rw [List.append_nil] at parts
    have same : indent margin line = indentLine margin line := indent_of_within (parts ▸ within)
    exact ⟨⟨same ▸ le_rfl, feeds⟩, by simp [same, isBlankText]⟩
  | cons c behind =>
    have ends : isLineEnd c = true := by simpa using stops c rfl
    have plain : isBlankText (c :: behind) = isBlankText behind := by
      simp [isBlankText, isBlank_of_isLineEnd ends]
    have moved : indent margin line = indentLine margin front ++ c :: indent margin behind :=
      parts ▸ indent_append_end within ends fun member => single (by simp [parts, member])
    rw [plain]
    cases blank : isBlankText behind with
    | true =>
      have same : indent margin line = indentLine margin line := by
        rw [moved, indent_of_blank blank, parts, indentLine_append_blank (plain.trans blank)]
      exact ⟨⟨same ▸ le_rfl, feeds⟩, by simp [same]⟩
    | false =>
      have whole : indentLine margin line = margin ++ (front ++ c :: behind) := by
        rw [indentLine, if_neg (by simp [parts, isBlankText_append, plain, blank]), parts]
      have later : margin.length + behind.length ≤ (indent margin behind).length :=
        length_indent_of_visible blank
      refine ⟨⟨?_, feeds⟩, ⟨fun same => .inl ?_, fun either => ?_⟩⟩
      · rw [moved, whole]
        simp only [indentLine]
        split <;> simp only [List.length_append, List.length_cons] <;> omega
      · rw [moved, whole] at same
        exact margin_eq_nil inMargin within ends later same
      · obtain rfl : margin = [] := either.resolve_right Bool.false_ne_true
        rw [indent_nil, indentLine_nil]

theorem plainLines_of_blank (blank : isBlankText text = true) : PlainLines text := by
  have lines (first : List Char) (lines : List (List Char))
      (blank : isBlankText (joinLines (first :: lines)) = true) :
      ∀ line ∈ first :: lines, isBlankText line = true := by
    induction lines generalizing first with
    | nil => simpa [joinLines] using blank
    | cons second lines ih =>
      rw [joinLines_cons_cons, isBlankText_append, Bool.and_eq_true] at blank
      exact List.forall_mem_cons.mpr ⟨blank.1, ih second blank.2⟩
  intro line member
  cases shape : linesOf text with
  | nil => simp [shape] at member
  | cons first others =>
    rw [← joinLines_linesOf text, shape] at blank
    have own := lines first others blank line (shape ▸ member)
    exact List.all_eq_true.mpr fun c inside =>
      List.all_eq_true.mp own c ((List.dropWhile_sublist _).mem inside)

/-- A text is moved in line by line exactly if its lines are plain. -/
theorem indent_iff (indents : ∀ c ∈ margin, isIndent c = true) (text : List Char) :
    Over (indent margin text) (joinLines ((linesOf text).map (indentLine margin))) ∧
      (indent margin text = joinLines ((linesOf text).map (indentLine margin)) ↔
        margin = [] ∨ PlainLines text) := by
  have lines : ∀ line ∈ linesOf text, Over (indent margin line) (indentLine margin line) ∧
      (indent margin line = indentLine margin line ↔ margin = [] ∨ isPlainLine line = true) :=
    fun line member => indent_line_iff indents (not_mem_of_mem_linesOf text line member)
  obtain ⟨above, same⟩ := joinLines_over
    (List.forall₂_map_left_iff.mpr (List.forall₂_map_right_iff.mpr
      (List.forall₂_same.mpr fun line member => (lines line member).1)))
  rw [indent_eq_joinLines]
  refine ⟨above, ⟨fun whole => ?_, fun either => congrArg joinLines ?_⟩⟩
  · refine or_iff_not_imp_left.mpr fun moved line member => ?_
    exact ((lines line member).2.mp (List.map_inj_left.mp (same whole) line member)).resolve_left
      moved
  · rw [List.map_inj_left]
    intro line member
    exact (lines line member).2.mpr (either.imp_right fun plain => plain line member)

end Lines

/-- A text without the line feeds at its end. -/
def trimFeeds (text : List Char) : List Char := (text.reverse.dropWhile (· == '\n')).reverse

private theorem isBlankText_trimFeeds {text : List Char} (blank : isBlankText text = true) :
    isBlankText (trimFeeds text) = true := by
  refine List.all_eq_true.mpr fun c member => List.all_eq_true.mp blank c ?_
  exact List.mem_reverse.mp ((List.dropWhile_sublist _).mem (List.mem_reverse.mp member))

end Blueprint.Text

namespace Blueprint.ServerCode.Module

open Text

/-- A body as it is to stand in the place of its placeholder: without the line feeds at its end, and
moved in line by line. -/
def writtenBody (margin : List Char) (body : String) : List Char :=
  if isBlankString body then margin ++ "pass".toList
  else joinLines ((linesOf (trimFeeds body.toList)).map (indentLine margin))

/-- A line of the printed module with its body in the place of a placeholder, as it is to be. -/
def writtenLine (bodies : List String) (line : List Char) : List Char :=
  match placeholderLine? line with
  | none => line
  | some (margin, index) => match bodies[index]? with
    | some body => writtenBody margin body
    | none => line

/-- The lines of the printed module before bodies are put in. -/
def printedLines (module : Module) : List (List Char) := linesOf (moduleText module.body).toList

/-- The places of bodies in the printed module. -/
def placeholders (module : Module) : List (List Char × Nat) :=
  module.printedLines.filterMap placeholderLine?

/-- A text under a header if there is one. It ends with a line feed. -/
def framed (header : String) (text : List Char) : String :=
  let text := String.ofList text
  let text := if header.isEmpty then text else header ++ "\n" ++ text
  if text.endsWith "\n" then text else text ++ "\n"

private theorem render_eq (module : Module) (header : String) :
    module.render header = do
      let lines ← module.printedLines.mapM (renderLine module.bodies)
      return framed header (joinLines lines) := rfl

section Printing

variable {bodies : List String} {margin line : List Char}

theorem isIndent_of_placeholder {place : List Char × Nat} (found : placeholderLine? line = some place) :
    ∀ c ∈ place.1, isIndent c = true := by
  obtain ⟨rest, _, found⟩ := Option.bind_eq_some_iff.mp found
  obtain ⟨_, same⟩ := Option.ite_none_left_eq_some.mp found
  cases same
  exact fun c => List.mem_takeWhile_imp

private theorem bodyText_iff (indents : ∀ c ∈ margin, isIndent c = true) (body : String) :
    Over (bodyText margin body) (writtenBody margin body) ∧
      (bodyText margin body = writtenBody margin body ↔
        margin = [] ∨ PlainLines (trimFeeds body.toList)) := by
  rw [bodyText, writtenBody]
  split
  · rename_i blank
    exact ⟨.refl _, ⟨fun _ => .inr (plainLines_of_blank (isBlankText_trimFeeds blank)), fun _ => rfl⟩⟩
  · exact indent_iff indents _

theorem renderLine_eq_ok_iff {piece : List Char} : renderLine bodies line = .ok piece ↔
    (placeholderLine? line = none ∧ line = piece) ∨ ∃ place body, placeholderLine? line = some place ∧
      bodies[place.2]? = some body ∧ bodyText place.1 body = piece := by
  unfold renderLine
  cases found : placeholderLine? line with
  | none => simp
  | some place =>
    cases kept : bodies[place.2]? with
    | none => simp [kept]
    | some body => simp [kept]

theorem renderLine_over {piece : List Char} (printed : renderLine bodies line = .ok piece) :
    Over piece (writtenLine bodies line) ∧ (piece = writtenLine bodies line ↔
      ∀ place ∈ placeholderLine? line, ∃ body, bodies[place.2]? = some body ∧
        (place.1 = [] ∨ PlainLines (trimFeeds body.toList))) := by
  rw [writtenLine]
  rcases renderLine_eq_ok_iff.mp printed with ⟨other, rfl⟩ | ⟨place, body, found, kept, rfl⟩
  · simp [other, Over.refl]
  · simpa [found, kept] using bodyText_iff (isIndent_of_placeholder found) body

/-- The frame of a text tells it among the texts with as many line feeds. -/
theorem framed_inj {long short : List Char} {header : String} (above : Over long short)
    (same : framed header long = framed header short) : long = short := by
  obtain ⟨lead, shape⟩ : ∃ lead : List Char, ∀ text, (framed header text).toList = lead ++ text ∨
      (framed header text).toList = lead ++ text ++ ['\n'] := by
    refine ⟨if header.isEmpty then [] else header.toList ++ ['\n'], fun text => ?_⟩
    simp only [framed]
    split <;> split <;> simp
  have feeds := above.feeds
  rcases shape long with first | first <;> rcases shape short with second | second <;>
    (rw [same, second] at first
     have counted := congrArg (List.count '\n') first
     simp only [List.count_append, List.count_singleton_self] at counted)
  · exact List.append_cancel_left first.symm
  · omega
  · omega
  · exact List.append_cancel_left (List.append_cancel_right first.symm)

end Printing

/-- A module is printed with its bodies line by line as they were kept exactly if every line that
stands for a body stands for one that is kept and whose lines are plain. -/
theorem render_eq_written_iff (module : Module) (header : String) :
    module.render header =
        .ok (framed header (joinLines (module.printedLines.map (writtenLine module.bodies)))) ↔
      ∀ place ∈ module.placeholders, ∃ body, module.bodies[place.2]? = some body ∧
        (place.1 = [] ∨ PlainLines (trimFeeds body.toList)) := by
  have lines : module.printedLines.mapM (renderLine module.bodies) =
        .ok (module.printedLines.map (writtenLine module.bodies)) ↔
      ∀ line ∈ module.printedLines, renderLine module.bodies line =
        .ok (writtenLine module.bodies line) := by
    rw [mapM_eq_ok_iff, List.forall₂_map_right_iff, List.forall₂_same]
  rw [render_eq, bind_eq_ok_iff, placeholders]
  simp only [List.mem_filterMap, forall_exists_index, and_imp]
  constructor
  · rintro ⟨pieces, printed, same⟩ place line member found
    have above : List.Forall₂ Over pieces (module.printedLines.map (writtenLine module.bodies)) :=
      List.forall₂_map_right_iff.mpr (List.Forall₂.flip
        ((mapM_eq_ok_iff.mp printed).imp fun _ _ printed => (renderLine_over printed).1))
    obtain ⟨longer, injective⟩ := joinLines_over above
    rw [injective (framed_inj longer (Except.ok.inj same))] at printed
    exact (renderLine_over (lines.mp printed line member)).2.mp rfl place found
  · intro kept
    refine ⟨_, lines.mpr fun line member => ?_, rfl⟩
    obtain ⟨piece, printed⟩ : ∃ piece, renderLine module.bodies line = .ok piece := by
      cases found : placeholderLine? line with
      | none => exact ⟨line, renderLine_eq_ok_iff.mpr (.inl ⟨found, rfl⟩)⟩
      | some place =>
        obtain ⟨body, stored, _⟩ := kept place line member found
        exact ⟨_, renderLine_eq_ok_iff.mpr (.inr ⟨place, body, found, stored, rfl⟩)⟩
    rwa [← (renderLine_over printed).2.mpr fun place found => kept place line member found]

end Blueprint.ServerCode.Module
