import Blueprint.Markup.Selector
import Blueprint.Proofs.Markup.PipePlaces

namespace Blueprint.Markup

open Blueprint.Text

/-- A name of a tag or of an attribute. -/
structure SelectorName where
  text : List Char
  nonempty : text ≠ []
  plain : ∀ c ∈ text, isNameChar c = true

/-- An attribute between brackets. -/
def SelectorName.bracket (name : SelectorName) : List Char := '[' :: (name.text ++ [']'])

/-- A part of a selector: an attribute that stands alone, or attributes between brackets behind a tag,
if there is one. -/
inductive SelectorPart where
  | bare (name : SelectorName)
  | bracketed (tag : Option SelectorName) (first : SelectorName) (others : List SelectorName)

namespace SelectorPart

def print : SelectorPart → List Char
  | bare name => name.text
  | bracketed tag first others =>
    (tag.map SelectorName.text).getD [] ++ (first :: others).flatMap SelectorName.bracket

/-- The tag that the elements of a part have. -/
def tag? : SelectorPart → Option (List Char)
  | bare _ => none
  | bracketed tag _ _ => tag.map SelectorName.text

/-- The attributes that a part names. -/
def attributes : SelectorPart → List (List Char)
  | bare name => [name.text]
  | bracketed _ first others => (first :: others).map SelectorName.text

/-- A part fits an attribute of a template: it names the attribute, the template has an element of its
tag, and where it names several attributes the template has all of them. -/
structure Fits (part : SelectorPart) (wanted : List Char) (elements present : List (List Char)) :
    Prop where
  named : wanted ∈ part.attributes
  tagged : ∀ tag ∈ part.tag?, tag ∈ elements
  together : 1 < part.attributes.length → ∀ name ∈ part.attributes, name ∈ present

end SelectorPart

/-- A clause that excludes something; what it excludes ends at the first closing bracket. -/
structure NotClause where
  inner : List Char
  nonempty : inner ≠ []
  unnested : ')' ∉ inner

def NotClause.print (clause : NotClause) : List Char :=
  ":not(".toList ++ (clause.inner ++ [')'])

section Matches

variable {α : Type} {rule : List Char → Option (Found α)} {part rest : List Char} {value : α}

theorem findAll_append_of_match (nonempty : part ≠ [])
    (found : rule (part ++ rest) = some ⟨value, part.length⟩) :
    findAll rule (part ++ rest) = value :: findAll rule rest := by
  cases part with
  | nil => exact absurd rfl nonempty
  | cons c part =>
    rw [List.cons_append] at found ⊢
    rw [findAll_cons, found]
    change value :: findAllFrom rule part.length (part ++ rest) = _
    rw [findAllFrom_append rule le_rfl, List.drop_length, List.nil_append]

private theorem findAll_append_of_quiet (quiet : ∀ c ∈ part, ∀ tail, rule (c :: tail) = none)
    (rest : List Char) : findAll rule (part ++ rest) = findAll rule rest := by
  induction part with
  | nil => rfl
  | cons c part ih =>
    rw [List.forall_mem_cons] at quiet
    rw [List.cons_append, findAll_cons, quiet.1 (part ++ rest)]
    exact ih quiet.2

private theorem occurs_append (needle front back : List Char) :
    occurs needle (front ++ (needle ++ back)) = true := by
  have here : occurs needle (needle ++ back) = true := by
    have stands : needle.isPrefixOf (needle ++ back) = true :=
      List.isPrefixOf_iff_prefix.mpr (List.prefix_append needle back)
    cases text : needle ++ back with
    | nil => rw [occurs, (List.append_eq_nil_iff.mp text).1]; rfl
    | cons c rest => rw [occurs, ← text, stands, Bool.true_or]
  induction front with
  | nil => exact here
  | cons c front ih => rw [List.cons_append, occurs, ih, Bool.or_true]

end Matches

section Clauses

variable {part : List Char}

theorem notClause?_print (clause : NotClause) (rest : List Char) :
    notClause? (clause.print ++ rest) = some ⟨[], clause.print.length⟩ := by
  have inside : ∀ c ∈ clause.inner, (c != ')') = true := by
    intro c member
    exact bne_iff_ne.mpr fun same => clause.unnested (same ▸ member)
  have taken : (clause.inner ++ ')' :: rest).takeWhile (· != ')') = clause.inner :=
    takeWhile_append_stop inside (by simp)
  have left : (clause.inner ++ ')' :: rest).dropWhile (· != ')') = ')' :: rest :=
    dropWhile_append_stop inside (by simp)
  unfold notClause? NotClause.print
  rw [List.append_assoc, after?_append, Option.bind_some, List.append_assoc, List.singleton_append]
  simp only [taken, left]
  cases inner : clause.inner with
  | nil => exact absurd inner clause.nonempty
  | cons c inner => simp [Nat.add_comm, Nat.add_left_comm]

private theorem notClause?_of_ne {c : Char} (other : c ≠ ':') (tail : List Char) :
    notClause? (c :: tail) = none := by
  have missed : after? ":not(".toList (c :: tail) = none := by
    change (if ':' = c then _ else none) = none
    exact if_neg (Ne.symm other)
  rw [notClause?, missed, Option.bind_none]

theorem replace_notClauses (plain : ':' ∉ part) (clauses : List NotClause) :
    replace notClause? (part ++ clauses.flatMap NotClause.print) = part := by
  have gone : replace notClause? (clauses.flatMap NotClause.print) = [] := by
    induction clauses with
    | nil => rfl
    | cons clause clauses ih =>
      have filled : clause.print ≠ [] := by
        delta NotClause.print
        simp
      rw [List.flatMap_cons, replace_append_of_match filled (notClause?_print clause _), ih]
      rfl
  rw [replace_append_of_quiet, gone, List.append_nil]
  intro c member tail
  exact notClause?_of_ne (fun same => plain (same ▸ member)) tail

theorem dropNotClauses_append (plain : ':' ∉ part) (clauses : List NotClause) :
    dropNotClauses (part ++ clauses.flatMap NotClause.print) = part := by
  have settled : dropNotClauses part = part := by
    have kept := replace_notClauses plain []
    rw [List.flatMap_nil, List.append_nil] at kept
    rw [dropNotClauses, kept, if_neg (lt_irrefl _)]
  rw [dropNotClauses, replace_notClauses plain clauses]
  split
  · exact settled
  · rename_i same
    rw [List.length_append] at same
    rw [List.eq_nil_of_length_eq_zero (by omega : (clauses.flatMap NotClause.print).length = 0),
      List.append_nil]

private theorem trim_of_unblank (unblank : ∀ c ∈ part, isBlank c = false) : trim part = part := by
  have kept {text : List Char} (all : ∀ c ∈ text, isBlank c = false) :
      text.dropWhile isBlank = text := by
    cases text with
    | nil => rfl
    | cons c text => simp [all c List.mem_cons_self]
  have turned : ∀ c ∈ part.reverse, isBlank c = false := by simpa using unblank
  rw [trim, trimStart, kept unblank, trimEnd, kept turned, List.reverse_reverse]

end Clauses

section Names

variable (name : SelectorName) {c : Char}

private theorem isBlank_of_isNameChar (plain : isNameChar c = true) : isBlank c = false := by
  rcases Bool.or_eq_true_iff.mp plain with word | hyphen
  · cases blank : isBlank c with
    | false => rfl
    | true => rw [isWord_of_isBlank blank] at word; exact absurd word Bool.false_ne_true
  · rw [eq_of_beq hyphen]
    decide

theorem SelectorName.not_mem (sign : isNameChar c = false) : c ∉ name.text := by
  intro member
  rw [name.plain c member] at sign
  cases sign

theorem SelectorName.isNameText : isNameText name.text = true := by
  have given := name.nonempty
  have plain := name.plain
  simp [Markup.isNameText, given]
  exact plain

/-- The first attribute between brackets is read up to its bracket. -/
theorem bracketed?_bracket (rest : List Char) :
    bracketed? (name.bracket ++ rest) = some ⟨name.text, name.bracket.length⟩ := by
  have inside : ∀ c ∈ name.text, (c != ']') = true := by
    intro c member
    exact bne_iff_ne.mpr fun same => name.not_mem (c := ']') (by decide) (same ▸ member)
  have taken : (name.text ++ ']' :: rest).takeWhile (· != ']') = name.text :=
    takeWhile_append_stop inside (by simp)
  have left : (name.text ++ ']' :: rest).dropWhile (· != ']') = ']' :: rest :=
    dropWhile_append_stop inside (by simp)
  have shape : name.bracket ++ rest = '[' :: (name.text ++ ']' :: rest) := by
    simp [SelectorName.bracket]
  rw [shape, bracketed?]
  simp only [taken, left]
  cases text : name.text with
  | nil => exact absurd text name.nonempty
  | cons c others => simp [SelectorName.bracket, text]

theorem bracketed?_of_ne (other : c ≠ '[') (tail : List Char) : bracketed? (c :: tail) = none := by
  unfold bracketed?
  split
  · rename_i same
    exact absurd (List.cons.inj same).1 other
  · rfl

private theorem bracketed?_text (rest : List Char) : bracketed? (name.text ++ rest) = none := by
  cases text : name.text with
  | nil => exact absurd text name.nonempty
  | cons c others =>
    refine bracketed?_of_ne (fun same => name.not_mem (c := '[') (by decide) ?_) _
    rw [text, same]
    exact List.mem_cons_self

private theorem findAll_bracket (names : List SelectorName) :
    findAll bracketed? (names.flatMap SelectorName.bracket) = names.map SelectorName.text := by
  induction names with
  | nil => rfl
  | cons name names ih =>
    rw [List.flatMap_cons, findAll_append_of_match (by simp [SelectorName.bracket])
      (bracketed?_bracket name _), ih, List.map_cons]

end Names

namespace SelectorPart

variable (part : SelectorPart)

theorem mem_print {c : Char} (member : c ∈ part.print) : isNameChar c = true ∨ c = '[' ∨ c = ']' := by
  cases part with
  | bare name => exact Or.inl (name.plain c member)
  | bracketed tag first others =>
    rcases List.mem_append.mp member with inTag | inNames
    · cases tag with
      | none => cases inTag
      | some tag => exact Or.inl (tag.plain c inTag)
    · obtain ⟨name, _, inside⟩ := List.mem_flatMap.mp inNames
      simp only [SelectorName.bracket, List.mem_cons, List.mem_append, List.not_mem_nil,
        or_false] at inside
      rcases inside with opening | text | closing
      · exact Or.inr (Or.inl opening)
      · exact Or.inl (name.plain c text)
      · exact Or.inr (Or.inr closing)

theorem stripNotClauses_print (clauses : List NotClause) :
    stripNotClauses (part.print ++ clauses.flatMap NotClause.print) = part.print := by
  have plain : ':' ∉ part.print := by
    intro member
    have refused := part.mem_print member
    revert refused
    decide
  rw [stripNotClauses, dropNotClauses_append plain, trim_of_unblank]
  intro c member
  rcases part.mem_print member with name | rfl | rfl
  · exact isBlank_of_isNameChar name
  · decide
  · decide

variable (tag : Option SelectorName) (first : SelectorName) (others : List SelectorName)

theorem print_bracketed : (bracketed tag first others).print =
    (tag.map SelectorName.text).getD [] ++
      (first.bracket ++ others.flatMap SelectorName.bracket) := rfl

/-- Only a lone attribute without a tag is a simple part. -/
theorem simpleAttribute?_print : simpleAttribute? (bracketed tag first others).print =
    if tag.isNone && others.isEmpty then some first.text else none := by
  have noName : isNameText (bracketed tag first others).print = false := by
    have bracket : '[' ∈ (bracketed tag first others).print := by
      simp [print_bracketed, SelectorName.bracket]
    rw [isNameText, Bool.and_eq_false_iff, List.all_eq_false]
    exact Or.inr ⟨'[', bracket, by decide⟩
  rw [simpleAttribute?, noName, if_neg Bool.false_ne_true, print_bracketed]
  cases tag with
  | some tag => simp [bracketed?_text]
  | none =>
    simp only [Option.map_none, Option.getD_none, List.nil_append, bracketed?_bracket,
      List.length_append, Option.isNone_none, Bool.true_and]
    cases others with
    | nil =>
      have plain : first.text.all isNameChar = true := List.all_eq_true.mpr first.plain
      simp [plain]
    | cons other others => simp [SelectorName.bracket]

/-- Only a lone attribute behind a tag is a part of both. -/
theorem tagAttribute?_print : tagAttribute? (bracketed tag first others).print =
    if others.isEmpty then tag.map fun tag => (tag.text, first.text) else none := by
  have stops : ∀ c ∈ (first.bracket ++ others.flatMap SelectorName.bracket).head?,
      isNameChar c = false := by
    simp [SelectorName.bracket]
    decide
  have plain : ∀ c ∈ (tag.map SelectorName.text).getD [], isNameChar c = true := by
    cases tag with
    | none => exact nofun
    | some tag => exact tag.plain
  rw [tagAttribute?, print_bracketed]
  simp only [takeWhile_append_stop plain stops, dropWhile_append_stop plain stops,
    bracketed?_bracket, List.length_append]
  cases tag with
  | none => cases others <;> simp
  | some tag =>
    have given := tag.nonempty
    cases others with
    | nil => simp [given]
    | cons other others => simp [SelectorName.bracket]

private theorem findAll_print : findAll bracketed? (bracketed tag first others).print =
    (bracketed tag first others).attributes := by
  rw [print_bracketed, ← List.flatMap_cons, findAll_append_of_quiet, findAll_bracket]
  · rfl
  · intro c member tail
    refine bracketed?_of_ne ?_ tail
    rintro rfl
    cases tag with
    | none => cases member
    | some tag => exact tag.not_mem (by decide) member

private theorem occurs_print (other : SelectorName) :
    occurs "][".toList (bracketed tag first (other :: others)).print = true := by
  have shape : (bracketed tag first (other :: others)).print =
      ((tag.map SelectorName.text).getD [] ++ '[' :: first.text) ++ ("][".toList ++
        (other.text ++ ']' :: others.flatMap SelectorName.bracket)) := by
    simp [print_bracketed, SelectorName.bracket]
  rw [shape]
  exact occurs_append _ _ _

private theorem matches_single (clauses : List NotClause) (wanted : List Char)
    (elements present : List (List Char)) :
    matchesSelector ((bracketed tag first []).print ++ clauses.flatMap NotClause.print) wanted
      elements present = true ↔
        wanted = first.text ∧ ∀ name ∈ tag.map SelectorName.text, name ∈ elements := by
  rw [eq_comm (a := wanted)]
  simp only [matchesSelector, stripNotClauses_print, simpleAttribute?_print, tagAttribute?_print]
  cases tag <;> simp

theorem matches_several (other : SelectorName) (clauses : List NotClause) (wanted : List Char)
    (elements present : List (List Char)) :
    matchesSelector ((bracketed tag first (other :: others)).print ++
      clauses.flatMap NotClause.print) wanted elements present = true ↔
        wanted ∈ (bracketed tag first (other :: others)).attributes ∧
          ∀ name ∈ (bracketed tag first (other :: others)).attributes, name ∈ present := by
  simp only [matchesSelector, stripNotClauses_print, simpleAttribute?_print,
    tagAttribute?_print, findAll_print, occurs_print]
  simp

private theorem matches_bare (name : SelectorName) (clauses : List NotClause) (wanted : List Char)
    (elements present : List (List Char)) :
    matchesSelector ((bare name).print ++ clauses.flatMap NotClause.print) wanted elements present =
      true ↔ wanted = name.text := by
  have simple : simpleAttribute? (bare name).print = some name.text := by
    rw [print, simpleAttribute?, name.isNameText, if_pos rfl]
  simp only [matchesSelector, stripNotClauses_print, simple]
  rw [beq_iff_eq, eq_comm]

/-- A part that names one attribute matches it on an element of the part's tag, if there is one; a part
that names several matches each of them where all occur, whatever the elements. -/
theorem matchesSelector_iff (clauses : List NotClause) (wanted : List Char)
    (elements present : List (List Char)) :
    matchesSelector (part.print ++ clauses.flatMap NotClause.print) wanted elements present = true ↔
      wanted ∈ part.attributes ∧
        (part.attributes.length = 1 → ∀ tag ∈ part.tag?, tag ∈ elements) ∧
        (1 < part.attributes.length → ∀ name ∈ part.attributes, name ∈ present) := by
  cases part with
  | bare name =>
    rw [matches_bare]
    simp [attributes, tag?]
  | bracketed tag first others =>
    cases others with
    | nil =>
      rw [matches_single]
      simp [attributes, tag?]
    | cons other others =>
      rw [matches_several]
      simp [attributes]

/-- The part `input[confirm][message]`. -/
def confirmedInput : SelectorPart :=
  .bracketed (some ⟨"input".toList, by decide, by decide⟩) ⟨"confirm".toList, by decide, by decide⟩
    [⟨"message".toList, by decide, by decide⟩]

/-- It matches in a template that has both attributes and no such element. -/
theorem tag_overlooked_input :
    confirmedInput.print = "input[confirm][message]".toList ∧
    matchesSelector confirmedInput.print "confirm".toList ["textarea".toList]
      ["confirm".toList, "message".toList] = true ∧
    ¬ confirmedInput.Fits "confirm".toList ["textarea".toList]
      ["confirm".toList, "message".toList] := by
  refine ⟨by decide, ?_, fun fits => ?_⟩
  · have matched := (matches_several (some ⟨"input".toList, by decide, by decide⟩)
      ⟨"confirm".toList, by decide, by decide⟩ [] ⟨"message".toList, by decide, by decide⟩ []
      "confirm".toList ["textarea".toList] ["confirm".toList, "message".toList]).mpr (by decide)
    rwa [List.flatMap_nil, List.append_nil] at matched
  · exact absurd (fits.tagged "input".toList rfl) (by decide)

end SelectorPart

end Blueprint.Markup
