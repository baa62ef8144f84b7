import Blueprint.Proofs.Markup.SelectorParts

/-!
Clauses that exclude something, anywhere in a selector. A pass over a text removes clauses and may join
their surroundings into another one; each pass that changes the text makes it shorter, so the passes end,
and they end where no clause is left. Blanks at the ends are dropped afterwards. What is left within
holds no clause either, so a second removal finds nothing to do.
-/

namespace Blueprint.Text

section Ends

variable {α : Type} {as bs : List α}

theorem dropWhile_sublist_dropWhile (accepts : α → Bool) (inside : as.Sublist bs) :
    (as.dropWhile accepts).Sublist (bs.dropWhile accepts) := by
  induction inside with
  | slnil => exact List.Sublist.slnil
  | cons b inside ih =>
    rw [List.dropWhile_cons]
    split
    · exact ih
    · exact (List.dropWhile_sublist accepts).trans (inside.cons b)
  | cons_cons a inside ih =>
    rw [List.dropWhile_cons, List.dropWhile_cons]
    split
    · exact ih
    · exact inside.cons_cons a

variable {text part : List Char}

private theorem trim_sublist_trim (inside : part.Sublist text) : (trim part).Sublist (trim text) :=
  (dropWhile_sublist_dropWhile isBlank (dropWhile_sublist_dropWhile isBlank inside).reverse).reverse

private theorem isPrefix_trimEnd (text : List Char) : trimEnd text <+: text := by
  rw [← List.reverse_suffix, trimEnd, List.reverse_reverse]
  exact List.dropWhile_suffix isBlank

private theorem isInfix_trim (text : List Char) : trim text <:+: text :=
  (isPrefix_trimEnd _).isInfix.trans (List.dropWhile_suffix isBlank).isInfix

/-- Blanks that are dropped leave none at the ends. -/
theorem trim_trim (text : List Char) : trim (trim text) = trim text := by
  have kept {text : List Char} (stops : ∀ c ∈ text.head?, isBlank c = false) :
      text.dropWhile isBlank = text := by
    cases text with
    | nil => rfl
    | cons c text => exact List.dropWhile_cons_of_neg (by simp [stops c rfl])
  have front : ∀ c ∈ (trim text).head?, isBlank c = false := by
    obtain ⟨rest, whole⟩ := isPrefix_trimEnd (trimStart text)
    intro c first
    refine (exists_run isBlank text).2.2 c ?_
    show c ∈ (trimStart text).head?
    rw [← whole]
    exact List.mem_head?_append_of_mem_head? first
  have back : ∀ c ∈ (trim text).reverse.head?, isBlank c = false := by
    rw [trim, trimEnd, List.reverse_reverse]
    exact (exists_run isBlank _).2.2
  show ((List.dropWhile isBlank (trim text)).reverse.dropWhile isBlank).reverse = trim text
  rw [kept front, kept back, List.reverse_reverse]

end Ends

section Erasing

variable {rule : List Char → Option (Found (List Char))}

theorem replaceFrom_sublist (erases : ∀ text, ∀ found ∈ rule text, found.value = []) (skip : Nat)
    (text : List Char) : (replaceFrom rule skip text).Sublist text := by
  induction text generalizing skip with
  | nil => exact List.Sublist.slnil
  | cons c text ih =>
    cases skip with
    | succ skip => exact (ih skip).cons c
    | zero =>
      cases found : rule (c :: text) with
      | some found' =>
        simp only [replaceFrom, found, erases _ found' found, List.nil_append]
        exact (ih _).cons c
      | none =>
        simp only [replaceFrom, found]
        exact (ih 0).cons_cons c

/-- Such a rule changes a text exactly if it matches somewhere. -/
theorem replace_eq_self_iff (erases : ∀ text, ∀ found ∈ rule text, found.value = [])
    (idle : rule [] = none) {text : List Char} :
    replace rule text = text ↔ ∀ back, back <:+ text → rule back = none := by
  induction text with
  | nil => simp [replace, replaceFrom, idle]
  | cons c text ih =>
    cases found : rule (c :: text) with
    | some found' =>
      have shorter : (replace rule (c :: text)).length < (c :: text).length := by
        simp only [replace, replaceFrom, found, erases _ found' found, List.nil_append]
        exact Nat.lt_succ_of_le (replaceFrom_sublist erases _ text).length_le
      constructor
      · intro same
        rw [same] at shorter
        exact absurd shorter (lt_irrefl _)
      · intro none
        rw [none _ (List.suffix_refl _)] at found
        cases found
    | none =>
      have kept : replace rule (c :: text) = c :: replace rule text := by
        simp only [replace, replaceFrom, found]
      rw [kept, List.cons.injEq, and_iff_right rfl, ih]
      simp only [List.suffix_cons_iff, forall_eq_or_imp, found, true_and]

end Erasing

end Blueprint.Text

namespace Blueprint.Markup

open Blueprint.Text

variable {text : List Char}

theorem notClause?_erases (text : List Char) : ∀ found ∈ notClause? text, found.value = [] := by
  intro found matched
  obtain ⟨rest, _, matched⟩ := Option.bind_eq_some_iff.mp matched
  split at matched
  · cases matched
    rfl
  · cases matched

/-- A clause that is found stands at the front of the text. -/
theorem exists_of_notClause? {found : Found (List Char)} (matched : notClause? text = some found) :
    ∃ clause : NotClause, clause.print <+: text := by
  obtain ⟨rest, opened, matched⟩ := Option.bind_eq_some_iff.mp matched
  split at matched
  · next c inner tail taken left =>
    have unnested : ')' ∉ c :: inner := by
      intro member
      rw [← taken] at member
      exact absurd (List.mem_takeWhile_imp member) (by decide)
    have whole : rest = c :: inner ++ ')' :: tail := by
      rw [← taken, ← left, List.takeWhile_append_dropWhile]
    refine ⟨⟨c :: inner, List.cons_ne_nil c inner, unnested⟩, tail, ?_⟩
    rw [eq_append_of_after? opened, whole]
    exact (List.append_assoc _ _ _).trans
      (congrArg (":not(".toList ++ ·) (List.append_assoc (c :: inner) [')'] tail))
  · cases matched

theorem replace_notClause_eq_self_iff :
    replace notClause? text = text ↔ ∀ clause : NotClause, ¬ clause.print <:+: text := by
  rw [replace_eq_self_iff notClause?_erases rfl]
  constructor
  · rintro none clause ⟨front, back, rfl⟩
    have missed := none (clause.print ++ back) ⟨front, by rw [List.append_assoc]⟩
    rw [notClause?_print clause back] at missed
    cases missed
  · intro absent back inside
    cases matched : notClause? back with
    | none => rfl
    | some found =>
      obtain ⟨clause, start⟩ := exists_of_notClause? matched
      exact absurd (start.isInfix.trans inside.isInfix) (absent clause)

/-- The passes over a text, up to one that changes nothing, and how many changed it. -/
inductive Settles : Nat → List Char → List Char → Prop
  | done {text : List Char} (same : replace notClause? text = text) : Settles 0 text text
  | pass {n : Nat} {text settled : List Char} (changed : replace notClause? text ≠ text)
      (later : Settles n (replace notClause? text) settled) : Settles (n + 1) text settled

theorem Settles.fixed {n : Nat} {text settled : List Char} (settles : Settles n text settled) :
    replace notClause? settled = settled := by
  induction settles with
  | done same => exact same
  | pass _ _ ih => exact ih

theorem Settles.sublist {n : Nat} {text settled : List Char} (settles : Settles n text settled) :
    settled.Sublist text := by
  induction settles with
  | done => exact List.Sublist.refl _
  | pass _ _ ih => exact ih.trans (replaceFrom_sublist notClause?_erases 0 _)

theorem exists_settles (text : List Char) :
    ∃ n, Settles n text (dropNotClauses text) ∧ n + (dropNotClauses text).length ≤ text.length := by
  fun_induction dropNotClauses text with
  | case1 text _ shorter ih =>
    obtain ⟨n, settles, bound⟩ := ih
    have changed : replace notClause? text ≠ text := fun same =>
      absurd (congrArg List.length same) (Nat.ne_of_lt shorter)
    exact ⟨n + 1, settles.pass changed, by omega⟩
  | case2 text _ kept =>
    have same : replace notClause? text = text :=
      (replaceFrom_sublist notClause?_erases 0 text).eq_of_length_le (not_lt.mp kept)
    exact ⟨0, Settles.done same, by omega⟩

private theorem dropNotClauses_of_settled (settled : replace notClause? text = text) :
    dropNotClauses text = text := by
  rw [dropNotClauses, settled, if_neg (lt_irrefl _)]

/-- Removing clauses from a selector ends, after no more passes than there are characters to take away.
What is left has no clause and no blanks at its ends, comes from the selector without the blanks at its
ends by leaving characters out, and stays as it is if clauses are removed again. -/
theorem stripNotClauses_settles (selector : List Char) :
    (∃ n settled, Settles n selector settled ∧ n + settled.length ≤ selector.length ∧
      stripNotClauses selector = trim settled) ∧
    (∀ clause : NotClause, ¬ clause.print <:+: stripNotClauses selector) ∧
    (stripNotClauses selector).Sublist (trim selector) ∧
    trim (stripNotClauses selector) = stripNotClauses selector ∧
    stripNotClauses (stripNotClauses selector) = stripNotClauses selector := by
  obtain ⟨n, settles, bound⟩ := exists_settles selector
  have none := replace_notClause_eq_self_iff.mp settles.fixed
  have absent : ∀ clause : NotClause, ¬ clause.print <:+: stripNotClauses selector :=
    fun clause inside => none clause (inside.trans (isInfix_trim _))
  have trimmed : trim (stripNotClauses selector) = stripNotClauses selector := trim_trim _
  refine ⟨⟨n, _, settles, bound, rfl⟩, absent, trim_sublist_trim settles.sublist, trimmed, ?_⟩
  have kept := dropNotClauses_of_settled (replace_notClause_eq_self_iff.mpr absent)
  rw [stripNotClauses, kept, trimmed]

end Blueprint.Markup
