import Mathlib.Data.List.Infix
import Blueprint.Design.Token
import Blueprint.Proofs.Text

namespace Blueprint.Design

open Blueprint.Text

section Skipping

variable {inComment : Bool} {offset : Nat} {text front more : List Char}

/-- The text from its first token on. -/
def ahead (text : List Char) : List Char := (skipFrom false 0 text).rest

/-- A character that stands between tokens. -/
def isGap (c : Char) : Bool := c == ' ' || c == '\t' || c == '\n' || c == '\r'

/-- The last character of a text, if there is one, stands between tokens. -/
def EndsInGap (text : List Char) : Prop := ∀ c, text.getLast? = some c → isGap c = true

theorem EndsInGap.of_cons {c : Char} (ends : EndsInGap (c :: text)) : EndsInGap text := by
  intro last found
  refine ends last ?_
  rw [List.getLast?_cons, found]
  rfl

theorem EndsInGap.suffix (ends : EndsInGap text) (within : front <:+ text) : EndsInGap front := by
  obtain ⟨before, rfl⟩ := within
  induction before with
  | nil => exact ends
  | cons c before ih => exact ih ends.of_cons

theorem skipFrom_cons (inComment : Bool) (offset : Nat) (c : Char) (text : List Char) :
    skipFrom inComment offset (c :: text) =
      if inComment then skipFrom (c != '\n') (offset + 1) text
      else if isGap c then skipFrom false (offset + 1) text
      else if c == '/' && text.head? == some '/' then skipFrom true (offset + 1) text
      else ⟨c :: text, offset⟩ := rfl

theorem rest_skipFrom (inComment : Bool) (offset other : Nat) (text : List Char) :
    (skipFrom inComment offset text).rest = (skipFrom inComment other text).rest := by
  induction text generalizing inComment offset other with
  | nil => rfl
  | cons c text ih =>
    rw [skipFrom_cons, skipFrom_cons]
    split
    · exact ih _ _ _
    · split
      · exact ih _ _ _
      · split
        · exact ih _ _ _
        · rfl

theorem offset_skipFrom (inComment : Bool) (offset : Nat) (text : List Char) :
    (skipFrom inComment offset text).offset + (skipFrom inComment offset text).rest.length =
      offset + text.length := by
  induction text generalizing inComment offset with
  | nil => rfl
  | cons c text ih =>
    rw [skipFrom_cons, List.length_cons]
    have step := fun inComment => ih inComment (offset + 1)
    split
    · rw [step]
      omega
    · split
      · rw [step]
        omega
      · split
        · rw [step]
          omega
        · rfl

theorem suffix_skipFrom (inComment : Bool) (offset : Nat) (text : List Char) :
    (skipFrom inComment offset text).rest <:+ text := by
  induction text generalizing inComment offset with
  | nil => exact List.suffix_rfl
  | cons c text ih =>
    rw [skipFrom_cons]
    split
    · exact (ih _ _).trans (List.suffix_cons _ _)
    · split
      · exact (ih _ _).trans (List.suffix_cons _ _)
      · split
        · exact (ih _ _).trans (List.suffix_cons _ _)
        · exact List.suffix_rfl

theorem ahead_suffix (text : List Char) : ahead text <:+ text := suffix_skipFrom _ _ _

theorem Cursor.rest_skip (cursor : Cursor) : cursor.skip.rest = ahead cursor.rest :=
  rest_skipFrom _ _ _ _

theorem Cursor.offset_skip (cursor : Cursor) :
    cursor.skip.offset + (ahead cursor.rest).length = cursor.offset + cursor.rest.length := by
  rw [← Cursor.rest_skip]
  exact offset_skipFrom _ _ _

/-- A token that starts in a text is found there whatever follows. -/
theorem skipFrom_append (ends : EndsInGap front)
    (found : (skipFrom inComment offset front).rest ≠ []) (more : List Char) :
    skipFrom inComment offset (front ++ more) =
      ⟨(skipFrom inComment offset front).rest ++ more, (skipFrom inComment offset front).offset⟩ := by
  induction front generalizing inComment offset with
  | nil => exact absurd rfl found
  | cons c front ih =>
    rw [List.cons_append]
    rw [skipFrom_cons] at found ⊢
    rw [skipFrom_cons]
    split
    · rename_i comment
      rw [if_pos comment] at found
      exact ih ends.of_cons found
    · rename_i comment
      rw [if_neg comment] at found
      split
      · rename_i gap
        rw [if_pos gap] at found
        exact ih ends.of_cons found
      · rename_i gap
        rw [if_neg gap] at found
        cases front with
        | nil =>
          -- The text would end in the token, which is no gap.
          exact absurd (ends c rfl) gap
        | cons d front =>
          rw [List.cons_append, List.head?_cons, List.head?_cons] at *
          split
          · rename_i opens
            rw [if_pos opens] at found
            exact ih ends.of_cons found
          · rfl

theorem ahead_append (ends : EndsInGap front) (found : ahead front ≠ []) (more : List Char) :
    ahead (front ++ more) = ahead front ++ more := by
  rw [ahead, skipFrom_append ends found]
  rfl

end Skipping

section Layout

variable {inComment : Bool} {layout : List Char}

/-- Blanks and whole comments: a token behind them is found. -/
def IsLayout (layout : List Char) : Prop := ahead (layout ++ ['.']) = ['.']

instance (layout : List Char) : Decidable (IsLayout layout) := by
  unfold IsLayout
  infer_instance

/-- Layout is skipped. -/
theorem skipFrom_layout {offset : Nat}
    (skipped : (skipFrom inComment offset (layout ++ ['.'])).rest = ['.']) (more : List Char) :
    skipFrom inComment offset (layout ++ more) = skipFrom false (offset + layout.length) more := by
  induction layout generalizing inComment offset with
  | nil =>
    cases inComment with
    | false => rfl
    | true => exact absurd skipped (by simp [skipFrom])
  | cons c layout ih =>
    have step : offset + (c :: layout).length = offset + 1 + layout.length := by
      rw [List.length_cons]
      omega
    rw [List.cons_append] at skipped ⊢
    rw [skipFrom_cons] at skipped ⊢
    rw [step]
    split
    · rename_i comment
      rw [if_pos comment] at skipped
      exact ih skipped
    · rename_i comment
      rw [if_neg comment] at skipped
      split
      · rename_i gap
        rw [if_pos gap] at skipped
        exact ih skipped
      · rename_i gap
        rw [if_neg gap] at skipped
        cases layout with
        | nil => exact absurd skipped (by simp)
        | cons d layout =>
          rw [List.cons_append, List.head?_cons] at skipped ⊢
          split
          · rename_i opens
            rw [if_pos opens] at skipped
            exact ih skipped
          · rename_i opens
            rw [if_neg opens] at skipped
            exact absurd skipped (by simp)

theorem IsLayout.skip_append (skipped : IsLayout layout) (offset : Nat) (more : List Char) :
    Cursor.skip ⟨layout ++ more, offset⟩ = Cursor.skip ⟨more, offset + layout.length⟩ :=
  skipFrom_layout ((rest_skipFrom _ _ _ _).trans skipped) more

theorem IsLayout.ahead_append (skipped : IsLayout layout) (more : List Char) :
    ahead (layout ++ more) = ahead more := by
  rw [ahead, skipFrom_layout skipped]
  exact rest_skipFrom _ _ _ _

end Layout
/-- A text that ends between tokens and is not empty. -/
structure Delimited (text : List Char) : Prop where
  nonempty : text ≠ []
  ends : EndsInGap text

section Delimited

variable {lead text rest more : List Char} {accepts : Char → Bool}

theorem Delimited.exists_gap (delimited : Delimited text) : ∃ c ∈ text, isGap c = true :=
  ⟨text.getLast delimited.nonempty, List.getLast_mem _,
    delimited.ends _ (List.getLast?_eq_some_getLast _)⟩

theorem Delimited.suffix (delimited : Delimited text) (within : rest <:+ text) (nonempty : rest ≠ []) :
    Delimited rest :=
  ⟨nonempty, delimited.ends.suffix within⟩

/-- What no gap stands in does not reach the end. -/
theorem Delimited.of_append (delimited : Delimited (lead ++ rest))
    (solid : ∀ c ∈ lead, isGap c = false) : Delimited rest := by
  refine delimited.suffix (List.suffix_append _ _) ?_
  rintro rfl
  obtain ⟨last, found⟩ := Option.isSome_iff_exists.mp
    (List.getLast?_isSome.mpr delimited.nonempty)
  have gap := delimited.ends last found
  rw [List.append_nil] at found
  rw [solid last (List.mem_of_getLast? found)] at gap
  cases gap

theorem Delimited.tail {c : Char} (delimited : Delimited (c :: text)) (solid : isGap c = false) :
    Delimited text :=
  (show Delimited ([c] ++ text) from delimited).of_append (by simpa using solid)

theorem Delimited.takeWhile_append (delimited : Delimited text)
    (refuses : ∀ c, isGap c = true → accepts c = false) (more : List Char) :
    (text ++ more).takeWhile accepts = text.takeWhile accepts := by
  obtain ⟨c, member, gap⟩ := delimited.exists_gap
  exact (takeWhile_append_of_refused ⟨c, member, refuses c gap⟩ more).1

theorem Delimited.dropWhile (delimited : Delimited text)
    (refuses : ∀ c, isGap c = true → accepts c = false) : Delimited (text.dropWhile accepts) := by
  refine delimited.suffix (List.dropWhile_suffix _) fun none => ?_
  obtain ⟨c, member, gap⟩ := delimited.exists_gap
  have taken := List.dropWhile_eq_nil_iff.mp none c member
  rw [refuses c gap] at taken
  cases taken

theorem Delimited.dropWhile_append (delimited : Delimited text)
    (refuses : ∀ c, isGap c = true → accepts c = false) (more : List Char) :
    (text ++ more).dropWhile accepts = text.dropWhile accepts ++ more := by
  rw [List.dropWhile_append, if_neg]
  rw [List.isEmpty_iff]
  exact (delimited.dropWhile refuses).nonempty

theorem Delimited.after?_append (delimited : Delimited text)
    (solid : ∀ c ∈ lead, isGap c = false) (more : List Char) :
    after? lead (text ++ more) = (after? lead text).map (· ++ more) := by
  induction lead generalizing text with
  | nil => rfl
  | cons c lead ih =>
    obtain ⟨here, later⟩ := List.forall_mem_cons.mp solid
    cases text with
    | nil => exact absurd rfl delimited.nonempty
    | cons d text =>
      rw [List.cons_append]
      simp only [after?]
      split
      · rename_i same
        subst same
        exact ih (delimited.tail here) later
      · rfl

theorem Delimited.after? (delimited : Delimited text) (solid : ∀ c ∈ lead, isGap c = false)
    (found : after? lead text = some rest) : Delimited rest := by
  rw [eq_append_of_after? found] at delimited
  exact delimited.of_append solid

theorem isGap_cases {c : Char} (gap : isGap c = true) :
    c = ' ' ∨ c = '\t' ∨ c = '\n' ∨ c = '\r' := by
  simpa [isGap, or_assoc] using gap

theorem isWord_gap (c : Char) (gap : isGap c = true) : isWord c = false := by
  rcases isGap_cases gap with rfl | rfl | rfl | rfl <;> decide

theorem isDecimal_gap (c : Char) (gap : isGap c = true) : isDecimal c = false := by
  rcases isGap_cases gap with rfl | rfl | rfl | rfl <;> decide

theorem isDigit_gap (c : Char) (gap : isGap c = true) : c.isDigit = false := by
  rcases isGap_cases gap with rfl | rfl | rfl | rfl <;> decide

private theorem isGap_of_accepts {c : Char} (refuses : ∀ c, isGap c = true → accepts c = false)
    (accepted : accepts c = true) : isGap c = false := by
  rw [Bool.eq_false_iff]
  intro gap
  rw [refuses c gap] at accepted
  cases accepted

end Delimited

namespace Lexeme

variable {α β : Type} {starts : Char → Prop} {lexeme : Lexeme α} {text front more : List Char}

/-- A token starts with a character of a set, and it is a part of the text. -/
def Heads (starts : Char → Prop) (lexeme : Lexeme α) : Prop :=
  ∀ text found, lexeme text = some found →
    (∃ c rest, text = c :: rest ∧ starts c) ∧ 0 < found.size ∧ found.size ≤ text.length

/-- What follows the line decides nothing. -/
def IsLocal (lexeme : Lexeme α) : Prop :=
  ∀ text more, Delimited text → lexeme (text ++ more) = lexeme text

/-- What is found in a fitting text is found with more behind it. -/
def IsClosed (more : List Char) (fits : List Char → Prop) (lexeme : Lexeme α) : Prop :=
  ∀ text found, Delimited text → fits text → lexeme text = some found →
    lexeme (text ++ more) = some found

theorem Heads.map (heads : Heads starts lexeme) (change : α → β) :
    Heads starts (lexeme.map change) := by
  intro text found known
  obtain ⟨inner, within, rfl⟩ := Option.map_eq_some_iff.mp known
  exact heads text inner within

theorem IsLocal.map (isLocal : IsLocal lexeme) (change : α → β) : IsLocal (lexeme.map change) := by
  intro text more delimited
  rw [Lexeme.map, isLocal text more delimited, Lexeme.map]

theorem IsClosed.map {fits : List Char → Prop} (isClosed : IsClosed more fits lexeme)
    (change : α → β) : IsClosed more fits (lexeme.map change) := by
  intro text found delimited fitting known
  obtain ⟨inner, within, rfl⟩ := Option.map_eq_some_iff.mp known
  rw [Lexeme.map, isClosed text inner delimited fitting within]
  rfl

section Signs

variable {sign : String}

/-- A text of the language: it has no gaps and it is not empty. -/
structure IsSolid (first : Char) (sign : String) : Prop where
  starts : sign.toList.head? = some first
  solid : ∀ c ∈ sign.toList, isGap c = false

instance (first : Char) (sign : String) : Decidable (IsSolid first sign) :=
  decidable_of_iff (sign.toList.head? = some first ∧ ∀ c ∈ sign.toList, isGap c = false)
    ⟨fun both => ⟨both.1, both.2⟩, fun solid => ⟨solid.starts, solid.solid⟩⟩

theorem IsSolid.heads {first : Char} (solid : IsSolid first sign) {rest : List Char}
    (found : after? sign.toList text = some rest) :
    (∃ c rest, text = c :: rest ∧ c = first) ∧ 0 < sign.length ∧ sign.length ≤ text.length := by
  obtain ⟨c, others, shape⟩ : ∃ c others, sign.toList = c :: others := by
    cases shape : sign.toList with
    | nil => exact absurd (shape ▸ solid.starts) (by simp)
    | cons c others => exact ⟨c, others, rfl⟩
  have same : c = first := by
    have starts := solid.starts
    rw [shape] at starts
    exact Option.some.inj starts
  obtain rfl := eq_append_of_after? found
  rw [← String.length_toList, shape]
  refine ⟨⟨c, others ++ rest, rfl, same⟩, by simp, by simp⟩

theorem heads_sign {first : Char} (solid : IsSolid first sign) :
    Heads (· = first) (Lexeme.sign sign) := by
  intro text found known
  obtain ⟨rest, behind, rfl⟩ := Option.map_eq_some_iff.mp known
  exact solid.heads behind

theorem isLocal_sign {first : Char} (solid : IsSolid first sign) : IsLocal (Lexeme.sign sign) := by
  intro text more delimited
  rw [Lexeme.sign, delimited.after?_append solid.solid, Lexeme.sign, Option.map_map]
  rfl

theorem heads_word {first : Char} (solid : IsSolid first sign) :
    Heads (· = first) (Lexeme.word sign) := by
  intro text found known
  obtain ⟨rest, behind, ends⟩ := Option.bind_eq_some_iff.mp known
  split at ends
  · obtain rfl := Option.some.inj ends
    exact solid.heads behind
  · cases ends

private theorem wordEnds_append (delimited : Delimited text) (more : List Char) :
    wordEnds (text ++ more) = wordEnds text := by
  cases text with
  | nil => exact absurd rfl delimited.nonempty
  | cons c text => rfl

theorem isLocal_word {first : Char} (solid : IsSolid first sign) : IsLocal (Lexeme.word sign) := by
  intro text more delimited
  rw [Lexeme.word, delimited.after?_append solid.solid, Lexeme.word]
  cases found : after? sign.toList text with
  | none => rfl
  | some rest =>
    simp only [Option.map_some, Option.bind_some,
      wordEnds_append (delimited.after? solid.solid found)]

end Signs

section Words

/-- A character that may start a name. -/
def StartsName (c : Char) : Prop := isWord c = true ∧ isDecimal c = false

instance (c : Char) : Decidable (StartsName c) :=
  inferInstanceAs (Decidable (isWord c = true ∧ isDecimal c = false))

theorem heads_name : Heads StartsName Lexeme.name := by
  intro text found known
  cases text with
  | nil => cases known
  | cons c text =>
    simp only [Lexeme.name] at known
    split at known
    · rename_i begins
      rw [Bool.and_eq_true, Bool.not_eq_true'] at begins
      obtain rfl := Option.some.inj known
      have short := (List.takeWhile_prefix isWord (l := text)).length_le
      exact ⟨⟨c, text, rfl, begins⟩, Nat.succ_pos _, Nat.succ_le_succ short⟩
    · cases known

theorem isLocal_name : IsLocal Lexeme.name := by
  intro text more delimited
  cases text with
  | nil => exact absurd rfl delimited.nonempty
  | cons c text =>
    simp only [Lexeme.name, List.cons_append]
    split
    · rename_i begins
      rw [Bool.and_eq_true] at begins
      have rest : Delimited text := delimited.tail (isGap_of_accepts isWord_gap begins.1)
      rw [rest.takeWhile_append isWord_gap]
    · rfl

private theorem solid_booleans : ∀ entry ∈ [("True", true), ("true", true), ("False", false),
    ("false", false), ("0", false), ("1", true)],
    ∃ first, IsSolid first entry.1 ∧ isWord first = true := by
  simp only [List.forall_mem_cons, List.not_mem_nil, false_implies, implies_true, and_true]
  exact ⟨⟨'T', by decide⟩, ⟨'t', by decide⟩, ⟨'F', by decide⟩, ⟨'f', by decide⟩, ⟨'0', by decide⟩,
    ⟨'1', by decide⟩⟩

theorem heads_boolean : Heads (fun c => isWord c = true) Lexeme.boolean := by
  intro text found known
  obtain ⟨entry, listed, known⟩ := List.exists_of_findSome?_eq_some known
  obtain ⟨first, solid, letter⟩ := solid_booleans entry listed
  obtain ⟨⟨c, rest, shape, same⟩, size⟩ := ((heads_word solid).map fun _ => entry.2) text found known
  exact ⟨⟨c, rest, shape, same ▸ letter⟩, size⟩

theorem isLocal_boolean : IsLocal Lexeme.boolean := by
  intro text more delimited
  have each : ∀ entry ∈ [("True", true), ("true", true), ("False", false), ("false", false),
      ("0", false), ("1", true)],
      Lexeme.map (fun _ => entry.2) (Lexeme.word entry.1) (text ++ more) =
        Lexeme.map (fun _ => entry.2) (Lexeme.word entry.1) text := by
    intro entry listed
    obtain ⟨first, solid, _⟩ := solid_booleans entry listed
    exact ((isLocal_word solid).map _) text more delimited
  simp only [List.forall_mem_cons, List.not_mem_nil, false_implies, implies_true, and_true] at each
  obtain ⟨one, two, three, four, five, six⟩ := each
  simp only [Lexeme.boolean, List.findSome?_cons, List.findSome?_nil, one, two, three, four, five, six]

end Words

end Lexeme

end Blueprint.Design
