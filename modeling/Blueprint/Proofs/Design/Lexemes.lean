import Blueprint.Proofs.Design.Layout

namespace Blueprint.Design.Lexeme

open Blueprint.Text

variable {text more : List Char}

section Numbers

/-- A character that may start a number. -/
def StartsNumber (c : Char) : Prop := c = '-' ∨ c = '+' ∨ c = '.' ∨ isDecimal c = true

instance (c : Char) : Decidable (StartsNumber c) :=
  inferInstanceAs (Decidable (c = '-' ∨ c = '+' ∨ c = '.' ∨ isDecimal c = true))

/-- A sign before a number is one of two characters. -/
theorem signed_cases (text : List Char) :
    (∃ c rest negative, text = c :: rest ∧ (c = '-' ∨ c = '+') ∧
      ∀ more, signed (text ++ more) = ([c], negative, rest ++ more)) ∨
    (text ≠ [] → ∀ more, signed (text ++ more) = ([], false, text ++ more)) := by
  cases text with
  | nil => exact Or.inr fun nonempty => absurd rfl nonempty
  | cons c text =>
    by_cases minus : c = '-'
    · subst minus
      exact Or.inl ⟨_, text, true, rfl, Or.inl rfl, fun _ => rfl⟩
    · by_cases plus : c = '+'
      · subst plus
        exact Or.inl ⟨_, text, false, rfl, Or.inr rfl, fun _ => rfl⟩
      · refine Or.inr fun _ more => ?_
        unfold signed
        split
        · rename_i shape
          exact absurd (List.cons.inj shape).1 minus
        · rename_i shape
          exact absurd (List.cons.inj shape).1 plus
        · rfl

theorem signed_append (delimited : Delimited text) (more : List Char) :
    signed (text ++ more) = ((signed text).1, (signed text).2.1, (signed text).2.2 ++ more) ∧
      Delimited (signed text).2.2 := by
  rcases signed_cases text with ⟨c, rest, negative, rfl, sign, same⟩ | same
  · have alone := same []
    rw [List.append_nil, List.append_nil] at alone
    rw [same, alone]
    refine ⟨rfl, delimited.tail ?_⟩
    rcases sign with rfl | rfl <;> decide
  · have alone := same delimited.nonempty []
    rw [List.append_nil] at alone
    rw [same delimited.nonempty, alone]
    exact ⟨rfl, delimited⟩

theorem length_signed (text : List Char) :
    (signed text).1.length + (signed text).2.2.length = text.length := by
  unfold signed
  split
  · simp [Nat.add_comm]
  · simp [Nat.add_comm]
  · simp

theorem starts_signed {c : Char} {rest : List Char} (behind : (signed text).2.2 = c :: rest)
    (begins : StartsNumber c) : ∃ c rest, text = c :: rest ∧ StartsNumber c := by
  unfold signed at behind
  split at behind
  · exact ⟨'-', _, rfl, .inl rfl⟩
  · exact ⟨'+', _, rfl, .inr (.inl rfl)⟩
  · exact ⟨c, rest, behind, begins⟩

theorem exists_of_takeWhile_ne_nil {accepts : Char → Bool} (nonempty : text.takeWhile accepts ≠ []) :
    ∃ c rest, text = c :: rest ∧ accepts c = true := by
  cases text with
  | nil => exact absurd rfl nonempty
  | cons c text =>
    refine ⟨c, text, rfl, ?_⟩
    by_contra refused
    rw [List.takeWhile_cons_of_neg refused] at nonempty
    exact nonempty rfl

theorem heads_integer : Heads StartsNumber Lexeme.integer := by
  intro text found known
  have length := length_signed text
  have whole := (List.takeWhile_prefix Char.isDigit (l := (signed text).2.2)).length_le
  simp only [Lexeme.integer] at known
  split at known
  · cases known
  · rename_i digits some
    obtain ⟨c, rest, behind, digit⟩ := exists_of_takeWhile_ne_nil some
    obtain rfl := Option.some.inj known
    have digits : 0 < ((signed text).2.2.takeWhile Char.isDigit).length :=
      List.length_pos_iff.mpr some
    refine ⟨starts_signed behind (.inr (.inr (.inr (isDecimal_of_isDigit digit)))), ?_, ?_⟩
    · exact Nat.add_pos_right _ digits
    · change (signed text).1.length + ((signed text).2.2.takeWhile Char.isDigit).length ≤ _
      omega

theorem isLocal_integer : IsLocal Lexeme.integer := by
  intro text more delimited
  obtain ⟨same, rest⟩ := signed_append delimited more
  simp only [Lexeme.integer, same, rest.takeWhile_append isDigit_gap]

private theorem isGap_mark {c : Char} (mark : (c == 'e' || c == 'E') = true) : isGap c = false := by
  rw [Bool.or_eq_true, beq_iff_eq, beq_iff_eq] at mark
  rcases mark with rfl | rfl <;> decide

private theorem exponent?_append (delimited : Delimited text) (more : List Char) :
    exponent? (text ++ more) = exponent? text := by
  cases text with
  | nil => exact absurd rfl delimited.nonempty
  | cons c text =>
    rw [List.cons_append]
    simp only [exponent?]
    split
    · rename_i mark
      obtain ⟨same, rest⟩ := signed_append (delimited.tail (isGap_mark mark)) more
      simp only [same, rest.takeWhile_append isDecimal_gap]
    · rfl

theorem exponent?_cases {found : Found Int} (known : exponent? text = some found) :
    ∃ c rest, text = c :: rest ∧ (c == 'e' || c == 'E') = true ∧
      found.size = 1 + (signed rest).1.length + ((signed rest).2.2.takeWhile isDecimal).length := by
  cases text with
  | nil => cases known
  | cons c text =>
    simp only [exponent?] at known
    split at known
    · rename_i mark
      split at known
      · cases known
      · obtain rfl := Option.some.inj known
        exact ⟨c, text, rfl, mark, rfl⟩
    · cases known

private theorem length_exponent? {found : Found Int} (known : exponent? text = some found) :
    found.size ≤ text.length := by
  obtain ⟨c, rest, rfl, _, size⟩ := exponent?_cases known
  have length := length_signed rest
  have whole := (List.takeWhile_prefix isDecimal (l := (signed rest).2.2)).length_le
  rw [List.length_cons]
  omega

theorem length_exponent?_lt (delimited : Delimited text) {found : Found Int}
    (known : exponent? text = some found) : found.size < text.length := by
  obtain ⟨c, rest, rfl, mark, size⟩ := exponent?_cases known
  have behind := (signed_append (delimited.tail (isGap_mark mark)) []).2
  obtain ⟨d, member, gap⟩ := behind.exists_gap
  have short := (takeWhile_append_of_refused ⟨d, member, isDecimal_gap d gap⟩ []).2
  have length := length_signed rest
  rw [List.length_cons]
  omega

/-- The fraction of a decimal: how many points, the digits behind them, and what follows. -/
def fractionOf (rest : List Char) : Nat × List Char × List Char :=
  match rest with
  | '.' :: more => (1, more.takeWhile isDecimal, more.dropWhile isDecimal)
  | _ => (0, [], rest)

/-- The size of the exponent in front of a text. -/
def exponentSize (text : List Char) : Nat := ((exponent? text).map (·.size)).getD 0

/-- A decimal from its parts and what follows its fraction. -/
def decimalOf (sign : List Char) (negative : Bool) (whole : List Char) (point : Nat)
    (fraction rest : List Char) : Option (Found Double) :=
  let power := ((exponent? rest).map (·.value)).getD 0
  let isNumber := if point == 1 then !whole.isEmpty || !fraction.isEmpty
    else !whole.isEmpty && (exponent? rest).isSome
  let ends := match rest.drop (exponentSize rest) with
    | c :: _ => !isWord c && c != '.'
    | [] => true
  if isNumber && ends then
    some ⟨Double.ofDecimal negative (digitsValue (whole ++ fraction)) (power - fraction.length),
      sign.length + whole.length + point + fraction.length + exponentSize rest⟩
  else none

theorem decimal_eq (text : List Char) : Lexeme.decimal text =
    decimalOf (signed text).1 (signed text).2.1 ((signed text).2.2.takeWhile isDecimal)
      (fractionOf ((signed text).2.2.dropWhile isDecimal)).1
      (fractionOf ((signed text).2.2.dropWhile isDecimal)).2.1
      (fractionOf ((signed text).2.2.dropWhile isDecimal)).2.2 := rfl

private theorem fractionOf_cons {c : Char} (other : c ≠ '.') (rest : List Char) :
    fractionOf (c :: rest) = (0, [], c :: rest) := by
  unfold fractionOf
  split
  · rename_i shape
    exact absurd (List.cons.inj shape).1 other
  · rfl

theorem fractionOf_append (delimited : Delimited text) (more : List Char) :
    fractionOf (text ++ more) =
        ((fractionOf text).1, (fractionOf text).2.1, (fractionOf text).2.2 ++ more) ∧
      Delimited (fractionOf text).2.2 := by
  cases text with
  | nil => exact absurd rfl delimited.nonempty
  | cons c text =>
    by_cases point : c = '.'
    · subst point
      have rest : Delimited text := delimited.tail (by decide)
      simp only [List.cons_append, fractionOf, rest.takeWhile_append isDecimal_gap,
        rest.dropWhile_append isDecimal_gap, true_and]
      exact rest.dropWhile isDecimal_gap
    · rw [List.cons_append, fractionOf_cons point, fractionOf_cons point]
      exact ⟨rfl, delimited⟩

theorem length_fractionOf (text : List Char) : (fractionOf text).1 + (fractionOf text).2.1.length +
    (fractionOf text).2.2.length = text.length := by
  unfold fractionOf
  split
  · rename_i more
    have parts := congrArg List.length (List.takeWhile_append_dropWhile (p := isDecimal) (l := more))
    rw [List.length_append] at parts
    rw [List.length_cons]
    dsimp only
    omega
  · simp

theorem decimalOf_append {sign whole fraction rest : List Char} {negative : Bool} {point : Nat}
    (delimited : Delimited rest) (more : List Char) :
    decimalOf sign negative whole point fraction (rest ++ more) =
      decimalOf sign negative whole point fraction rest := by
  have size : exponentSize (rest ++ more) = exponentSize rest := by
    rw [exponentSize, exponent?_append delimited, exponentSize]
  have short : exponentSize rest < rest.length := by
    unfold exponentSize
    cases known : exponent? rest with
    | none => exact List.length_pos_iff.mpr delimited.nonempty
    | some found => exact length_exponent?_lt delimited known
  obtain ⟨c, others, shape⟩ : ∃ c others, rest.drop (exponentSize rest) = c :: others :=
    List.exists_cons_of_ne_nil fun none => by
      rw [List.drop_eq_nil_iff] at none
      omega
  simp only [decimalOf, size, exponent?_append delimited,
    List.drop_append_of_le_length short.le, shape, List.cons_append]

theorem isLocal_decimal : IsLocal Lexeme.decimal := by
  intro text more delimited
  obtain ⟨same, rest⟩ := signed_append delimited more
  obtain ⟨parts, behind⟩ := fractionOf_append (rest.dropWhile isDecimal_gap) more
  rw [decimal_eq, decimal_eq, same]
  simp only [rest.takeWhile_append isDecimal_gap, rest.dropWhile_append isDecimal_gap, parts]
  exact decimalOf_append behind more

private theorem exponentSize_le (text : List Char) : exponentSize text ≤ text.length := by
  unfold exponentSize
  cases known : exponent? text with
  | none => exact Nat.zero_le _
  | some found => exact length_exponent? known

theorem decimalOf_cases {sign whole fraction rest : List Char} {negative : Bool} {point : Nat}
    {found : Found Double}
    (known : decimalOf sign negative whole point fraction rest = some found) :
    found.size = sign.length + whole.length + point + fraction.length + exponentSize rest ∧
      (whole ≠ [] ∨ whole = [] ∧ point = 1) := by
  simp only [decimalOf, Option.ite_none_right_eq_some, Option.some.injEq] at known
  obtain ⟨accepted, rfl⟩ := known
  refine ⟨rfl, ?_⟩
  by_cases none : whole = []
  · refine .inr ⟨none, ?_⟩
    by_contra apart
    simp [none, apart] at accepted
  · exact .inl none

theorem starts_fractionOf (point : (fractionOf text).1 = 1) : ∃ rest, text = '.' :: rest := by
  unfold fractionOf at point
  split at point
  · exact ⟨_, rfl⟩
  · cases point

theorem heads_decimal : Heads StartsNumber Lexeme.decimal := by
  intro text found known
  rw [decimal_eq] at known
  obtain ⟨size, begins⟩ := decimalOf_cases known
  have length := length_signed text
  have parts := congrArg List.length
    (List.takeWhile_append_dropWhile (p := isDecimal) (l := (signed text).2.2))
  have fraction := length_fractionOf ((signed text).2.2.dropWhile isDecimal)
  have exponent := exponentSize_le (fractionOf ((signed text).2.2.dropWhile isDecimal)).2.2
  rw [List.length_append] at parts
  refine ⟨?_, ?_, by omega⟩
  · rcases begins with digits | ⟨none, point⟩
    · obtain ⟨c, rest, behind, digit⟩ := exists_of_takeWhile_ne_nil digits
      exact starts_signed behind (.inr (.inr (.inr digit)))
    · obtain ⟨rest, behind⟩ := starts_fractionOf point
      have whole := List.takeWhile_append_dropWhile (p := isDecimal) (l := (signed text).2.2)
      rw [none, behind] at whole
      exact starts_signed whole.symm (.inr (.inr (.inl rfl)))
  · rcases begins with digits | ⟨_, point⟩
    · have some := List.length_pos_iff.mpr digits
      omega
    · omega

end Numbers

section Quotes

theorem closingQuote?_append {quote previous : Char} {place found : Nat}
    (plain : '\\' ∉ text) (unescaped : previous ≠ '\\')
    (known : closingQuote? quote place previous none text = some found) (more : List Char) :
    closingQuote? quote place previous none (text ++ more) = some found ∧
      place ≤ found ∧ found < place + text.length := by
  induction text generalizing place previous with
  | nil => cases known
  | cons c text ih =>
    rw [List.mem_cons, not_or] at plain
    rw [List.cons_append]
    simp only [closingQuote?, beq_eq_false_iff_ne.mpr unescaped] at known ⊢
    rw [List.length_cons]
    split
    · rename_i same
      rw [if_pos same] at known
      obtain rfl := Option.some.inj known
      exact ⟨rfl, le_rfl, by omega⟩
    · rename_i other
      rw [if_neg other] at known
      obtain ⟨same, low, high⟩ := ih plain.2 (Ne.symm plain.1) known
      exact ⟨same, by omega, by omega⟩

/-- A quote starts a text. -/
def StartsText (c : Char) : Prop := c = '"' ∨ c = '\''

instance (c : Char) : Decidable (StartsText c) := inferInstanceAs (Decidable (c = '"' ∨ c = '\''))

/-- Without escapes, a text between quotes ends with the next quote. -/
theorem isClosed_quotedChars (more : List Char) :
    IsClosed more (fun text => '\\' ∉ text) Lexeme.quotedChars := by
  intro text found delimited plain known
  cases text with
  | nil => cases known
  | cons c text =>
    rw [List.mem_cons, not_or] at plain
    rw [List.cons_append]
    simp only [Lexeme.quotedChars] at known ⊢
    split
    · rename_i quote
      rw [if_pos quote] at known
      obtain ⟨place, closing, rfl⟩ := Option.map_eq_some_iff.mp known
      obtain ⟨same, _, within⟩ := closingQuote?_append plain.2 (Ne.symm plain.1) closing more
      rw [same, Option.map_some, List.take_append_of_le_length (by omega)]
    · rename_i other
      rw [if_neg other] at known
      cases known

theorem closingQuote?_bound {quote previous : Char} {place found : Nat} {fallback : Option Nat}
    (known : closingQuote? quote place previous fallback text = some found) :
    fallback = some found ∨ found < place + text.length := by
  induction text generalizing place previous fallback with
  | nil => exact .inl known
  | cons c text ih =>
    simp only [closingQuote?] at known
    rw [List.length_cons]
    split at known
    · split at known
      · rcases ih known with same | within
        · obtain rfl := Option.some.inj same
          exact .inr (by omega)
        · exact .inr (by omega)
      · obtain rfl := Option.some.inj known
        exact .inr (by omega)
    · exact (ih known).imp_right fun within => by omega

theorem heads_quotedChars : Heads StartsText Lexeme.quotedChars := by
  intro text found known
  cases text with
  | nil => cases known
  | cons c text =>
    simp only [Lexeme.quotedChars] at known
    split at known
    · rename_i quote
      obtain ⟨place, closing, rfl⟩ := Option.map_eq_some_iff.mp known
      rw [Bool.or_eq_true, beq_iff_eq, beq_iff_eq] at quote
      refine ⟨⟨c, text, rfl, quote⟩, Nat.succ_pos _, ?_⟩
      rcases closingQuote?_bound closing with none | within
      · cases none
      · rw [List.length_cons]
        dsimp only
        omega
    · cases known

end Quotes

section Fences

/-- A backtick starts code. -/
def StartsCode (c : Char) : Prop := c = '`'

instance (c : Char) : Decidable (StartsCode c) := inferInstanceAs (Decidable (c = '`'))

private theorem solid_ticks : ∀ c ∈ "``".toList, isGap c = false := by decide

theorem solid_fence : IsSolid '`' "```" := by decide

theorem fenceAt?_bound {place found : Nat} (known : fenceAt? place text = some found) :
    found + 3 ≤ place + text.length := by
  induction text generalizing place with
  | nil => cases known
  | cons c text ih =>
    simp only [fenceAt?] at known
    rw [List.length_cons]
    split at known
    · rename_i fence
      obtain rfl := Option.some.inj known
      rw [Bool.and_eq_true] at fence
      obtain ⟨behind, opened⟩ := Option.isSome_iff_exists.mp fence.2
      have length := congrArg List.length (eq_append_of_after? opened)
      rw [List.length_append] at length
      have two : "``".toList.length = 2 := rfl
      omega
    · have within := ih known
      omega

/-- A fence within a text is found whatever follows. -/
theorem fenceAt?_append {place found : Nat} (ends : EndsInGap text)
    (known : fenceAt? place text = some found) (more : List Char) :
    fenceAt? place (text ++ more) = some found := by
  induction text generalizing place with
  | nil => cases known
  | cons c text ih =>
    rw [List.cons_append]
    simp only [fenceAt?] at known ⊢
    by_cases last : text = []
    · -- The last character is a gap, so no fence starts there.
      subst last
      have gap := ends c rfl
      have other : (c.toNat == 96) = false := by
        rcases isGap_cases gap with rfl | rfl | rfl | rfl <;> rfl
      rw [other, Bool.false_and, if_neg Bool.false_ne_true] at known
      cases known
    · have rest : Delimited text := ⟨last, ends.of_cons⟩
      rw [rest.after?_append solid_ticks, Option.isSome_map]
      split
      · rename_i fence
        rwa [if_pos fence] at known
      · rename_i plain
        rw [if_neg plain] at known
        exact ih ends.of_cons known

theorem isClosed_fenced (more : List Char) : IsClosed more (fun _ => True) Lexeme.fenced := by
  intro text found delimited _ known
  obtain ⟨rest, opened, known⟩ := Option.bind_eq_some_iff.mp known
  obtain ⟨place, closed, rfl⟩ := Option.map_eq_some_iff.mp known
  have behind := delimited.after? solid_fence.solid opened
  have within := fenceAt?_bound closed
  have length := congrArg List.length (eq_append_of_after? opened)
  rw [List.length_append] at length
  have three : "```".toList.length = 3 := rfl
  rw [Lexeme.fenced, delimited.after?_append solid_fence.solid, opened, Option.map_some,
    Option.bind_some, fenceAt?_append behind.ends closed, Option.map_some,
    List.take_append_of_le_length (by omega)]

theorem heads_fenced : Heads StartsCode Lexeme.fenced := by
  intro text found known
  obtain ⟨rest, opened, known⟩ := Option.bind_eq_some_iff.mp known
  obtain ⟨place, closed, rfl⟩ := Option.map_eq_some_iff.mp known
  have within := fenceAt?_bound closed
  have length := congrArg List.length (eq_append_of_after? opened)
  rw [List.length_append] at length
  have three : "```".toList.length = 3 := rfl
  exact ⟨(solid_fence.heads opened).1, Nat.succ_pos _, by dsimp only; omega⟩

/-- A character between two backticks on a line. -/
def isInline (c : Char) : Bool := c.toNat != 96 && c != '\n'

private theorem inlineCode_tick (rest : List Char) : Lexeme.inlineCode ('`' :: rest) =
    match rest.drop (rest.takeWhile isInline).length with
    | c :: _ => if c == '\n' then none
      else some ⟨('`' :: rest).take ((rest.takeWhile isInline).length + 2),
        (rest.takeWhile isInline).length + 2⟩
    | [] => none := rfl

/-- Where code on a line is found, it ends with the next backtick. -/
theorem inlineCode_cases {found : Found (List Char)} (known : Lexeme.inlineCode text = some found) :
    ∃ inner rest, text = '`' :: (inner ++ '`' :: rest) ∧ (∀ c ∈ inner, isInline c = true) ∧
      found.size = inner.length + 2 := by
  obtain ⟨rest, opened, _⟩ := Option.bind_eq_some_iff.mp known
  obtain rfl : text = '`' :: rest := eq_append_of_after? opened
  obtain ⟨shape, taken, stops⟩ := exists_run isInline rest
  have dropped : rest.drop (rest.takeWhile isInline).length = rest.dropWhile isInline := by
    nth_rewrite 2 [shape]
    exact List.drop_left
  rw [inlineCode_tick, dropped] at known
  cases behind : rest.dropWhile isInline with
  | nil =>
    rw [behind] at known
    cases known
  | cons c others =>
    rw [behind] at known stops shape
    have refused := stops c rfl
    simp only [Option.ite_none_left_eq_some, Option.some.injEq] at known
    obtain ⟨line, rfl⟩ := known
    have tick : c = '`' := by
      simp only [isInline, Bool.and_eq_false_iff, bne_eq_false_iff_eq] at refused
      rcases refused with code | ends
      · exact Char.toNat_inj.mp code
      · exact absurd (beq_iff_eq.mpr ends) line
    subst tick
    refine ⟨rest.takeWhile isInline, others, ?_, taken, rfl⟩
    rw [← shape]

private theorem inlineCode_of_shape {inner : List Char} (taken : ∀ c ∈ inner, isInline c = true)
    (rest : List Char) : Lexeme.inlineCode ('`' :: (inner ++ '`' :: rest)) =
      some ⟨'`' :: (inner ++ ['`']), inner.length + 2⟩ := by
  have run : (inner ++ '`' :: rest).takeWhile isInline = inner :=
    takeWhile_append_stop taken (by
      rintro c same
      obtain rfl := Option.some.inj same
      rfl)
  rw [inlineCode_tick, run, List.drop_left]
  simp [List.take_append]

theorem isClosed_inlineCode (more : List Char) : IsClosed more (fun _ => True) Lexeme.inlineCode := by
  intro text found _ _ known
  obtain ⟨inner, rest, rfl, taken, _⟩ := inlineCode_cases known
  rw [inlineCode_of_shape taken] at known
  rw [List.cons_append, List.append_assoc, List.cons_append, inlineCode_of_shape taken, known]

theorem heads_inlineCode : Heads StartsCode Lexeme.inlineCode := by
  intro text found known
  obtain ⟨inner, rest, rfl, _, size⟩ := inlineCode_cases known
  refine ⟨⟨_, _, rfl, rfl⟩, by omega, ?_⟩
  rw [List.length_cons, List.length_append, List.length_cons]
  omega

end Fences

section Types

/-- A character of a type name. -/
def isTypePart (c : Char) : Bool := isWord c || c == '$' || c == '.'

/-- A sign that may not stand in type arguments. -/
def endsArguments (c : Char) : Bool := ";()\x7b\x7d=".toList.contains c

/-- The type arguments in front of a text. -/
def argumentsOf (rest : List Char) : Option (List Char) :=
  match rest with
  | '<' :: more =>
    (lastAngle? 0 (more.takeWhile fun c => !endsArguments c)).map fun size => '<' :: more.take size
  | _ => none

/-- A character that may start a type name. -/
def StartsType (c : Char) : Prop := (c.isAlpha || c == '_' || c == '$') = true

instance (c : Char) : Decidable (StartsType c) := inferInstanceAs (Decidable (_ = true))

/-- No angle bracket closes type arguments that go on into a text. -/
def Unclosing (text : List Char) : Prop := '>' ∉ text.takeWhile fun c => !endsArguments c

instance (text : List Char) : Decidable (Unclosing text) := inferInstanceAs (Decidable (¬ _))

/-- Type arguments end in a text. -/
def Sealed (text : List Char) : Prop := ∃ c ∈ text, endsArguments c = true

theorem Sealed.of_suffix {rest : List Char} (ends : Sealed rest) (within : rest <:+ text) :
    Sealed text :=
  ends.imp fun _ found => ⟨within.subset found.1, found.2⟩

/-- The type arguments behind the type name that a text starts with end in the text, or what follows
does not close them. -/
def Shut (more text : List Char) : Prop :=
  ∀ rest, text.tail.dropWhile isTypePart = '<' :: rest → Sealed rest ∨ Unclosing more

theorem isTypePart_gap (c : Char) (gap : isGap c = true) : isTypePart c = false := by
  rcases isGap_cases gap with rfl | rfl | rfl | rfl <;> decide

theorem lastAngle?_bound {place found : Nat} (known : lastAngle? place text = some found) :
    found ≤ place + text.length := by
  induction text generalizing place with
  | nil => cases known
  | cons c text ih =>
    rw [List.length_cons]
    rw [lastAngle?, Option.or_eq_some_iff] at known
    rcases known with later | ⟨_, here⟩
    · have within := ih later
      omega
    · split at here
      · obtain rfl := Option.some.inj here
        omega
      · cases here

theorem lastAngle?_of_not_mem (absent : '>' ∉ text) (place : Nat) : lastAngle? place text = none := by
  induction text generalizing place with
  | nil => rfl
  | cons c text ih =>
    rw [List.mem_cons, not_or] at absent
    rw [lastAngle?, ih absent.2, Option.none_or, if_neg]
    exact fun same => absent.1 (beq_iff_eq.mp same).symm

private theorem lastAngle?_append (absent : '>' ∉ more) (place : Nat) :
    lastAngle? place (text ++ more) = lastAngle? place text := by
  induction text generalizing place with
  | nil => exact lastAngle?_of_not_mem absent place
  | cons c text ih => rw [List.cons_append, lastAngle?, ih, lastAngle?]

theorem length_argumentsOf {arguments : List Char} (known : argumentsOf text = some arguments) :
    arguments.length ≤ text.length := by
  unfold argumentsOf at known
  split at known
  · obtain ⟨size, _, rfl⟩ := Option.map_eq_some_iff.mp known
    rw [List.length_cons, List.length_cons, List.length_take]
    omega
  · cases known

private theorem argumentsOf_other (other : text.head? ≠ some '<') : argumentsOf text = none := by
  unfold argumentsOf
  split
  · exact absurd rfl other
  · rfl

theorem argumentsOf_append (delimited : Delimited text)
    (closed : ∀ rest, text = '<' :: rest → Sealed rest ∨ Unclosing more) :
    argumentsOf (text ++ more) = argumentsOf text := by
  obtain ⟨c, rest, rfl⟩ := List.exists_cons_of_ne_nil delimited.nonempty
  by_cases opens : c = '<'
  · subst opens
    have same : lastAngle? 0 ((rest ++ more).takeWhile fun c => !endsArguments c) =
        lastAngle? 0 (rest.takeWhile fun c => !endsArguments c) := by
      by_cases ends : Sealed rest
      · obtain ⟨d, member, stops⟩ := ends
        rw [(takeWhile_append_of_refused ⟨d, member, by rw [stops]; rfl⟩ more).1]
      · have all : ∀ d ∈ rest, (!endsArguments d) = true := by
          intro d member
          rw [Bool.not_eq_true']
          exact Bool.eq_false_iff.mpr fun stops => ends ⟨d, member, stops⟩
        rw [List.takeWhile_append_of_pos all, lastAngle?_append ((closed rest rfl).resolve_left ends),
          List.takeWhile_eq_self_iff.mpr all]
    rw [List.cons_append]
    simp only [argumentsOf, same]
    cases known : lastAngle? 0 (rest.takeWhile fun c => !endsArguments c) with
    | none => rfl
    | some size =>
      have within := lastAngle?_bound known
      have short := (List.takeWhile_prefix (fun c => !endsArguments c) (l := rest)).length_le
      rw [Option.map_some, Option.map_some, List.take_append_of_le_length (by omega)]
  · have other : (c :: rest).head? ≠ some '<' := fun same => opens (Option.some.inj same)
    rw [argumentsOf_other other, List.cons_append, argumentsOf_other]
    exact other

theorem typeName_cons (c : Char) (rest : List Char) : Lexeme.typeName (c :: rest) =
    if c.isAlpha || c == '_' || c == '$' then
      let text := c :: rest.takeWhile isTypePart ++ (argumentsOf (rest.dropWhile isTypePart)).getD []
      some ⟨String.ofList text, text.length⟩
    else none := rfl

private theorem isGap_of_startsType {c : Char} (begins : StartsType c) : isGap c = false := by
  rw [Bool.eq_false_iff]
  intro gap
  rcases isGap_cases gap with rfl | rfl | rfl | rfl <;> exact absurd begins (by decide)

theorem isClosed_typeName (more : List Char) : IsClosed more (Shut more) Lexeme.typeName := by
  intro text found delimited shut known
  obtain ⟨c, rest, rfl⟩ := List.exists_cons_of_ne_nil delimited.nonempty
  rw [typeName_cons] at known
  split at known
  · rename_i begins
    have behind : Delimited rest := delimited.tail (isGap_of_startsType begins)
    rw [List.cons_append, typeName_cons, if_pos begins, behind.takeWhile_append isTypePart_gap,
      behind.dropWhile_append isTypePart_gap,
      argumentsOf_append (behind.dropWhile isTypePart_gap) shut]
    exact known
  · cases known

theorem heads_typeName : Heads StartsType Lexeme.typeName := by
  intro text found known
  cases text with
  | nil => cases known
  | cons c rest =>
    rw [typeName_cons, Option.ite_none_right_eq_some] at known
    obtain ⟨begins, known⟩ := known
    obtain rfl := Option.some.inj known
    refine ⟨⟨c, rest, rfl, begins⟩, Nat.succ_pos _, ?_⟩
    have parts := congrArg List.length (List.takeWhile_append_dropWhile (p := isTypePart) (l := rest))
    have short : ((argumentsOf (rest.dropWhile isTypePart)).getD []).length ≤
        (rest.dropWhile isTypePart).length := by
      cases arguments : argumentsOf (rest.dropWhile isTypePart) with
      | none => exact Nat.zero_le _
      | some arguments => exact length_argumentsOf ‹_›
    rw [List.length_append] at parts
    simp only [List.cons_append, List.length_cons, List.length_append]
    omega

/-- Type arguments that end behind the type name end behind their bracket. -/
theorem shut_of_sealed {found : Found String} (known : Lexeme.typeName text = some found)
    (behind : Sealed (text.drop found.size)) (more : List Char) : Shut more text := by
  intro rest opens
  cases text with
  | nil => cases opens
  | cons c others =>
    rw [typeName_cons, Option.ite_none_right_eq_some] at known
    obtain ⟨_, known⟩ := known
    obtain rfl := Option.some.inj known
    have shape : c :: others =
        (c :: others.takeWhile isTypePart) ++ others.dropWhile isTypePart := by
      rw [List.cons_append, List.takeWhile_append_dropWhile]
    obtain ⟨d, member, ends⟩ := behind
    rw [shape, List.length_append, ← List.drop_drop, List.drop_left] at member
    have within := List.mem_of_mem_drop member
    rw [List.tail_cons] at opens
    rw [opens] at within
    refine .inl ⟨d, (List.mem_cons.mp within).resolve_left ?_, ends⟩
    rintro rfl
    exact absurd ends (by decide)

end Types

end Blueprint.Design.Lexeme
