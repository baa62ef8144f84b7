import Blueprint.Proofs.Markup.BlockPasses
import Blueprint.Proofs.Markup.Reading

namespace Blueprint.Markup.Blocks

open Blueprint.Text

section Matching

variable {pieces : List TagPiece} {text rest : List Char} {values : List (List Char)}

/-- Pieces are read in the same way in front of all that begins alike. -/
def ReadsLocally (pieces : List TagPiece) : Prop :=
  ∀ {text values rest}, matchPieces? pieces text = some (values, rest) →
    ∃ part, text = part ++ rest ∧ ∀ other : List Char, other.head? = rest.head? →
      matchPieces? pieces (part ++ other) = some (values, other)

private theorem head?_append_of_alike {part other : List Char} (alike : other.head? = rest.head?) :
    (part ++ other).head? = (part ++ rest).head? := by
  cases part with
  | nil => exact alike
  | cons => rfl

theorem ReadsLocally.lead (locally : ReadsLocally pieces) (lead : List Char) :
    ReadsLocally (.text lead :: pieces) := by
  intro text values rest read
  obtain ⟨behind, opened, later⟩ := Option.bind_eq_some_iff.mp read
  obtain rfl := eq_append_of_after? opened
  obtain ⟨part, rfl, same⟩ := locally later
  refine ⟨lead ++ part, by simp, fun other alike => ?_⟩
  rw [List.append_assoc, matchPieces?_text, same other alike]

theorem ReadsLocally.gap (locally : ReadsLocally pieces) : ReadsLocally (.gap :: pieces) := by
  intro text values rest read
  cases text with
  | nil => cases read
  | cons c text =>
    simp only [matchPieces?] at read
    split at read
    · rename_i blank
      obtain ⟨split, taken, stops⟩ := exists_run isBlank text
      obtain ⟨part, shape, same⟩ := locally read
      rw [shape] at split stops
      refine ⟨c :: text.takeWhile isBlank ++ part, by simpa using split, fun other alike => ?_⟩
      rw [List.append_assoc, matchPieces?_gap (List.cons_ne_nil _ _), same other alike]
      · simpa [blank] using taken
      · rwa [head?_append_of_alike alike]
    · cases read

theorem ReadsLocally.slack (locally : ReadsLocally pieces) : ReadsLocally (.slack :: pieces) := by
  intro text values rest read
  obtain ⟨split, taken, stops⟩ := exists_run isBlank text
  obtain ⟨part, shape, same⟩ := locally read
  rw [shape] at split stops
  refine ⟨text.takeWhile isBlank ++ part, by simpa using split, fun other alike => ?_⟩
  rw [List.append_assoc, ← same other alike]
  exact matchPieces?_slack ⟨_, taken⟩ (by rwa [head?_append_of_alike alike])

theorem ReadsLocally.value (locally : ReadsLocally pieces) : ReadsLocally (.value :: pieces) := by
  intro text values rest read
  simp only [matchPieces?] at read
  split at read
  · rename_i tail
    split at read
    · rename_i more closed
      obtain ⟨found, later, whole⟩ := Option.map_eq_some_iff.mp read
      obtain ⟨rfl, rfl⟩ := Prod.mk.inj whole
      obtain ⟨split, taken, _⟩ := exists_run (· != '"') tail
      obtain ⟨part, rfl, same⟩ := locally later
      rw [closed] at split
      refine ⟨'"' :: (tail.takeWhile (· != '"') ++ '"' :: part), by simpa using split,
        fun other alike => ?_⟩
      have shape : '"' :: (tail.takeWhile (· != '"') ++ '"' :: part) ++ other =
          '"' :: (tail.takeWhile (· != '"') ++ '"' :: (part ++ other)) := by simp
      rw [shape, matchPieces?_value (by simpa using taken), same other alike]
      rfl
    · cases read
  · cases read

private theorem matchPieces?_local (pieces : List TagPiece) : ReadsLocally pieces := by
  induction pieces with
  | nil =>
    intro text values rest read
    cases read
    exact ⟨[], rfl, fun _ _ => rfl⟩
  | cons piece pieces ih =>
    cases piece with
    | text lead => exact ReadsLocally.lead ih lead
    | gap => exact ReadsLocally.gap ih
    | slack => exact ReadsLocally.slack ih
    | value => exact ReadsLocally.value ih

theorem matchPieces?_append (first second : List TagPiece) :
    matchPieces? (first ++ second) text = (matchPieces? first text).bind fun found =>
      (matchPieces? second found.2).map fun more => (found.1 ++ more.1, more.2) := by
  induction first generalizing text with
  | nil => cases found : matchPieces? second text <;> simp [matchPieces?, found]
  | cons piece first ih =>
    cases piece with
    | text lead => cases opened : after? lead text <;> simp [matchPieces?, opened, ih]
    | gap =>
      cases text with
      | nil => rfl
      | cons c text => by_cases blank : isBlank c = true <;> simp [matchPieces?, blank, ih]
    | slack => simp [matchPieces?, ih]
    | value =>
      simp only [List.cons_append, matchPieces?]
      split
      · split
        · simp only [ih, Option.map_bind, Option.bind_map]
          congr 1
          funext found
          simp [Function.comp_def]
        · rfl
      · rfl

/-- The last piece is a text. -/
def EndsInText (pieces : List TagPiece) : Prop :=
  ∃ front last, last ≠ [] ∧ pieces = front ++ [TagPiece.text last]

/-- Pieces that end in a text are read in the same way whatever stands behind them. -/
theorem matchPieces?_anywhere (ends : EndsInText pieces)
    (read : matchPieces? pieces text = some (values, rest)) :
    ∃ part, text = part ++ rest ∧ ∀ other,
      matchPieces? pieces (part ++ other) = some (values, other) := by
  obtain ⟨init, last, nonempty, rfl⟩ := ends
  rw [matchPieces?_append] at read
  obtain ⟨found, front, later⟩ := Option.bind_eq_some_iff.mp read
  obtain ⟨more, closed, whole⟩ := Option.map_eq_some_iff.mp later
  obtain ⟨rfl, rfl⟩ := Prod.mk.inj whole
  obtain ⟨behind, opened, same⟩ := Option.bind_eq_some_iff.mp closed
  cases same
  obtain ⟨part, rfl, alike⟩ := matchPieces?_local _ front
  obtain shape := eq_append_of_after? opened
  refine ⟨part ++ last, by rw [shape, List.append_assoc], fun other => ?_⟩
  have heads : (last ++ other).head? = found.2.head? := by
    rw [shape]
    exact head?_append_eq nonempty other behind
  rw [matchPieces?_append, List.append_assoc, alike _ heads, Option.bind_some, matchPieces?_text]
  rfl

private theorem tagRule_anywhere {target : List Char} {render : List (List Char) → List Char}
    (ends : EndsInText pieces) (taken : tagRule pieces render text = some ⟨target, text.length⟩)
    (rest : List Char) :
    tagRule pieces render (text ++ rest) = some ⟨target, text.length⟩ := by
  obtain ⟨⟨values, behind⟩, read, same⟩ := Option.map_eq_some_iff.mp taken
  obtain ⟨rfl, size⟩ := Found.mk.inj same
  obtain ⟨part, rfl, anywhere⟩ := matchPieces?_anywhere ends read
  simp only [List.length_append] at size
  obtain rfl : behind = [] := List.eq_nil_of_length_eq_zero (by omega)
  rw [List.append_nil, tagRule_of_read values render (anywhere rest)]

/-- Values hold no quote. -/
theorem matchPieces?_unquoted (read : matchPieces? pieces text = some (values, rest)) :
    ∀ value ∈ values, '"' ∉ value := by
  induction pieces generalizing text values with
  | nil =>
    cases read
    simp
  | cons piece pieces ih =>
    cases piece with
    | text lead =>
      obtain ⟨behind, _, later⟩ := Option.bind_eq_some_iff.mp read
      exact ih later
    | gap =>
      cases text with
      | nil => cases read
      | cons c text =>
        simp only [matchPieces?] at read
        split at read
        · exact ih read
        · cases read
    | slack => exact ih read
    | value =>
      simp only [matchPieces?] at read
      split at read
      · split at read
        · obtain ⟨found, later, whole⟩ := Option.map_eq_some_iff.mp read
          obtain ⟨rfl, rfl⟩ := Prod.mk.inj whole
          intro value member
          rcases List.mem_cons.mp member with rfl | member
          · intro inside
            exact absurd (List.mem_takeWhile_imp inside) (by decide)
          · exact ih later value member
        · cases read
      · cases read

end Matching

section Loops

variable {text rest : List Char}

theorem matchPieces?_end_iff {values : List (List Char)} :
    matchPieces? [.slack, .text ['>']] text = some (values, rest) ↔
      values = [] ∧ ∃ slack : Slack, text = slack.blanks ++ '>' :: rest := by
  constructor
  · intro read
    obtain ⟨split, taken, _⟩ := exists_run isBlank text
    obtain ⟨behind, opened, same⟩ := Option.bind_eq_some_iff.mp read
    cases same
    rw [eq_append_of_after? opened] at split
    exact ⟨rfl, ⟨_, taken⟩, split⟩
  · rintro ⟨rfl, slack, rfl⟩
    exact matchPieces?_end slack

/-- An attribute is read from where it stands. -/
theorem matchPieces?_attribute_iff {name : String} (visible : IsAttributeName name)
    {values : List (List Char)} :
    matchPieces? (attributePieces name) text = some (values, rest) ↔
      ∃ gap value, gap ≠ [] ∧ (∀ c ∈ gap, isBlank c = true) ∧ '"' ∉ value ∧ values = [value] ∧
        text = gap ++ (name.toList ++ '=' :: ('"' :: (value ++ '"' :: rest))) := by
  constructor
  · intro read
    cases text with
    | nil => cases read
    | cons c text =>
      simp only [attributePieces, matchPieces?] at read
      split at read
      · rename_i blank
        obtain ⟨split, taken, _⟩ := exists_run isBlank text
        obtain ⟨behind, opened, later⟩ := Option.bind_eq_some_iff.mp read
        rw [eq_append_of_after? opened] at split
        split at later
        · rename_i tail
          split at later
          · rename_i more closed
            obtain ⟨inside, unquoted, _⟩ := exists_run (· != '"') tail
            rw [closed] at inside
            obtain ⟨rfl, rfl⟩ := Prod.mk.inj (Option.some.inj later)
            refine ⟨c :: text.takeWhile isBlank, tail.takeWhile (· != '"'), by simp,
              by simpa [blank] using taken, ?_, rfl, ?_⟩
            · intro member
              exact absurd (unquoted '"' member) (by decide)
            · rw [← inside]
              simpa using split
          · cases later
        · cases later
      · cases read
  · rintro ⟨gap, value, nonempty, blank, unquoted, rfl, rfl⟩
    have stops : ∀ c ∈ (name.toList ++ '=' :: ('"' :: (value ++ '"' :: rest))).head?,
        isBlank c = false := by
      cases same : name.toList with
      | nil => simp; decide
      | cons c tail =>
        have first := (visible c (by simp [same])).1
        simpa using first
    have plain : ∀ c ∈ value, c ≠ '"' := fun c member same => unquoted (same ▸ member)
    have shape : name.toList ++ '=' :: ('"' :: (value ++ '"' :: rest)) =
        (name.toList ++ ['=']) ++ '"' :: (value ++ '"' :: rest) := by simp
    rw [attributePieces, matchPieces?_gap nonempty blank stops, shape, matchPieces?_text,
      matchPieces?_value plain]
    rfl

/-- The names of attributes that may follow: none of them reads another. -/
structure Distinct (names : List String) : Prop where
  visible : ∀ name ∈ names, IsAttributeName name
  nodup : names.Nodup

/-- A text is empty or starts with an attribute that bears one of some names. -/
def LeadsWith (names : List String) (part : List Char) : Prop :=
  part = [] ∨ ∃ name ∈ names, ∃ gap tail, gap ≠ [] ∧ (∀ c ∈ gap, isBlank c = true) ∧
    part = gap ++ (name.toList ++ '=' :: tail)

private theorem LeadsWith.cons {name : String} {names : List String} {part : List Char}
    (leads : LeadsWith names part) : LeadsWith (name :: names) part :=
  leads.imp_right fun ⟨other, member, lead⟩ => ⟨other, List.mem_cons_of_mem name member, lead⟩

private theorem LeadsWith.absent {name : String} {names : List String} {part : List Char}
    (leads : LeadsWith names part) (distinct : Distinct (name :: names)) (slack : Slack)
    (rest : List Char) :
    matchPieces? (attributePieces name) (part ++ (slack.blanks ++ '>' :: rest)) = none := by
  have here := distinct.visible name List.mem_cons_self
  rcases leads with rfl | ⟨next, member, gap, tail, nonempty, blank, rfl⟩
  · exact absent_at_end here slack
  · rw [List.append_assoc, List.append_assoc, List.cons_append]
    refine matchPieces?_other_name ?_ here
      (distinct.visible next (List.mem_cons_of_mem name member)) nonempty blank
    rintro rfl
    exact (List.nodup_cons.mp distinct.nodup).1 member

/-- Attributes that may be absent are read in the same way whatever stands behind their tag. -/
theorem matchOptional_anywhere {names : List String} (distinct : Distinct names) {slack : Slack}
    {values : List (List Char)}
    (read : matchOptional names text = (values, slack.blanks ++ '>' :: rest)) :
    ∃ part, text = part ++ (slack.blanks ++ '>' :: rest) ∧
      LeadsWith names part ∧
      ∀ other, matchOptional names (part ++ (slack.blanks ++ '>' :: other)) =
        (values, slack.blanks ++ '>' :: other) := by
  induction names generalizing text values with
  | nil =>
    obtain ⟨rfl, rfl⟩ := Prod.mk.inj read
    exact ⟨[], rfl, Or.inl rfl, fun _ => rfl⟩
  | cons name names ih =>
    have here := distinct.visible name List.mem_cons_self
    have later : Distinct names :=
      ⟨fun other member => distinct.visible other (List.mem_cons_of_mem name member),
        (List.nodup_cons.mp distinct.nodup).2⟩
    cases found : matchPieces? (attributePieces name) text with
    | some first =>
      obtain ⟨found', behind⟩ := first
      obtain ⟨gap, value, nonempty, blank, unquoted, rfl, rfl⟩ :=
        (matchPieces?_attribute_iff here).mp found
      rcases made : matchOptional names behind with ⟨others, last⟩
      simp only [matchOptional, found, made] at read
      obtain ⟨rfl, rfl⟩ := Prod.mk.inj read
      obtain ⟨part, rfl, _, anywhere⟩ := ih later made
      refine ⟨gap ++ (name.toList ++ '=' :: ('"' :: (value ++ '"' :: part))), by simp,
        Or.inr ⟨name, List.mem_cons_self, gap, _, nonempty, blank, rfl⟩, fun other => ?_⟩
      have again : matchPieces? (attributePieces name)
          (gap ++ (name.toList ++ '=' :: ('"' :: (value ++ '"' :: part))) ++
            (slack.blanks ++ '>' :: other)) =
          some ([value], part ++ (slack.blanks ++ '>' :: other)) :=
        (matchPieces?_attribute_iff here).mpr
          ⟨gap, value, nonempty, blank, unquoted, rfl, by simp⟩
      rw [matchOptional, again]
      simp only [anywhere]
    | none =>
      rcases made : matchOptional names text with ⟨others, last⟩
      simp only [matchOptional, found, made] at read
      obtain ⟨rfl, rfl⟩ := Prod.mk.inj read
      obtain ⟨part, rfl, leads, anywhere⟩ := ih later made
      refine ⟨part, rfl, leads.cons, fun other => ?_⟩
      rw [matchOptional, leads.absent distinct slack other]
      simp only [anywhere]

/-- A loop is read as its two values, then as what may be absent, then as its end. -/
theorem loopRule_eq_some_iff {found : Found (List Char)} : loopRule text = some found ↔
    ∃ item items track aliases behind, ∃ slack : Slack, ∃ rest,
      matchPieces? (.text "<for".toList :: attributePieces "const" ++ attributePieces "of") text =
        some ([item, items], behind) ∧
      matchOptional ("trackBy" :: loopAliases.map (·.1)) behind =
        (track :: aliases, slack.blanks ++ '>' :: rest) ∧
      found = ⟨loopHead item items track aliases, text.length - rest.length⟩ := by
  unfold loopRule
  constructor
  · intro read
    simp only at read
    split at read
    · rename_i item items behind opened
      split at read
      · rename_i track aliases _ rest named closed
        obtain ⟨_, slack, ends⟩ := matchPieces?_end_iff.mp closed
        exact ⟨item, items, track, aliases, behind, slack, rest, opened, Prod.ext named ends,
          (Option.some.inj read).symm⟩
      · cases read
    · cases read
  · rintro ⟨item, items, track, aliases, behind, slack, rest, opened, named, rfl⟩
    simp only [opened, named, matchPieces?_end]

private theorem distinct_optionNames : Distinct ("trackBy" :: loopAliases.map (·.1)) :=
  ⟨by decide, by decide⟩

theorem loopRule_anywhere {target : List Char}
    (taken : loopRule text = some ⟨target, text.length⟩) (rest : List Char) :
    loopRule (text ++ rest) = some ⟨target, text.length⟩ := by
  obtain ⟨item, items, track, aliases, behind, slack, last, opened, named, same⟩ :=
    loopRule_eq_some_iff.mp taken
  obtain ⟨rfl, size⟩ := Found.mk.inj same
  obtain ⟨front, rfl, alike⟩ := matchPieces?_local _ opened
  obtain ⟨part, rfl, _, anywhere⟩ := matchOptional_anywhere distinct_optionNames named
  simp only [List.length_append, List.length_cons] at size
  obtain rfl : last = [] := List.eq_nil_of_length_eq_zero (by omega)
  have shape : front ++ (part ++ (slack.blanks ++ ['>'])) ++ rest =
      front ++ (part ++ (slack.blanks ++ '>' :: rest)) := by simp
  have heads : (part ++ (slack.blanks ++ '>' :: rest)).head? =
      (part ++ (slack.blanks ++ ['>'])).head? := by
    have nonempty : part ++ (slack.blanks ++ ['>']) ≠ [] := by simp
    have same := head?_append_eq nonempty rest []
    simp
  rw [shape]
  refine loopRule_eq_some_iff.mpr ⟨item, items, track, aliases, _, slack, rest, alike _ heads,
    anywhere rest, ?_⟩
  simp only [List.length_append, List.length_cons, List.length_nil, Found.mk.injEq, true_and]
  omega

end Loops

theorem matchOptional_unquoted (names : List String) (text : List Char) :
    ∀ value ∈ (matchOptional names text).1, '"' ∉ value := by
  induction names generalizing text with
  | nil => simp [matchOptional]
  | cons name names ih =>
    intro value member
    unfold matchOptional at member
    split at member
    · rename_i found rest read
      rcases List.mem_cons.mp member with rfl | member
      · exact matchPieces?_unquoted read _ List.mem_cons_self
      · exact ih rest value member
    · rcases List.mem_cons.mp member with rfl | member
      · exact List.not_mem_nil
      · exact ih text value member

section Targets

/-- A text of the framework: it holds no quote, it begins with a sign of its own and ends in a brace
or in a semicolon, and a name behind a bracket ends within it. -/
structure Framed (text : List Char) : Prop where
  unquoted : '"' ∉ text
  starts : ∀ c ∈ text.head?, c = '@' ∨ c = '\x7d'
  ends : ∀ c ∈ text.getLast?, c = '\x7b' ∨ c = '\x7d' ∨ c = ';'
  spaced : ∀ front body, text = front ++ '<' :: body → nameEnds body = true

/-- A name ends within a text that holds a sign that ends it. -/
theorem nameEnds_of_mem {body : List Char} {c : Char} (member : c ∈ body)
    (ends : endsName c = true) (unslashed : c ≠ '/') : nameEnds body = true := by
  unfold nameEnds
  split
  · rename_i rest
    rcases List.mem_cons.mp member with same | later
    · exact absurd same unslashed
    · exact List.any_eq_true.mpr ⟨c, later, ends⟩
  · exact List.any_eq_true.mpr ⟨c, member, ends⟩

theorem nameEnds_of_blank {whole text tail : List Char} (shape : whole = text ++ ' ' :: tail)
    (plain : '<' ∉ tail) {front body : List Char} (split : whole = front ++ '<' :: body) :
    nameEnds body = true := by
  rw [shape] at split
  have blank : ' ' ∈ body := by
    rcases List.append_eq_append_iff.mp split with ⟨inner, _, same⟩ | ⟨inner, _, same⟩
    · cases inner with
      | nil => cases same
      | cons c inner => exact absurd ((List.cons.inj same).2 ▸ by simp) plain
    · cases inner with
      | nil => cases same
      | cons c inner => exact (List.cons.inj same).2 ▸ by simp
  exact nameEnds_of_mem blank (by decide) (by decide)

theorem framed_around (before : String) {values : List (List Char)}
    (unquoted : ∀ value ∈ values, '"' ∉ value) (plain : '"' ∉ before.toList)
    (starts : ∃ c tail, before.toList = c :: tail ∧ (c = '@' ∨ c = '\x7d')) :
    Framed (around before ") \x7b" values) := by
  obtain ⟨c, tail, shape, sign⟩ := starts
  unfold around
  refine ⟨?_, ?_, ?_, fun front body split => ?_⟩
  · simp only [List.mem_append, List.mem_flatten, not_or, not_exists, not_and]
    exact ⟨⟨plain, unquoted⟩, by decide⟩
  · simpa [shape] using sign
  · simp
  · have shape : before.toList ++ values.flatten ++ ") \x7b".toList =
        (before.toList ++ values.flatten ++ [')']) ++ ' ' :: ['\x7b'] := by simp
    exact nameEnds_of_blank shape (by decide) split

/-- The names given to a loop's variables, as the framework wants them. -/
def aliasTexts (aliases : List (List Char)) : List (List Char) :=
  (loopAliases.zip aliases).filterMap fun pair =>
    if pair.2.isEmpty then none
    else some ("@let ".toList ++ pair.2 ++ " = ".toList ++ pair.1.2.toList ++ [';'])

private theorem loopHead_flat (item items track : List Char) (aliases : List (List Char)) :
    loopHead item items track aliases =
      "@for (".toList ++ item ++ " of ".toList ++ items ++ "; track ".toList ++
        (if track.isEmpty then "$index".toList else track) ++ ") \x7b".toList ++
        (aliasTexts aliases).flatMap (' ' :: ·) := by
  unfold loopHead
  simp only
  change (if (aliasTexts aliases).isEmpty then _ else _ ++ ' ' :: [' '].intercalate
    (aliasTexts aliases)) = _
  cases aliasTexts aliases with
  | nil => exact (List.append_nil _).symm
  | cons first rest => rw [flatMap_blank_cons]; rfl

/-- A further text of the framework, in which a blank follows the last bracket. -/
structure Ending (text : List Char) : Prop where
  unquoted : '"' ∉ text
  spaced : ∃ front tail, text = front ++ ' ' :: (tail ++ [';']) ∧ '<' ∉ tail

theorem ending_of_alias {aliases : List (List Char)} (unquoted : ∀ value ∈ aliases, '"' ∉ value)
    {text : List Char} (member : text ∈ aliasTexts aliases) : Ending text := by
  obtain ⟨⟨⟨name, shown⟩, value⟩, paired, made⟩ := List.mem_filterMap.mp member
  have plain : ∀ entry ∈ loopAliases, '"' ∉ entry.2.toList ∧ '<' ∉ entry.2.toList := by decide
  obtain ⟨noQuote, noBracket⟩ := plain _ (List.of_mem_zip paired).1
  have valueUnquoted := unquoted value (List.of_mem_zip paired).2
  simp only at made noQuote noBracket valueUnquoted
  split at made
  · cases made
  · obtain rfl := Option.some.inj made
    have fixed : '"' ∉ "@let ".toList ∧ '"' ∉ " = ".toList ∧ '"' ∉ [';'] := by decide
    refine ⟨?_, "@let ".toList ++ value ++ " =".toList, shown.toList,
      by simp, noBracket⟩
    simp only [List.mem_append, not_or]
    exact ⟨⟨⟨⟨fixed.1, valueUnquoted⟩, fixed.2.1⟩, noQuote⟩, fixed.2.2⟩

theorem Framed.append {front text : List Char} (framed : Framed front) (nonempty : front ≠ [])
    (ending : Ending text) : Framed (front ++ ' ' :: text) := by
  obtain ⟨unquoted, inner, tail, rfl, plain⟩ := ending
  refine ⟨?_, ?_, ?_, fun lead body split => ?_⟩
  · simp only [List.mem_append, List.mem_cons, not_or] at unquoted ⊢
    exact ⟨framed.unquoted, by decide, unquoted⟩
  · rw [head?_append_eq nonempty _ [], List.append_nil]
    exact framed.starts
  · have shape : front ++ ' ' :: (inner ++ ' ' :: (tail ++ [';'])) =
        (front ++ ' ' :: inner ++ ' ' :: tail) ++ [';'] := by simp
    rw [shape, List.getLast?_concat]
    simp
  · have shape : front ++ ' ' :: (inner ++ ' ' :: (tail ++ [';'])) =
        (front ++ ' ' :: inner) ++ ' ' :: (tail ++ [';']) := by simp
    exact nameEnds_of_blank shape (by simpa using plain) split

theorem Framed.append_all {front : List Char} (framed : Framed front) (nonempty : front ≠ [])
    {texts : List (List Char)} (endings : ∀ text ∈ texts, Ending text) :
    Framed (front ++ texts.flatMap (' ' :: ·)) := by
  induction texts generalizing front with
  | nil => simpa using framed
  | cons text texts ih =>
    have first := framed.append nonempty (endings text List.mem_cons_self)
    have later := ih first (by simp) fun text member => endings text (List.mem_cons_of_mem _ member)
    rw [List.flatMap_cons, ← List.append_assoc]
    exact later

theorem framed_loopHead {item items track : List Char} {aliases : List (List Char)}
    (itemUnquoted : '"' ∉ item) (itemsUnquoted : '"' ∉ items) (trackUnquoted : '"' ∉ track)
    (unquoted : ∀ value ∈ aliases, '"' ∉ value) : Framed (loopHead item items track aliases) := by
  have tracked : '"' ∉ (if track.isEmpty then "$index".toList else track) := by
    split
    · decide
    · exact trackUnquoted
  rw [loopHead_flat]
  generalize (if track.isEmpty then "$index".toList else track) = track at *
  refine Framed.append_all ?_ (by simp) fun text => ending_of_alias unquoted
  have fixed : '"' ∉ " of ".toList ∧ '"' ∉ "; track ".toList := by decide
  have values : ∀ value ∈ [item, " of ".toList, items, "; track ".toList, track], '"' ∉ value := by
    simp only [List.forall_mem_cons]
    exact ⟨itemUnquoted, fixed.1, itemsUnquoted, fixed.2, tracked, by simp⟩
  have framed := framed_around "@for (" values (by decide) ⟨'@', _, rfl, Or.inl rfl⟩
  simpa [around] using framed

/-- What stands for a tag, whatever its values. -/
def Renders (render : List (List Char) → List Char) : Prop :=
  ∀ values, (∀ value ∈ values, '"' ∉ value) → Framed (render values)

theorem renders_around (before : String) (plain : '"' ∉ before.toList)
    (starts : ∃ c tail, before.toList = c :: tail ∧ (c = '@' ∨ c = '\x7d')) :
    Renders (around before ") \x7b") :=
  fun _ unquoted => framed_around before unquoted plain starts

theorem renders_always (text : String) (unquoted : '"' ∉ text.toList) (plain : '<' ∉ text.toList)
    (starts : ∀ c ∈ text.toList.head?, c = '@' ∨ c = '\x7d')
    (ends : ∀ c ∈ text.toList.getLast?, c = '\x7b' ∨ c = '\x7d' ∨ c = ';') :
    Renders (always text) :=
  fun _ _ => ⟨unquoted, starts, ends, (quiet_of_plain plain).2⟩

end Targets

/-- Every form but the loop is read as pieces. -/
theorem rule_eq_tagRule (form : TagForm) : form.rule = loopRule ∨ ∃ pieces render,
    form.rule = tagRule pieces render ∧ EndsInText pieces ∧ Renders render := by
  have opens (tag name : String) : EndsInText (openPieces tag name) :=
    ⟨.text ('<' :: tag.toList) :: attributePieces name ++ [TagPiece.slack], ['>'], by simp, by simp [openPieces]⟩
  have bare (tag : String) : EndsInText (barePieces tag) :=
    ⟨[.text ('<' :: tag.toList), .slack], ['>'], by simp, rfl⟩
  obtain ⟨closes, block⟩ := form
  cases closes with
  | true =>
    refine Or.inr ⟨_, _, rfl, ⟨[], _, by simp, rfl⟩, ?_⟩
    cases block <;> exact renders_always _ (by decide) (by decide) (by decide) (by decide)
  | false =>
    cases block with
    | ifThen =>
      exact Or.inr ⟨_, _, rfl, opens _ _, renders_around _ (by decide) ⟨_, _, rfl, by decide⟩⟩
    | elseIf =>
      exact Or.inr ⟨_, _, rfl, opens _ _, renders_around _ (by decide) ⟨_, _, rfl, by decide⟩⟩
    | otherwise =>
      exact Or.inr ⟨_, _, rfl, bare _,
        renders_always _ (by decide) (by decide) (by decide) (by decide)⟩
    | forEach => exact Or.inl rfl
    | whenEmpty =>
      exact Or.inr ⟨_, _, rfl, bare _,
        renders_always _ (by decide) (by decide) (by decide) (by decide)⟩
    | switchOn =>
      exact Or.inr ⟨_, _, rfl, opens _ _, renders_around _ (by decide) ⟨_, _, rfl, by decide⟩⟩
    | switchCase =>
      exact Or.inr ⟨_, _, rfl, opens _ _, renders_around _ (by decide) ⟨_, _, rfl, by decide⟩⟩
    | switchDefault =>
      exact Or.inr ⟨_, _, rfl, bare _,
        renders_always _ (by decide) (by decide) (by decide) (by decide)⟩

/-- A tag that a rule takes to the end is taken in front of everything. -/
theorem rule_anywhere {form : TagForm} {text target : List Char}
    (taken : form.rule text = some ⟨target, text.length⟩) (rest : List Char) :
    form.rule (text ++ rest) = some ⟨target, text.length⟩ := by
  rcases rule_eq_tagRule form with loop | ⟨pieces, render, rule, ends, _⟩
  · rw [loop] at taken ⊢
    exact loopRule_anywhere taken rest
  · rw [rule] at taken ⊢
    exact tagRule_anywhere ends taken rest

/-- What a rule leaves is a text of the framework. -/
theorem framed_of_rule {form : TagForm} {text : List Char} {found : Found (List Char)}
    (taken : form.rule text = some found) : Framed found.value := by
  rcases rule_eq_tagRule form with loop | ⟨pieces, render, rule, _, renders⟩
  · rw [loop] at taken
    obtain ⟨item, items, track, aliases, behind, _, _, opened, named, rfl⟩ :=
      loopRule_eq_some_iff.mp taken
    have values := matchPieces?_unquoted opened
    have others := matchOptional_unquoted ("trackBy" :: loopAliases.map (·.1)) behind
    rw [named] at others
    exact framed_loopHead (values item (by simp)) (values items (by simp))
      (others track List.mem_cons_self) fun value member =>
        others value (List.mem_cons_of_mem track member)
  · rw [rule] at taken
    obtain ⟨⟨values, _⟩, read, rfl⟩ := Option.map_eq_some_iff.mp taken
    exact renders values (matchPieces?_unquoted read)

end Blueprint.Markup.Blocks
