import Blueprint.Markup.Scanner
import Blueprint.Proofs.Text

namespace Blueprint.Markup

open Blueprint.Text

/-- A blank that may stand before a token. -/
def isSpace (c : Char) : Bool := c == ' ' || c == '\t' || c == '\n' || c == '\r'

section Spaces

variable {text rest : List Char} {c : Char}

/-- What is accepted among visible characters only is visible. -/
theorem visible_of_accepts {accepts : Char → Bool} {c : Char}
    (refused : ∀ space ∈ [' ', '\t', '\n', '\r'], accepts space = false)
    (taken : accepts c = true) : isSpace c = false := by
  cases space : isSpace c with
  | false => rfl
  | true =>
    have blank : c ∈ [' ', '\t', '\n', '\r'] := by
      simpa [isSpace, or_assoc] using space
    rw [refused c blank] at taken
    cases taken

theorem exists_spaces (text : List Char) : ∃ spaces, (∀ c ∈ spaces, isSpace c = true) ∧
    text = spaces ++ skipSpace text ∧ ∀ c ∈ (skipSpace text).head?, isSpace c = false := by
  obtain ⟨split, taken, stops⟩ := exists_run isSpace text
  exact ⟨_, taken, split, stops⟩

theorem skipSpace_append {spaces : List Char} (blank : ∀ c ∈ spaces, isSpace c = true)
    (stops : ∀ c ∈ rest.head?, isSpace c = false) : skipSpace (spaces ++ rest) = rest :=
  dropWhile_append_stop blank stops

theorem skipSpace_append_cons {spaces : List Char} (blank : ∀ c ∈ spaces, isSpace c = true)
    (visible : isSpace c = false) : skipSpace (spaces ++ c :: rest) = c :: rest :=
  skipSpace_append blank fun _ same => Option.some.inj same ▸ visible

theorem token?_eq_some_iff {token : String} :
    token? token text = some rest ↔ skipSpace text = token.toList ++ rest := by
  unfold token?
  constructor
  · exact eq_append_of_after?
  · intro same
    rw [same, after?_append]

end Spaces

section Names

variable {text rest name : List Char}

/-- A tag name is read in the same way in front of all that cannot extend it. -/
theorem tagName?_local (read : tagName? text = some (name, rest)) :
    ∃ part, text = part ++ rest ∧ (∃ c tail, skipSpace text = c :: tail ∧ c.isAlpha = true) ∧
      (∀ c ∈ rest.head?, isTagChar c = false) ∧
      ∀ other : List Char, (∀ c ∈ other.head?, isTagChar c = false) →
        tagName? (part ++ other) = some (name, other) := by
  obtain ⟨spaces, blank, split, _⟩ := exists_spaces text
  unfold tagName? at read
  split at read
  · rename_i c tail visible
    split at read
    · rename_i letter
      cases read
      obtain ⟨parted, taken, stops⟩ := exists_run isTagChar tail
      refine ⟨spaces ++ c :: tail.takeWhile isTagChar, ?_, ⟨c, tail, visible, letter⟩, stops, ?_⟩
      · rw [List.append_assoc, List.cons_append, ← parted, ← visible, ← split]
      · intro other free
        unfold tagName?
        rw [List.append_assoc, List.cons_append,
          skipSpace_append_cons blank (visible_of_accepts (by decide) letter)]
        simp only [letter, ↓reduceIte, takeWhile_append_stop taken free,
          dropWhile_append_stop taken free]
    · cases read
  · cases read

end Names

section Values

variable {text rest name : List Char} {quote : Char}

/-- A quoted value ends at the first quote. -/
theorem afterQuoted?_eq_some_iff : afterQuoted? quote text = some rest ↔
    ∃ inside, quote ∉ inside ∧ text = inside ++ quote :: rest := by
  unfold afterQuoted?
  constructor
  · intro read
    obtain ⟨split, taken, stops⟩ := exists_run (· != quote) text
    split at read
    · rename_i c tail found
      cases read
      rw [found] at split stops
      have closing : c = quote := by simpa using stops c rfl
      subst closing
      exact ⟨_, fun inside => by simpa using taken c inside, split⟩
    · cases read
  · rintro ⟨inside, absent, rfl⟩
    have unquoted : ∀ c ∈ inside, (c != quote) = true := by
      intro c member
      exact bne_iff_ne.mpr fun same => absent (same ▸ member)
    rw [dropWhile_append_stop unquoted (by simp)]

/-- A value is quoted if it begins with a quote that is closed, else it is bare. -/
theorem afterValue?_cons {c : Char} {tail : List Char} (visible : skipSpace text = c :: tail) :
    afterValue? text = (if c = '"' ∨ c = '\'' then afterQuoted? c tail else none).or
      (if isBareValueChar c then some (tail.dropWhile isBareValueChar) else none) := by
  have bare : ∀ quote ∈ ['"', '\''], isBareValueChar quote = false := by decide
  unfold afterValue?
  simp only [visible]
  by_cases double : c = '"'
  · subst double
    cases found : afterQuoted? '"' tail <;> simp [bare, found]
  · by_cases single : c = '\''
    · subst single
      cases found : afterQuoted? '\'' tail <;> simp [bare, found]
    · cases plain : isBareValueChar c <;> simp [double, single, plain]

/-- A value is read in the same way in front of all that begins alike. -/
theorem afterValue?_local (read : afterValue? text = some rest) :
    ∃ part, part ≠ [] ∧ text = part ++ rest ∧
      ∀ other : List Char, other.head? = rest.head? → afterValue? (part ++ other) = some other := by
  obtain ⟨spaces, blank, split, stops⟩ := exists_spaces text
  cases visible : skipSpace text with
  | nil => simp [afterValue?, visible] at read
  | cons c tail =>
    rw [visible] at split stops
    have solid : isSpace c = false := stops c rfl
    rw [afterValue?_cons visible, Option.or_eq_some_iff] at read
    rcases read with quoted | ⟨_, bare⟩
    · split at quoted
      · rename_i opening
        obtain ⟨inside, absent, rfl⟩ := afterQuoted?_eq_some_iff.mp quoted
        refine ⟨spaces ++ c :: (inside ++ [c]), by simp, by simp [split], fun other _ => ?_⟩
        have here : skipSpace (spaces ++ c :: (inside ++ [c]) ++ other) =
            c :: (inside ++ c :: other) := by
          rw [List.append_assoc, List.cons_append, skipSpace_append_cons blank solid]
          simp
        rw [afterValue?_cons here, if_pos opening,
          afterQuoted?_eq_some_iff.mpr ⟨inside, absent, rfl⟩]
        rfl
      · cases quoted
    · split at bare
      · rename_i plain
        cases bare
        obtain ⟨parted, taken, ends⟩ := exists_run isBareValueChar tail
        refine ⟨spaces ++ c :: tail.takeWhile isBareValueChar, by simp, ?_, fun other alike => ?_⟩
        · rw [List.append_assoc, List.cons_append, ← parted, ← split]
        · have here : skipSpace (spaces ++ c :: tail.takeWhile isBareValueChar ++ other) =
              c :: (tail.takeWhile isBareValueChar ++ other) := by
            rw [List.append_assoc, List.cons_append, skipSpace_append_cons blank solid]
          have unquoted : ¬ (c = '"' ∨ c = '\'') := by
            rintro (rfl | rfl) <;> exact absurd plain (by decide)
          rw [afterValue?_cons here, if_neg unquoted, if_pos plain,
            dropWhile_append_stop taken (by rwa [alike])]
          rfl
      · cases bare

/-- A value that may be absent is read in the same way in front of all that begins alike and is not
such a value. -/
theorem optionalValue_local (read : ((token? "=" text).bind afterValue?).getD text = rest) :
    ∃ value : List Char, text = value ++ rest ∧
      ∀ other : List Char, other.head? = rest.head? → token? "=" other = none →
        ((token? "=" (value ++ other)).bind afterValue?).getD (value ++ other) = other := by
  cases looked : (token? "=" text).bind afterValue? with
  | none =>
    rw [looked] at read
    exact ⟨[], read, fun other _ valueless => by simp [valueless]⟩
  | some found =>
    rw [looked] at read
    obtain rfl : found = rest := read
    obtain ⟨behind, equals, valued⟩ := Option.bind_eq_some_iff.mp looked
    obtain ⟨part, _, rfl, same⟩ := afterValue?_local valued
    obtain ⟨gap, clear, shape, _⟩ := exists_spaces text
    rw [token?_eq_some_iff.mp equals] at shape
    refine ⟨gap ++ '=' :: part, by simp [shape], fun other alike _ => ?_⟩
    have sign : token? "=" (gap ++ '=' :: part ++ other) = some (part ++ other) := by
      rw [token?_eq_some_iff, List.append_assoc, List.cons_append,
        skipSpace_append_cons clear (by decide)]
      rfl
    rw [sign, Option.bind_some, same other alike]
    rfl

/-- An attribute is read in the same way in front of all that begins alike and not with a value. -/
theorem attribute?_local (read : attribute? text = some (name, rest)) :
    ∃ part, part ≠ [] ∧ text = part ++ rest ∧
      ∀ other : List Char, other.head? = rest.head? → token? "=" other = none →
        attribute? (part ++ other) = some (name, other) := by
  obtain ⟨spaces, blank, split, _⟩ := exists_spaces text
  obtain ⟨parted, taken, ends⟩ := exists_run isAttributeChar (skipSpace text)
  unfold attribute? at read
  simp only at read
  split at read
  · cases read
  · rename_i nonempty
    obtain ⟨rfl, after⟩ := Prod.mk.inj (Option.some.inj read)
    obtain ⟨value, valued, same⟩ := optionalValue_local after
    generalize named : (skipSpace text).takeWhile isAttributeChar = name at *
    obtain ⟨c, tail, rfl⟩ := List.exists_cons_of_ne_nil nonempty
    refine ⟨spaces ++ (c :: tail ++ value), by simp, ?_, fun other alike valueless => ?_⟩
    · rw [List.append_assoc, List.append_assoc, ← valued, ← parted, ← split]
    · have heads : (value ++ other).head? = (value ++ rest).head? := by
        by_cases empty : value = []
        · rw [empty, List.nil_append, List.nil_append, alike]
        · exact head?_append_eq empty other rest
      have stops : ∀ c ∈ (value ++ other).head?, isAttributeChar c = false := by
        rwa [heads, ← valued]
      have visible : skipSpace (spaces ++ (c :: tail ++ value) ++ other) =
          c :: tail ++ (value ++ other) := by
        rw [List.append_assoc, List.append_assoc, List.cons_append]
        exact skipSpace_append_cons blank
          (visible_of_accepts (by decide) (taken c List.mem_cons_self))
      unfold attribute?
      simp only [visible, takeWhile_append_stop taken stops, dropWhile_append_stop taken stops,
        same other alike valueless]

end Values

section Ends

variable {text rest : List Char} {names : List (List Char)}

/-- Reads the end of an opening tag: its attributes and its bracket. -/
inductive ReadsEnd : List Char → List (List Char) → List Char → Prop where
  | bracket {text rest : List Char} (none : attribute? text = none)
      (ends : token? ">" ((token? "/" text).getD text) = some rest) : ReadsEnd text [] rest
  | named {text name middle rest : List Char} {names : List (List Char)}
      (found : attribute? text = some (name, middle)) (later : ReadsEnd middle names rest) :
      ReadsEnd text (name :: names) rest

theorem attribute?_eq_none_of {c : Char} {tail : List Char} (visible : skipSpace text = c :: tail)
    (refused : isAttributeChar c = false) : attribute? text = none := by
  simp [attribute?, visible, refused]

/-- The end of a tag is not read past a sign of a value. -/
theorem token?_equals_eq_none (read : ReadsEnd text names rest) : token? "=" text = none := by
  cases signed : token? "=" text with
  | none => rfl
  | some behind =>
    have visible : skipSpace text = '=' :: behind := token?_eq_some_iff.mp signed
    cases read with
    | bracket _ ends =>
      have unslashed : token? "/" text = none := by simp [token?, visible, after?]
      rw [unslashed] at ends
      have bracket := token?_eq_some_iff.mp ends
      simp [visible] at bracket
    | named found _ => simp [attribute?_eq_none_of visible (by decide)] at found

/-- The end of a tag is read in the same way whatever stands behind it. -/
theorem ReadsEnd.anywhere (read : ReadsEnd text names rest) :
    ∃ inner, text = inner ++ '>' :: rest ∧
      ∀ other, ReadsEnd (inner ++ '>' :: other) names other := by
  induction read with
  | @bracket text rest none ends =>
    obtain ⟨spaces, blank, split, _⟩ := exists_spaces text
    cases slashed : token? "/" text with
    | none =>
      rw [slashed] at ends
      have visible : skipSpace text = '>' :: rest := token?_eq_some_iff.mp ends
      refine ⟨spaces, by rw [← visible, ← split], fun other => ?_⟩
      have here : skipSpace (spaces ++ '>' :: other) = '>' :: other :=
        skipSpace_append_cons blank (by decide)
      have unslashed : token? "/" (spaces ++ '>' :: other) = Option.none := by
        simp [token?, here, after?]
      exact .bracket (attribute?_eq_none_of here (by decide))
        (by rw [unslashed]; exact token?_eq_some_iff.mpr here)
    | some behind =>
      rw [slashed] at ends
      have visible : skipSpace text = '/' :: behind := token?_eq_some_iff.mp slashed
      have further : skipSpace behind = '>' :: rest := token?_eq_some_iff.mp ends
      obtain ⟨gap, clear, shape, _⟩ := exists_spaces behind
      refine ⟨spaces ++ '/' :: gap, by rw [split, visible, shape, further]; simp, fun other => ?_⟩
      have here : skipSpace (spaces ++ '/' :: gap ++ '>' :: other) = '/' :: (gap ++ '>' :: other) := by
        rw [List.append_assoc, List.cons_append]
        exact skipSpace_append_cons blank (by decide)
      have slash : token? "/" (spaces ++ '/' :: gap ++ '>' :: other) = some (gap ++ '>' :: other) :=
        token?_eq_some_iff.mpr here
      exact .bracket (attribute?_eq_none_of here (by decide))
        (by rw [slash]; exact token?_eq_some_iff.mpr (skipSpace_append_cons clear (by decide)))
  | named found _ ih =>
    obtain ⟨inner, rfl, same⟩ := ih
    obtain ⟨part, _, rfl, alike⟩ := attribute?_local found
    refine ⟨part ++ inner, by simp, fun other => ?_⟩
    rw [List.append_assoc]
    refine .named (alike _ ?_ (token?_equals_eq_none (same other))) (same other)
    cases inner <;> rfl

private theorem attribute?_shortens {name : List Char} (read : attribute? text = some (name, rest)) :
    rest.length < text.length := by
  obtain ⟨part, nonempty, rfl, _⟩ := attribute?_local read
  have := List.length_pos_iff.mpr nonempty
  rw [List.length_append]
  omega

/-- The attributes and the bracket of an opening tag are its end. -/
theorem readsEnd_iff {fuel : Nat} (enough : text.length ≤ fuel) :
    ReadsEnd text names rest ↔ (attributes fuel text).1 = names ∧
      token? ">" ((token? "/" (attributes fuel text).2).getD (attributes fuel text).2) =
        some rest := by
  induction fuel generalizing text names with
  | zero =>
    obtain rfl := List.length_eq_zero_iff.mp (Nat.le_zero.mp enough)
    constructor
    · rintro (⟨_, ends⟩ | ⟨found, _⟩)
      · exact ⟨rfl, ends⟩
      · cases found
    · rintro ⟨rfl, ends⟩
      exact .bracket rfl ends
  | succ fuel ih =>
    unfold attributes
    cases found : attribute? text with
    | none =>
      constructor
      · rintro (⟨_, ends⟩ | ⟨other, _⟩)
        · exact ⟨rfl, ends⟩
        · rw [found] at other
          cases other
      · rintro ⟨rfl, ends⟩
        exact .bracket found ends
    | some first =>
      obtain ⟨name, middle⟩ := first
      have shorter := attribute?_shortens found
      constructor
      · rintro (⟨none, _⟩ | ⟨other, later⟩)
        · rw [found] at none
          cases none
        · rw [found] at other
          cases other
          obtain ⟨rfl, ends⟩ := (ih (by omega)).mp later
          exact ⟨rfl, ends⟩
      · rintro ⟨rfl, ends⟩
        exact .named found ((ih (by omega)).mpr ⟨rfl, ends⟩)

end Ends

section Nodes

variable {text rest part : List Char} {node : Node}

/-- A comment or a tag: it is read as its node whatever stands behind it. -/
structure Marked (part : List Char) (node : Node) : Prop where
  reads : ∀ rest, node? (part ++ rest) = some (node, rest)
  shape : ∃ inner, skipSpace part = '<' :: (inner ++ ['>'])

/-- A comment ends at the first end of a comment. -/
theorem commentEnd?_anywhere (read : commentEnd? text = some rest) :
    ∃ inner, 2 ≤ inner.length ∧ text = inner ++ '>' :: rest ∧
      ∀ other, commentEnd? (inner ++ '>' :: other) = some other := by
  fun_induction commentEnd? text with
  | case1 behind =>
    cases read
    exact ⟨['-', '-'], Nat.le_refl _, rfl, fun _ => rfl⟩
  | case2 c tail open_ ih =>
    obtain ⟨inner, long, rfl, same⟩ := ih read
    refine ⟨c :: inner, by rw [List.length_cons]; omega, rfl, fun other => ?_⟩
    rw [List.cons_append, commentEnd?]
    · exact same other
    · intro behind dash ends
      match inner, long with
      | a :: b :: inner, _ =>
        simp only [List.cons_append, List.cons.injEq] at ends
        exact open_ (inner ++ '>' :: rest) dash (by rw [ends.1, ends.2.1]; rfl)
  | case3 => cases read

theorem skipSpace_bracket {spaces : List Char} (blank : ∀ c ∈ spaces, isSpace c = true)
    (inner rest : List Char) : skipSpace (spaces ++ '<' :: inner ++ rest) = '<' :: (inner ++ rest) := by
  rw [List.append_assoc, List.cons_append]
  exact skipSpace_append_cons blank (by decide)

theorem comment?_marked (read : comment? text = some (node, rest)) :
    ∃ part, text = part ++ rest ∧ Marked part node := by
  obtain ⟨spaces, blank, split, _⟩ := exists_spaces text
  obtain ⟨behind, found, same⟩ := Option.map_eq_some_iff.mp read
  cases same
  obtain ⟨body, opened, closed⟩ := Option.bind_eq_some_iff.mp found
  have visible : skipSpace text = "<!--".toList ++ body := token?_eq_some_iff.mp opened
  obtain ⟨inner, _, rfl, anywhere⟩ := commentEnd?_anywhere closed
  have here := skipSpace_bracket blank ("!--".toList ++ inner ++ ['>'])
  refine ⟨spaces ++ '<' :: ("!--".toList ++ inner ++ ['>']), ?_, fun other => ?_,
    "!--".toList ++ inner, ?_⟩
  · rw [split, visible]
    simp
  · have opening : token? "<!--" (spaces ++ '<' :: ("!--".toList ++ inner ++ ['>']) ++ other) =
        some (inner ++ '>' :: other) := by
      rw [token?_eq_some_iff, here]
      simp
    rw [node?, comment?, opening, Option.bind_some, anywhere]
    rfl
  · simpa using here []

theorem closeTag?_eq_some_iff : closeTag? text = some (node, rest) ↔
    ∃ behind name middle, token? "</" text = some behind ∧
      tagName? behind = some (name, middle) ∧ token? ">" middle = some rest ∧
      node = .close name := by
  simp only [closeTag?, Option.bind_eq_bind, Option.bind_eq_some_iff, Option.pure_def,
    Option.some.injEq, Prod.mk.injEq, Prod.exists]
  constructor
  · rintro ⟨behind, opened, name, middle, named, last, closed, rfl, rfl⟩
    exact ⟨behind, name, middle, opened, named, closed, rfl⟩
  · rintro ⟨behind, name, middle, opened, named, closed, rfl⟩
    exact ⟨behind, opened, name, middle, named, rest, closed, rfl, rfl⟩

theorem openTag?_eq_some_iff : openTag? text = some (node, rest) ↔
    ∃ behind name middle names, token? "<" text = some behind ∧
      tagName? behind = some (name, middle) ∧ ReadsEnd middle names rest ∧
      node = .tag name names := by
  simp only [openTag?, Option.bind_eq_bind, Option.bind_eq_some_iff, Option.pure_def,
    Option.some.injEq, Prod.mk.injEq, Prod.exists]
  constructor
  · rintro ⟨behind, opened, name, middle, named, last, closed, rfl, rfl⟩
    exact ⟨behind, name, middle, _, opened, named,
      (readsEnd_iff (Nat.le_refl _)).mpr ⟨rfl, closed⟩, rfl⟩
  · rintro ⟨behind, name, middle, names, opened, named, ends, rfl⟩
    obtain ⟨rfl, closed⟩ := (readsEnd_iff (Nat.le_refl _)).mp ends
    exact ⟨behind, opened, name, middle, named, rest, closed, rfl, rfl⟩

theorem token?_eq_none {token : String} {sign : Char} {signs body : List Char}
    (spelled : token = String.ofList ('<' :: sign :: signs)) (visible : skipSpace text = '<' :: body)
    (other : body.head? ≠ some sign) : token? token text = none := by
  rw [token?, Text.toList_of_eq spelled, visible]
  cases body with
  | nil => rfl
  | cons c body =>
    have differs : ¬ sign = c := fun same => other (by rw [same]; rfl)
    simp [after?, differs]

theorem comment?_eq_none {body : List Char} (visible : skipSpace text = '<' :: body)
    (other : body.head? ≠ some '!') : comment? text = none := by
  rw [comment?, token?_eq_none rfl visible other]
  rfl

theorem closeTag?_eq_none {body : List Char} (visible : skipSpace text = '<' :: body)
    (other : body.head? ≠ some '/') : closeTag? text = none := by
  rw [closeTag?, token?_eq_none rfl visible other]
  rfl

theorem head?_of_tagName? {name : List Char} (read : tagName? text = some (name, rest)) :
    text.head? ≠ some '!' ∧ text.head? ≠ some '/' := by
  have refused (sign : Char) (visible : isSpace sign = false) (noLetter : sign.isAlpha = false) :
      text.head? ≠ some sign := by
    intro same
    obtain ⟨tail, rfl⟩ := List.head?_eq_some_iff.mp same
    have here : skipSpace ([] ++ sign :: tail) = sign :: tail :=
      skipSpace_append_cons (by simp) visible
    rw [List.nil_append] at here
    simp [tagName?, here, noLetter] at read
  exact ⟨refused '!' (by decide) (by decide), refused '/' (by decide) (by decide)⟩

theorem closeTag?_marked (read : closeTag? text = some (node, rest)) :
    ∃ part, text = part ++ rest ∧ Marked part node := by
  obtain ⟨spaces, blank, split, _⟩ := exists_spaces text
  obtain ⟨behind, name, middle, opened, named, closed, rfl⟩ := closeTag?_eq_some_iff.mp read
  have visible : skipSpace text = "</".toList ++ behind := token?_eq_some_iff.mp opened
  have bracket : skipSpace middle = '>' :: rest := token?_eq_some_iff.mp closed
  obtain ⟨part, rfl, _, stops, alike⟩ := tagName?_local named
  obtain ⟨gap, clear, shape, _⟩ := exists_spaces middle
  rw [bracket] at shape
  have here := skipSpace_bracket blank ('/' :: (part ++ gap ++ ['>']))
  refine ⟨spaces ++ '<' :: ('/' :: (part ++ gap ++ ['>'])), ?_, fun other => ?_,
    '/' :: (part ++ gap), ?_⟩
  · rw [split, visible, shape]
    simp
  · have free : ∀ c ∈ (gap ++ '>' :: other).head?, isTagChar c = false := by
      rw [shape] at stops
      cases gap <;> exact stops
    have tag : closeTag? (spaces ++ '<' :: ('/' :: (part ++ gap ++ ['>'])) ++ other) =
        some (.close name, other) := by
      refine closeTag?_eq_some_iff.mpr ⟨part ++ (gap ++ '>' :: other), name, gap ++ '>' :: other,
        ?_, alike _ free, token?_eq_some_iff.mpr (skipSpace_append_cons clear (by decide)), rfl⟩
      rw [token?_eq_some_iff, here]
      simp
    rw [node?, comment?_eq_none (here other) (by simp), tag]
    rfl
  · simpa using here []

theorem openTag?_marked (read : openTag? text = some (node, rest)) :
    ∃ part, text = part ++ rest ∧ Marked part node := by
  obtain ⟨spaces, blank, split, _⟩ := exists_spaces text
  obtain ⟨behind, name, middle, names, opened, named, ends, rfl⟩ := openTag?_eq_some_iff.mp read
  have visible : skipSpace text = '<' :: behind := token?_eq_some_iff.mp opened
  obtain ⟨part, rfl, _, stops, alike⟩ := tagName?_local named
  obtain ⟨inner, rfl, anywhere⟩ := ends.anywhere
  have here := skipSpace_bracket blank (part ++ inner ++ ['>'])
  refine ⟨spaces ++ '<' :: (part ++ inner ++ ['>']), ?_, fun other => ?_, part ++ inner, ?_⟩
  · rw [split, visible]
    simp
  · have free : ∀ c ∈ (inner ++ '>' :: other).head?, isTagChar c = false := by
      cases inner <;> exact stops
    have first := here other
    have shape : part ++ inner ++ ['>'] ++ other = part ++ (inner ++ '>' :: other) := by simp
    rw [shape] at first
    obtain ⟨noComment, noClose⟩ := head?_of_tagName? (alike _ free)
    have tag : openTag? (spaces ++ '<' :: (part ++ inner ++ ['>']) ++ other) =
        some (.tag name names, other) :=
      openTag?_eq_some_iff.mpr ⟨_, name, _, names, token?_eq_some_iff.mpr first,
        alike _ free, anywhere other, rfl⟩
    rw [node?, comment?_eq_none first noComment, closeTag?_eq_none first noClose, tag]
    rfl
  · simpa using here []

/-- A bracket that stands for itself, behind blanks. -/
def IsStray (part : List Char) : Prop :=
  ∃ spaces, (∀ c ∈ spaces, isSpace c = true) ∧ part = spaces ++ ['<']

/-- A node is a comment or a tag, a stray bracket, or a text up to the next bracket. -/
theorem node?_cases (read : node? text = some (node, rest)) :
    ∃ part, part ≠ [] ∧ text = part ++ rest ∧
      (Marked part node ∨ node = .text ∧
        (IsStray part ∧ isStray rest = true ∨
          '<' ∉ part ∧ skipSpace part ≠ [] ∧ ∀ c ∈ rest.head?, c = '<')) := by
  have whole {part : List Char} {node : Node} (marked : Marked part node) : part ≠ [] := by
    obtain ⟨inner, shape⟩ := marked.shape
    rintro rfl
    cases shape
  unfold node? at read
  simp only [Option.or_eq_some_iff] at read
  rcases read with comment | ⟨_, close | ⟨_, opening | ⟨_, plain⟩⟩⟩
  · obtain ⟨part, split, marked⟩ := comment?_marked comment
    exact ⟨part, whole marked, split, Or.inl marked⟩
  · obtain ⟨part, split, marked⟩ := closeTag?_marked close
    exact ⟨part, whole marked, split, Or.inl marked⟩
  · obtain ⟨part, split, marked⟩ := openTag?_marked opening
    exact ⟨part, whole marked, split, Or.inl marked⟩
  · obtain ⟨spaces, blank, split, ends⟩ := exists_spaces text
    unfold text? at plain
    split at plain
    · cases plain
    · rename_i behind visible
      split at plain
      · rename_i stray
        cases plain
        rw [visible] at split
        exact ⟨spaces ++ ['<'], by simp, by simp [split],
          Or.inr ⟨rfl, Or.inl ⟨⟨spaces, blank, rfl⟩, stray⟩⟩⟩
      · cases plain
    · rename_i c tail other visible
      cases plain
      rw [visible] at split
      obtain ⟨parted, taken, stops⟩ := exists_run (· != '<') tail
      have clear : isSpace c = false := ends c (by rw [visible]; rfl)
      refine ⟨spaces ++ c :: tail.takeWhile (· != '<'), by simp, ?_,
        Or.inr ⟨rfl, Or.inr ⟨?_, ?_, ?_⟩⟩⟩
      · rw [List.append_assoc, List.cons_append, ← parted, ← split]
      · intro inside
        rcases List.mem_append.mp inside with space | inside
        · exact absurd (blank '<' space) (by decide)
        · rcases List.mem_cons.mp inside with rfl | inside
          · exact other rfl
          · exact absurd (taken '<' inside) (by decide)
      · rw [skipSpace_append_cons blank clear]
        exact List.cons_ne_nil _ _
      · intro c same
        simpa using stops c same

private theorem node?_eq_none (blank : skipSpace text = []) : node? text = none := by
  have token (name : String) (nonempty : name.toList ≠ []) : token? name text = none := by
    unfold token?
    rw [blank]
    cases shape : name.toList with
    | nil => exact absurd shape nonempty
    | cons c lead => rfl
  simp only [node?, comment?, String.reduceToList, ne_eq, reduceCtorEq, not_false_eq_true, token,
    Option.bind_none, Option.map_none, closeTag?, Option.pure_def, Option.bind_eq_bind, openTag?,
    List.cons_ne_self, text?, blank, Option.or_self]

end Nodes

/-- A node, the text from which it was read and what stands behind that. -/
structure Piece where
  node : Node
  text : List Char
  behind : List Char

/-- The pieces in front of a text. -/
def piecesFrom : Nat → List Char → List Piece
  | 0, _ => []
  | fuel + 1, text =>
    match node? text with
    | some (node, rest) =>
      ⟨node, text.take (text.length - rest.length), rest⟩ :: piecesFrom fuel rest
    | none => []

/-- The pieces of a template, one for each node. -/
def pieces (text : List Char) : List Piece := piecesFrom text.length text

/-- A text is read as pieces, with blanks behind the last. -/
inductive ReadsAs : List Char → List Piece → Prop where
  | done {text : List Char} (blank : skipSpace text = []) : ReadsAs text []
  | piece {part rest : List Char} {node : Node} {others : List Piece} (nonempty : part ≠ [])
      (read : node? (part ++ rest) = some (node, rest)) (later : ReadsAs rest others) :
      ReadsAs (part ++ rest) (⟨node, part, rest⟩ :: others)

section Pieces

variable {text : List Char}

theorem readsAs_piecesFrom {fuel : Nat} {nodes : List Node} (read : nodes? fuel text = some nodes) :
    ReadsAs text (piecesFrom fuel text) ∧ (piecesFrom fuel text).map Piece.node = nodes := by
  induction fuel generalizing text nodes with
  | zero =>
    unfold nodes? at read
    split at read
    · rename_i blank
      cases read
      exact ⟨.done (List.isEmpty_iff.mp blank), rfl⟩
    · cases read
  | succ fuel ih =>
    unfold nodes? at read
    unfold piecesFrom
    cases found : node? text with
    | none =>
      rw [found] at read
      simp only at read
      split at read
      · rename_i blank
        cases read
        exact ⟨.done (List.isEmpty_iff.mp blank), rfl⟩
      · cases read
    | some first =>
      obtain ⟨node, rest⟩ := first
      rw [found] at read
      obtain ⟨others, later, rfl⟩ := Option.map_eq_some_iff.mp read
      obtain ⟨reads, rfl⟩ := ih later
      obtain ⟨part, nonempty, rfl, _⟩ := node?_cases found
      have front : (part ++ rest).take ((part ++ rest).length - rest.length) = part := by simp
      simp only [front]
      exact ⟨.piece nonempty found reads, rfl⟩

theorem readsAs_pieces {nodes : List Node} (scanned : scan? text = some nodes) :
    ReadsAs text (pieces text) ∧ (pieces text).map Piece.node = nodes :=
  readsAs_piecesFrom scanned

/-- What is read as pieces can be scanned. -/
theorem ReadsAs.scan {parts : List Piece} (reads : ReadsAs text parts) :
    scan? text = some (parts.map Piece.node) := by
  have enough (fuel : Nat) (bound : text.length ≤ fuel) :
      nodes? fuel text = some (parts.map Piece.node) := by
    induction reads generalizing fuel with
    | done blank =>
      cases fuel with
      | zero => simp [nodes?, blank]
      | succ fuel => simp [nodes?, node?_eq_none blank, blank]
    | @piece part rest node others nonempty read later ih =>
      have positive := List.length_pos_iff.mpr nonempty
      rw [List.length_append] at bound
      cases fuel with
      | zero => omega
      | succ fuel =>
        unfold nodes?
        rw [read]
        simp only
        rw [ih fuel (by omega)]
        rfl
  exact enough text.length (Nat.le_refl _)

end Pieces

end Blueprint.Markup
