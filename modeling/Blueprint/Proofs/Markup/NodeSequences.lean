import Blueprint.Proofs.Markup.Reading

namespace Blueprint.Markup

open Blueprint.Text

/-- The tag that a node opens: its name and the names of its attributes. -/
def Node.tag? : Node → Option (List Char × List (List Char))
  | .tag name attributes => some (name, attributes)
  | _ => none

/-- The tags that the pieces of a template open, in order. -/
def tagsOf (found : List Piece) : List (List Char × List (List Char)) :=
  found.filterMap fun piece => piece.node.tag?

/-- The element that a node opens. -/
def Node.element? : Node → Option (List Char)
  | .tag name _ => some name
  | _ => none

/-- The elements that the pieces of a template open, in order. -/
def elementsOf (found : List Piece) : List (List Char) :=
  found.filterMap fun piece => piece.node.element?

section Tags

variable {found others : List Piece}

theorem elementsOf_eq_map (found : List Piece) : elementsOf found = (tagsOf found).map Prod.fst := by
  unfold elementsOf tagsOf
  rw [List.map_filterMap]
  refine List.filterMap_congr fun piece _ => ?_
  cases piece.node <;> rfl

theorem elementsOf_congr (same : tagsOf found = tagsOf others) :
    elementsOf found = elementsOf others := by
  rw [elementsOf_eq_map, same, ← elementsOf_eq_map]

theorem elementsOf_cons (piece : Piece) :
    elementsOf (piece :: found) = piece.node.element?.toList ++ elementsOf found := by
  unfold elementsOf
  rw [List.filterMap_cons]
  cases piece.node.element? <;> rfl

end Tags

section Absorbing

variable {front text rest : List Char} {found : List Piece}

private theorem node?_congr {first second : List Char} (same : skipSpace first = skipSpace second) :
    node? first = node? second := by
  simp only [node?, comment?, closeTag?, openTag?, text?, token?, same]

private theorem skipSpace_append_of_blank (blank : skipSpace front = []) :
    skipSpace (front ++ rest) = skipSpace rest :=
  List.dropWhile_append_of_pos (List.dropWhile_eq_nil_iff.mp blank)

theorem plain_of_skipped (blank : skipSpace text = []) : '<' ∉ text :=
  fun member => absurd (List.dropWhile_eq_nil_iff.mp blank '<' member) (by decide)

theorem skipSpace_append_of_visible (visible : skipSpace front ≠ []) :
    skipSpace (front ++ rest) = skipSpace front ++ rest := by
  obtain ⟨spaces, clear, split, stops⟩ := exists_spaces front
  have shape : front ++ rest = spaces ++ (skipSpace front ++ rest) := by
    rw [← List.append_assoc, ← split]
  rw [shape]
  exact skipSpace_append clear (by rwa [head?_append_eq visible rest [], List.append_nil])

/-- Text up to the next bracket is one node. -/
theorem node?_of_plain (visible : skipSpace text ≠ []) (plain : '<' ∉ text)
    (bracket : ∀ c ∈ rest.head?, c = '<') : node? (text ++ rest) = some (.text, rest) := by
  obtain ⟨spaces, _, split, _⟩ := exists_spaces text
  obtain ⟨c, tail, shape⟩ := List.exists_cons_of_ne_nil visible
  have here : skipSpace (text ++ rest) = c :: (tail ++ rest) := by
    rw [skipSpace_append_of_visible visible, shape, List.cons_append]
  rw [split, shape] at plain
  have other : c ≠ '<' := by
    rintro rfl
    exact plain (by simp)
  have closed (lead : List Char) : after? ('<' :: lead) (c :: (tail ++ rest)) = none := by
    simp [after?, other.symm]
  have later : (tail ++ rest).dropWhile (· != '<') = rest := by
    apply dropWhile_append_stop
    · intro d member
      refine bne_iff_ne.mpr ?_
      rintro rfl
      exact plain (by simp [member])
    · intro d first
      simp [bracket d first]
  have comment : comment? (text ++ rest) = none := by
    simp [comment?, token?, here, closed]
  have close : closeTag? (text ++ rest) = none := by
    simp [closeTag?, token?, here, closed]
  have opening : openTag? (text ++ rest) = none := by
    simp [openTag?, token?, here, closed]
  have plainText : text? (text ++ rest) = some (.text, rest) := by
    simp [text?, here, later]
  rw [node?, comment, close, opening, plainText]
  rfl

/-- A piece that begins with a bracket stays a piece of its own behind text without brackets. -/
theorem ReadsAs.prepend_bracket {spaces tail part : List Char} {node : Node} {others : List Piece}
    (plain : '<' ∉ front) (clear : ∀ c ∈ spaces, isSpace c = true) (shape : part = spaces ++ '<' :: tail)
    (read : node? (part ++ rest) = some (node, rest)) (later : ReadsAs rest others) :
    ∃ found, ReadsAs (front ++ (part ++ rest)) found ∧
      tagsOf found = tagsOf (⟨node, part, rest⟩ :: others) := by
  by_cases blank : skipSpace front = []
  · refine ⟨⟨node, front ++ part, rest⟩ :: others, ?_, rfl⟩
    rw [← List.append_assoc]
    refine .piece (by simp [shape]) ?_ later
    rw [List.append_assoc, node?_congr (skipSpace_append_of_blank blank), read]
  · refine ⟨⟨.text, front ++ spaces, '<' :: tail ++ rest⟩ :: ⟨node, '<' :: tail, rest⟩ :: others,
      ?_, rfl⟩
    have whole : front ++ (part ++ rest) = front ++ spaces ++ ('<' :: tail ++ rest) := by
      rw [shape]
      simp
    have spacesPlain : '<' ∉ spaces := fun member => absurd (clear '<' member) (by decide)
    rw [whole]
    refine .piece ?_ (node?_of_plain ?_ (by simp [plain, spacesPlain]) (by simp))
      (.piece (List.cons_ne_nil _ _) ?_ later)
    · rintro same
      rw [(List.append_eq_nil_iff.mp same).1] at blank
      exact blank rfl
    · rw [skipSpace_append_of_visible blank]
      simp [blank]
    · have bare : skipSpace ('<' :: tail ++ rest) = skipSpace (part ++ rest) := by
        rw [shape, List.append_assoc]
        exact (List.dropWhile_append_of_pos clear).symm
      rw [node?_congr bare, read]

/-- Text without brackets in front of a template joins its first text or becomes one. -/
theorem ReadsAs.prepend (plain : '<' ∉ front) (reads : ReadsAs text found) :
    ∃ others, ReadsAs (front ++ text) others ∧ tagsOf others = tagsOf found := by
  cases reads with
  | done blank =>
    by_cases empty : skipSpace (front ++ text) = []
    · exact ⟨[], .done empty, rfl⟩
    · have read : node? (front ++ text ++ []) = some (.text, []) :=
        node?_of_plain empty (by simp [plain, plain_of_skipped blank]) (by simp)
      have whole : ReadsAs (front ++ text ++ []) [⟨.text, front ++ text, []⟩] :=
        .piece (by rintro same; exact empty (by rw [same]; rfl)) read (.done rfl)
      rw [List.append_nil] at whole
      exact ⟨_, whole, rfl⟩
  | @piece part rest node others nonempty read later =>
    obtain ⟨part', _, split, kind⟩ := node?_cases read
    obtain rfl : part = part' := List.append_cancel_right split
    rcases kind with marked | ⟨isText, ⟨⟨spaces, clear, shape⟩, _⟩ | ⟨partPlain, visible, bracket⟩⟩
    · obtain ⟨spaces, clear, shape, _⟩ := exists_spaces part
      obtain ⟨inner, visible⟩ := marked.shape
      rw [visible] at shape
      exact ReadsAs.prepend_bracket plain clear shape read later
    · exact ReadsAs.prepend_bracket plain clear shape read later
    · obtain rfl : node = .text := isText
      refine ⟨⟨.text, front ++ part, rest⟩ :: others, ?_, rfl⟩
      rw [← List.append_assoc]
      refine .piece (by simp [nonempty]) (node?_of_plain ?_ (by simp [plain, partPlain]) bracket) later
      by_cases blank : skipSpace front = []
      · rwa [skipSpace_append_of_blank blank]
      · rw [skipSpace_append_of_visible blank]
        simp [blank]

end Absorbing

section Symbols

theorem tagsOf_of_plain {text : List Char} {found : List Piece} (reads : ReadsAs text found)
    (plain : '<' ∉ text) : tagsOf found = [] := by
  induction reads with
  | done => rfl
  | @piece part rest node others nonempty read later ih =>
    obtain ⟨partPlain, restPlain⟩ := not_or.mp (List.mem_append.not.mp plain)
    obtain ⟨part', _, split, kind⟩ := node?_cases read
    obtain rfl : part = part' := List.append_cancel_right split
    rcases kind with marked | ⟨rfl, _⟩
    · obtain ⟨inner, shape⟩ := marked.shape
      exact absurd ((List.dropWhile_suffix _).subset (shape ▸ List.mem_cons_self)) partPlain
    · exact ih restPlain

theorem not_mem_of_blank {text : List Char} (blank : isBlankText text = true) : '<' ∉ text := by
  intro member
  exact absurd (List.all_eq_true.mp blank '<' member) (by decide)

/-- What is read as pieces uses the tags that they open, also where all is blank. -/
theorem symbols?_of_readsAs {html : String} {found : List Piece} (reads : ReadsAs html.toList found) :
    symbols? html = some {
      elements := sortedSet ((tagsOf found).map fun tag => String.ofList tag.1)
      attributes := sortedSet ((tagsOf found).flatMap fun tag =>
        tag.2.map fun name => String.ofList (plainAttribute name)) } := by
  unfold symbols?
  split
  · rename_i blank
    rw [tagsOf_of_plain reads (not_mem_of_blank blank)]
    simp [sortedSet]
  · have tags : (found.map Piece.node).filterMap Node.tag? = tagsOf found :=
      List.filterMap_map ..
    rw [reads.scan, ← tags]
    rfl

end Symbols

section Forms

/-- Blanks that may stand before a token. -/
structure Blanks where
  text : List Char
  clear : ∀ c ∈ text, isSpace c = true

/-- A name that a tag may have: a letter, then characters of tag names. -/
structure TagName where
  first : Char
  others : List Char
  letter : first.isAlpha = true
  taken : ∀ c ∈ others, isTagChar c = true

def TagName.print (name : TagName) : List Char := name.first :: name.others

/-- A value between quotes, with its sign and the blanks around the sign. A bracket in it is like
any other character. -/
structure QuotedValue where
  before : Blanks
  behind : Blanks
  quote : Char
  inside : List Char
  quotes : quote = '"' ∨ quote = '\''
  unquoted : quote ∉ inside

def QuotedValue.print (value : QuotedValue) : List Char :=
  value.before.text ++ '=' :: (value.behind.text ++ value.quote :: (value.inside ++ [value.quote]))

/-- An attribute in a tag, behind the blanks that set it apart. -/
structure WrittenAttribute where
  gap : Blanks
  name : List Char
  value : Option QuotedValue
  apart : gap.text ≠ []
  named : name ≠ []
  taken : ∀ c ∈ name, isAttributeChar c = true

def WrittenAttribute.print (written : WrittenAttribute) : List Char :=
  written.gap.text ++ (written.name ++ written.value.elim [] QuotedValue.print)

/-- The end of an opening tag behind its attributes. -/
def tagEnd (gap : Blanks) (selfClosing : Bool) : List Char :=
  gap.text ++ if selfClosing then ['/', '>'] else ['>']

/-- A node as an author writes it. -/
inductive Written where
  | comment (content : List Char) (unended : ¬ "-->".toList <:+: content)
  | close (name : TagName) (gap : Blanks)
  | text (content : List Char) (plain : '<' ∉ content)
  | tag (name : TagName) (attributes : List WrittenAttribute) (gap : Blanks) (selfClosing : Bool)

def Written.print : Written → List Char
  | .comment content _ => "<!--".toList ++ (content ++ "-->".toList)
  | .close name gap => "</".toList ++ (name.print ++ (gap.text ++ ['>']))
  | .text content _ => content
  | .tag name attributes gap selfClosing =>
    '<' :: (name.print ++ (attributes.flatMap WrittenAttribute.print ++ tagEnd gap selfClosing))

/-- The tag that a written node opens. -/
def Written.tag? : Written → Option (List Char × List (List Char))
  | .tag name attributes _ _ => some (name.print, attributes.map WrittenAttribute.name)
  | _ => none

end Forms

/-- The names in a tag end at this character. -/
def EndsNames (c : Char) : Prop := isTagChar c = false ∧ isAttributeChar c = false

section Tokens

variable {rest : List Char}

theorem EndsNames.head {c : Char} (ends : EndsNames c) (rest : List Char) :
    ∀ d ∈ (c :: rest).head?, EndsNames d :=
  fun _ first => Option.some.inj first ▸ ends

private theorem endsNames_of_space {c : Char} (space : isSpace c = true) : EndsNames c := by
  have refused {accepts : Char → Bool}
      (blanks : ∀ space ∈ [' ', '\t', '\n', '\r'], accepts space = false) : accepts c = false := by
    refine Bool.eq_false_iff.mpr fun taken => ?_
    rw [visible_of_accepts blanks taken] at space
    cases space
  exact ⟨refused (by decide), refused (by decide)⟩

theorem skipSpace_cons {c : Char} (visible : isSpace c = false) (rest : List Char) :
    skipSpace (c :: rest) = c :: rest :=
  List.dropWhile_cons_of_neg (Bool.eq_false_iff.mp visible)

theorem Blanks.skip (blanks : Blanks) {c : Char} (visible : isSpace c = false) (rest : List Char) :
    skipSpace (blanks.text ++ c :: rest) = c :: rest :=
  skipSpace_append_cons blanks.clear visible

theorem Blanks.endsNames (blanks : Blanks) (ends : ∀ c ∈ rest.head?, EndsNames c) :
    ∀ c ∈ (blanks.text ++ rest).head?, EndsNames c := by
  cases shape : blanks.text with
  | nil => exact ends
  | cons blank others =>
    intro c first
    obtain rfl : blank = c := Option.some.inj first
    exact endsNames_of_space (blanks.clear blank (by simp [shape]))

theorem commentEnd?_append {content : List Char} (unended : ¬ "-->".toList <:+: content)
    (rest : List Char) : commentEnd? (content ++ ("-->".toList ++ rest)) = some rest := by
  induction content with
  | nil => rfl
  | cons c content ih =>
    rw [List.cons_append, commentEnd?]
    · exact ih fun inside => unended (inside.trans (List.suffix_cons c content).isInfix)
    · -- An end that begins at the first character would reach into the written end.
      rintro behind rfl ends
      rcases content with _ | ⟨d, _ | ⟨e, content⟩⟩
      · simp at ends
      · simp at ends
      · simp only [List.cons_append, List.cons.injEq] at ends
        obtain ⟨rfl, rfl, _⟩ := ends
        exact unended (List.prefix_append "-->".toList content).isInfix

theorem TagName.read (name : TagName) (ends : ∀ c ∈ rest.head?, EndsNames c) :
    tagName? (name.print ++ rest) = some (name.print, rest) := by
  have stops : ∀ c ∈ rest.head?, isTagChar c = false := fun c first => (ends c first).1
  have visible : skipSpace (name.print ++ rest) = name.first :: (name.others ++ rest) :=
    skipSpace_cons (visible_of_accepts (by decide) name.letter) _
  rw [tagName?, visible]
  simp only [name.letter, ↓reduceIte, takeWhile_append_stop name.taken stops,
    dropWhile_append_stop name.taken stops, TagName.print]

theorem QuotedValue.read (value : QuotedValue) (rest : List Char) :
    (token? "=" (value.print ++ rest)).bind afterValue? = some rest := by
  have visible : isSpace value.quote = false := by
    rcases value.quotes with same | same <;> rw [same] <;> decide
  have sign : token? "=" (value.print ++ rest) =
      some (value.behind.text ++ value.quote :: (value.inside ++ value.quote :: rest)) := by
    rw [token?_eq_some_iff, QuotedValue.print, List.append_assoc, List.cons_append,
      value.before.skip (by decide)]
    simp
  have closed : afterQuoted? value.quote (value.inside ++ value.quote :: rest) = some rest :=
    afterQuoted?_eq_some_iff.mpr ⟨value.inside, value.unquoted, rfl⟩
  rw [sign, Option.bind_some, afterValue?_cons (value.behind.skip visible _), if_pos value.quotes,
    closed, Option.some_or]

theorem optionalValue_read (value : Option QuotedValue) (ends : ∀ c ∈ rest.head?, EndsNames c)
    (unsigned : token? "=" rest = none) :
    (∀ c ∈ (value.elim [] QuotedValue.print ++ rest).head?, EndsNames c) ∧
      ((token? "=" (value.elim [] QuotedValue.print ++ rest)).bind afterValue?).getD
        (value.elim [] QuotedValue.print ++ rest) = rest := by
  cases value with
  | none => exact ⟨ends, by simp [unsigned]⟩
  | some value =>
    refine ⟨?_, by simp [value.read rest]⟩
    rw [Option.elim_some, QuotedValue.print, List.append_assoc]
    exact value.before.endsNames (EndsNames.head ⟨by decide, by decide⟩ _)

/-- A written attribute is read with its value where no value follows. -/
theorem WrittenAttribute.read (written : WrittenAttribute)
    (ends : ∀ c ∈ rest.head?, EndsNames c) (unsigned : token? "=" rest = none) :
    attribute? (written.print ++ rest) = some (written.name, rest) := by
  obtain ⟨c, tail, shape⟩ := List.exists_cons_of_ne_nil written.named
  obtain ⟨stops, passed⟩ := optionalValue_read written.value ends unsigned
  have visible : isSpace c = false :=
    visible_of_accepts (by decide) (written.taken c (by simp [shape]))
  have skipped : skipSpace (written.print ++ rest) =
      written.name ++ (written.value.elim [] QuotedValue.print ++ rest) := by
    rw [WrittenAttribute.print, List.append_assoc, List.append_assoc, shape, List.cons_append,
      written.gap.skip visible]
  have refused := fun c first => (stops c first).2
  unfold attribute?
  simp only [skipped, takeWhile_append_stop written.taken refused,
    dropWhile_append_stop written.taken refused, passed]
  split
  · exact absurd ‹_› written.named
  · rfl

end Tokens

section Nodes

variable {rest : List Char}

private theorem endsNames_tagEnd (gap : Blanks) (selfClosing : Bool) (rest : List Char) :
    ∀ c ∈ (tagEnd gap selfClosing ++ rest).head?, EndsNames c := by
  rw [tagEnd, List.append_assoc]
  apply gap.endsNames
  cases selfClosing with
  | false => exact EndsNames.head ⟨by decide, by decide⟩ _
  | true => exact EndsNames.head ⟨by decide, by decide⟩ _

private theorem endsNames_attributes (attributes : List WrittenAttribute)
    (ends : ∀ c ∈ rest.head?, EndsNames c) :
    ∀ c ∈ (attributes.flatMap WrittenAttribute.print ++ rest).head?, EndsNames c := by
  cases attributes with
  | nil => exact ends
  | cons written attributes =>
    obtain ⟨blank, others, shape⟩ := List.exists_cons_of_ne_nil written.apart
    intro c first
    rw [List.flatMap_cons, WrittenAttribute.print, shape] at first
    obtain rfl : blank = c := Option.some.inj first
    exact endsNames_of_space (written.gap.clear blank (by simp [shape]))

theorem readsEnd_tagEnd (gap : Blanks) (selfClosing : Bool) (rest : List Char) :
    ReadsEnd (tagEnd gap selfClosing ++ rest) [] rest := by
  cases selfClosing with
  | false =>
    have visible : skipSpace (tagEnd gap false ++ rest) = '>' :: rest := by
      simpa [tagEnd] using gap.skip (by decide) rest
    have unslashed : token? "/" (tagEnd gap false ++ rest) = none := by
      simp [token?, visible, after?]
    refine .bracket (attribute?_eq_none_of visible (by decide)) ?_
    rw [unslashed]
    exact token?_eq_some_iff.mpr visible
  | true =>
    have visible : skipSpace (tagEnd gap true ++ rest) = '/' :: '>' :: rest := by
      simpa [tagEnd] using gap.skip (by decide) ('>' :: rest)
    have slashed : token? "/" (tagEnd gap true ++ rest) = some ('>' :: rest) :=
      token?_eq_some_iff.mpr visible
    refine .bracket (attribute?_eq_none_of visible (by decide)) ?_
    rw [slashed]
    exact token?_eq_some_iff.mpr (skipSpace_cons (by decide) rest)

theorem readsEnd_attributes (attributes : List WrittenAttribute) (gap : Blanks)
    (selfClosing : Bool) (rest : List Char) :
    ReadsEnd (attributes.flatMap WrittenAttribute.print ++ (tagEnd gap selfClosing ++ rest))
      (attributes.map WrittenAttribute.name) rest := by
  induction attributes with
  | nil => exact readsEnd_tagEnd gap selfClosing rest
  | cons written attributes ih =>
    have ends := endsNames_attributes attributes (endsNames_tagEnd gap selfClosing rest)
    rw [List.flatMap_cons, List.append_assoc]
    exact .named (written.read ends (token?_equals_eq_none ih)) ih

private theorem node?_comment {content : List Char} (unended : ¬ "-->".toList <:+: content)
    (rest : List Char) :
    node? ((Written.comment content unended).print ++ rest) = some (.comment, rest) := by
  have opened : token? "<!--" ((Written.comment content unended).print ++ rest) =
      some (content ++ ("-->".toList ++ rest)) := by
    rw [token?_eq_some_iff, Written.print, List.append_assoc, List.append_assoc]
    exact skipSpace_cons (by decide) _
  rw [node?, comment?, opened, Option.bind_some, commentEnd?_append unended rest]
  rfl

theorem node?_close (name : TagName) (gap : Blanks) (rest : List Char) :
    node? ((Written.close name gap).print ++ rest) = some (.close name.print, rest) := by
  have visible : skipSpace ((Written.close name gap).print ++ rest) =
      '<' :: '/' :: (name.print ++ (gap.text ++ '>' :: rest)) := by
    rw [← skipSpace_cons (by decide : isSpace '<' = false)]
    simp [Written.print]
  have ends : ∀ c ∈ (gap.text ++ '>' :: rest).head?, EndsNames c :=
    gap.endsNames (EndsNames.head ⟨by decide, by decide⟩ rest)
  have close : closeTag? ((Written.close name gap).print ++ rest) = some (.close name.print, rest) :=
    closeTag?_eq_some_iff.mpr ⟨_, _, _, token?_eq_some_iff.mpr visible, name.read ends,
      token?_eq_some_iff.mpr (gap.skip (by decide) rest), rfl⟩
  rw [node?, comment?_eq_none visible (by simp), close]
  rfl

theorem node?_tag (name : TagName) (attributes : List WrittenAttribute) (gap : Blanks)
    (selfClosing : Bool) (rest : List Char) :
    node? ((Written.tag name attributes gap selfClosing).print ++ rest) =
      some (.tag name.print (attributes.map WrittenAttribute.name), rest) := by
  have visible : skipSpace ((Written.tag name attributes gap selfClosing).print ++ rest) =
      '<' :: (name.print ++
        (attributes.flatMap WrittenAttribute.print ++ (tagEnd gap selfClosing ++ rest))) := by
    refine (skipSpace_cons (by decide) _).trans ?_
    simp
  have ends := endsNames_attributes attributes (endsNames_tagEnd gap selfClosing rest)
  have named := name.read ends
  obtain ⟨noComment, noClose⟩ := head?_of_tagName? named
  have opening : openTag? ((Written.tag name attributes gap selfClosing).print ++ rest) =
      some (.tag name.print (attributes.map WrittenAttribute.name), rest) :=
    openTag?_eq_some_iff.mpr ⟨_, _, _, _, token?_eq_some_iff.mpr visible, named,
      readsEnd_attributes attributes gap selfClosing rest, rfl⟩
  rw [node?, comment?_eq_none visible noComment, closeTag?_eq_none visible noClose, opening]
  rfl

/-- A written sequence is read as pieces that open its tags. -/
theorem readsAs_written (nodes : List Written) :
    ∃ found, ReadsAs (nodes.flatMap Written.print) found ∧
      tagsOf found = nodes.filterMap Written.tag? := by
  induction nodes with
  | nil => exact ⟨[], .done rfl, rfl⟩
  | cons written nodes ih =>
    obtain ⟨found, reads, tags⟩ := ih
    rw [List.flatMap_cons]
    have marked {node : Node} (nonempty : written.print ≠ [])
        (read : node? (written.print ++ nodes.flatMap Written.print) =
          some (node, nodes.flatMap Written.print)) (same : node.tag? = written.tag?) :
        ∃ found, ReadsAs (written.print ++ nodes.flatMap Written.print) found ∧
          tagsOf found = (written :: nodes).filterMap Written.tag? := by
      refine ⟨_, .piece nonempty read reads, ?_⟩
      rw [tagsOf, List.filterMap_cons, List.filterMap_cons, same, ← tags]
      rfl
    cases written with
    | comment content unended =>
      exact marked (by simp [Written.print]) (node?_comment unended _) rfl
    | close name gap => exact marked (by simp [Written.print]) (node?_close name gap _) rfl
    | text content plain =>
      obtain ⟨others, joined, same⟩ := reads.prepend plain
      exact ⟨others, joined, same.trans tags⟩
    | tag name attributes gap selfClosing =>
      exact marked (by simp [Written.print]) (node?_tag name attributes gap selfClosing _) rfl

/-- A written sequence uses the elements and the attributes of its opening tags and nothing else. -/
theorem written_read_back (nodes : List Written) :
    symbols? (String.ofList (nodes.flatMap Written.print)) = some {
      elements := sortedSet ((nodes.filterMap Written.tag?).map fun tag => String.ofList tag.1)
      attributes := sortedSet ((nodes.filterMap Written.tag?).flatMap fun tag =>
        tag.2.map fun name => String.ofList (plainAttribute name)) } := by
  obtain ⟨found, reads, tags⟩ := readsAs_written nodes
  rw [← tags]
  exact symbols?_of_readsAs (by rwa [String.toList_ofList])

example :
    (Written.tag ⟨'A', "pp-list".toList, by decide, by decide⟩
      [⟨⟨[' '], by decide⟩, "[items]".toList,
        some ⟨⟨[], by decide⟩, ⟨[], by decide⟩, '"', "a <b>".toList, by decide, by decide⟩,
        by decide, by decide, by decide⟩] ⟨[], by decide⟩ true).print =
      "<App-list [items]=\"a <b>\"/>".toList := rfl

end Nodes

end Blueprint.Markup
