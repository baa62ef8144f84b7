import Blueprint.Proofs.Markup.BlockRules
import Blueprint.Proofs.Markup.NodeSequences

namespace Blueprint.Markup

open Blueprint.Text
open Blueprint.Markup.Blocks

deriving instance DecidableEq for Node

/-- The elements that stand for control blocks. -/
def blockNames : List (List Char) := Block.all.map fun block => block.name.toList

section Strays

variable {text rest : List Char}

theorem dropWhile_append_bracket {accepts : Char → Bool} (refused : accepts '<' = false)
    (bracket : ∀ c ∈ rest.head?, c = '<') :
    (text ++ rest).dropWhile accepts = text.dropWhile accepts ++ rest := by
  induction text with
  | nil =>
    cases rest with
    | nil => rfl
    | cons c rest => simp [bracket c rfl, refused]
  | cons c text ih =>
    simp only [List.cons_append, List.dropWhile_cons, ih]
    split <;> rfl

theorem skipSpace_append_bracket (bracket : ∀ c ∈ rest.head?, c = '<') :
    skipSpace (text ++ rest) = skipSpace text ++ rest :=
  dropWhile_append_bracket (by decide) bracket

theorem skipSpace_subset : skipSpace text ⊆ text := (List.dropWhile_suffix _).subset

theorem token?_append_bracket {token : String} {sign : Char} {behind : List Char}
    (single : token.toList = [sign]) (other : sign ≠ '<') (bracket : ∀ c ∈ rest.head?, c = '<')
    (read : token? token (text ++ rest) = some behind) :
    ∃ tail, skipSpace text = sign :: tail ∧ behind = tail ++ rest := by
  have visible := token?_eq_some_iff.mp read
  rw [skipSpace_append_bracket bracket, single] at visible
  cases shape : skipSpace text with
  | nil =>
    rw [shape] at visible
    exact absurd (bracket sign (by rw [← List.nil_append rest, visible]; rfl)) other
  | cons c tail =>
    rw [shape] at visible
    obtain ⟨rfl, rest⟩ := List.cons.inj visible
    exact ⟨tail, rfl, rest.symm⟩

/-- A value without quotes ends before a bracket. -/
theorem afterValue?_append_bracket {behind : List Char}
    (unquoted : ∀ c ∈ text, c ≠ '"' ∧ c ≠ '\'') (bracket : ∀ c ∈ rest.head?, c = '<')
    (read : afterValue? (text ++ rest) = some behind) :
    ∃ inner, inner ⊆ text ∧ behind = inner ++ rest := by
  have here : skipSpace (text ++ rest) = skipSpace text ++ rest :=
    skipSpace_append_bracket bracket
  cases shape : skipSpace text with
  | nil =>
    rw [shape, List.nil_append] at here
    cases rest with
    | nil => simp [afterValue?, shape] at read
    | cons c rest =>
      obtain rfl := bracket c rfl
      rw [afterValue?_cons here] at read
      simp [(by decide : isBareValueChar '<' = false)] at read
  | cons c tail =>
    have member : c ∈ text := skipSpace_subset (by rw [shape]; exact List.mem_cons_self)
    have within : tail ⊆ text := fun d inside =>
      skipSpace_subset (by rw [shape]; exact List.mem_cons_of_mem c inside)
    rw [shape, List.cons_append] at here
    rw [afterValue?_cons here, if_neg (by simp [unquoted c member]), Option.none_or] at read
    split at read
    · cases read
      exact ⟨_, List.Subset.trans (List.dropWhile_suffix _).subset within,
        dropWhile_append_bracket (by decide) bracket⟩
    · cases read

theorem tagName?_append_bracket {name behind : List Char} (bracket : ∀ c ∈ rest.head?, c = '<')
    (read : tagName? (text ++ rest) = some (name, behind)) :
    (∃ c ∈ (skipSpace text).head?, c.isAlpha = true) ∧
      ∃ inner, inner ⊆ text ∧ behind = inner ++ rest := by
  unfold tagName? at read
  rw [skipSpace_append_bracket bracket] at read
  cases shape : skipSpace text with
  | nil =>
    rw [shape, List.nil_append] at read
    cases rest with
    | nil => cases read
    | cons c rest =>
      obtain rfl := bracket c rfl
      simp at read
  | cons c tail =>
    rw [shape] at read
    simp only [List.cons_append] at read
    split at read
    · rename_i letter
      obtain ⟨_, rfl⟩ := Prod.mk.inj (Option.some.inj read)
      refine ⟨⟨c, rfl, letter⟩, tail.dropWhile isTagChar, ?_,
        dropWhile_append_bracket (by decide) bracket⟩
      refine List.Subset.trans (List.dropWhile_suffix _).subset fun d member => skipSpace_subset ?_
      rw [shape]
      exact List.mem_cons_of_mem c member
    · cases read

theorem attribute?_append_bracket {name behind : List Char}
    (unquoted : ∀ c ∈ text, c ≠ '"' ∧ c ≠ '\'') (bracket : ∀ c ∈ rest.head?, c = '<')
    (read : attribute? (text ++ rest) = some (name, behind)) :
    ∃ inner, inner ⊆ text ∧ behind = inner ++ rest := by
  have inside : (skipSpace text).dropWhile isAttributeChar ⊆ text :=
    List.Subset.trans (List.dropWhile_suffix _).subset skipSpace_subset
  unfold attribute? at read
  simp only [skipSpace_append_bracket bracket,
    dropWhile_append_bracket (by decide : isAttributeChar '<' = false) bracket] at read
  split at read
  · cases read
  · obtain ⟨_, after⟩ := Prod.mk.inj (Option.some.inj read)
    cases valued : (token? "=" ((skipSpace text).dropWhile isAttributeChar ++ rest)).bind
        afterValue? with
    | none =>
      rw [valued] at after
      exact ⟨_, inside, after.symm⟩
    | some found =>
      rw [valued] at after
      obtain ⟨value, sign, read⟩ := Option.bind_eq_some_iff.mp valued
      obtain ⟨tail, shape, rfl⟩ := token?_append_bracket (rfl : "=".toList = ['=']) (by decide) bracket sign
      have within : tail ⊆ text := fun c member =>
        inside (skipSpace_subset (by rw [shape]; exact List.mem_cons_of_mem _ member))
      obtain ⟨inner, part, rfl⟩ :=
        afterValue?_append_bracket (fun c member => unquoted c (within member)) bracket read
      exact ⟨inner, List.Subset.trans part within, after.symm⟩

/-- What cannot close a tag: no bracket, and no quote that could enclose one. -/
def ClosesNothing (text : List Char) : Prop := ∀ c ∈ text, c ≠ '>' ∧ c ≠ '"' ∧ c ≠ '\''

/-- No tag ends in a text that closes nothing. -/
theorem not_readsEnd {names : List (List Char)} {behind : List Char} (open_ : ClosesNothing text)
    (bracket : ∀ c ∈ rest.head?, c = '<') : ¬ ReadsEnd (text ++ rest) names behind := by
  intro reads
  generalize whole : text ++ rest = all at reads
  induction reads generalizing text with
  | bracket _ ends =>
    subst whole
    have closes {text : List Char} (open_ : ClosesNothing text) {behind : List Char} :
        token? ">" (text ++ rest) ≠ some behind := by
      intro read
      obtain ⟨tail, shape, _⟩ := token?_append_bracket (rfl : ">".toList = ['>']) (by decide) bracket read
      exact (open_ '>' (skipSpace_subset (by rw [shape]; exact List.mem_cons_self))).1 rfl
    cases slashed : token? "/" (text ++ rest) with
    | none =>
      rw [slashed] at ends
      exact closes open_ ends
    | some found =>
      rw [slashed] at ends
      obtain ⟨tail, shape, rfl⟩ := token?_append_bracket (rfl : "/".toList = ['/']) (by decide) bracket slashed
      exact closes (fun c member => open_ c (skipSpace_subset
        (by rw [shape]; exact List.mem_cons_of_mem _ member))) ends
  | named found _ ih =>
    subst whole
    obtain ⟨inner, within, rfl⟩ :=
      attribute?_append_bracket (fun c member => (open_ c member).2) bracket found
    exact ih (fun c member => open_ c (within member)) rfl

/-- A bracket in front of the text opens neither a tag nor a comment, whatever bracket comes next. -/
def OpensNothing (text : List Char) : Prop :=
  isStray text = true ∧
    ((∀ c ∈ (skipSpace text).head?, c.isAlpha = false) ∨ ClosesNothing text)

theorem head_of_append_bracket {c : Char} {tail : List Char} (other : c ≠ '<')
    (bracket : ∀ c ∈ rest.head?, c = '<') (same : text ++ rest = c :: tail) :
    ∃ inner, text = c :: inner ∧ tail = inner ++ rest := by
  rcases List.append_eq_cons_iff.mp same with ⟨_, first⟩ | ⟨inner, split, later⟩
  · exact absurd (bracket c (by rw [first]; rfl)) other
  · exact ⟨inner, split, later⟩

theorem isStray_append_bracket (stray : isStray text = true)
    (bracket : ∀ c ∈ rest.head?, c = '<') : isStray (text ++ rest) = true := by
  generalize whole : text ++ rest = all
  fun_cases isStray all with
  | case1 =>
    obtain ⟨_, rfl, _⟩ := head_of_append_bracket (by decide) bracket whole
    cases stray
  | case2 =>
    obtain ⟨_, rfl, second⟩ := head_of_append_bracket (by decide) bracket whole
    obtain ⟨_, rfl, third⟩ := head_of_append_bracket (by decide) bracket second.symm
    obtain ⟨_, rfl, _⟩ := head_of_append_bracket (by decide) bracket third.symm
    cases stray
  | case3 c tail =>
    by_cases opening : c = '<'
    · rw [opening]
      rfl
    · obtain ⟨inner, rfl, _⟩ := head_of_append_bracket opening bracket whole
      unfold isStray at stray
      split at stray
      · cases stray
      · cases stray
      · rename_i same
        cases same
        exact stray
      · rename_i same
        cases same
  | case4 => rfl

/-- A bracket that opens nothing is a node of its own. -/
theorem node?_stray (opens : OpensNothing (text.takeWhile (· != '<'))) :
    node? ('<' :: text) = some (.text, text) := by
  obtain ⟨split, _, stops⟩ := exists_run (· != '<') text
  generalize text.takeWhile (· != '<') = front at *
  generalize text.dropWhile (· != '<') = rest at *
  have bracket : ∀ c ∈ rest.head?, c = '<' := fun c first => by simpa using stops c first
  subst split
  have stray := isStray_append_bracket opens.1 bracket
  have visible : skipSpace ('<' :: (front ++ rest)) = '<' :: (front ++ rest) := rfl
  have comment : comment? ('<' :: (front ++ rest)) = none := by
    cases opened : token? "<!--" ('<' :: (front ++ rest)) with
    | none => simp [comment?, opened]
    | some behind =>
      have shape := token?_eq_some_iff.mp opened
      rw [visible] at shape
      rw [(List.cons.inj shape).2] at stray
      cases stray
  have close : closeTag? ('<' :: (front ++ rest)) = none := by
    refine closeTag?_eq_none visible fun slash => ?_
    obtain ⟨tail, shape⟩ := List.head?_eq_some_iff.mp slash
    rw [shape] at stray
    cases stray
  have opening : openTag? ('<' :: (front ++ rest)) = none := by
    cases read : openTag? ('<' :: (front ++ rest)) with
    | none => rfl
    | some found =>
      obtain ⟨behind, name, middle, names, opened, named, ends, _⟩ := openTag?_eq_some_iff.mp read
      obtain rfl : front ++ rest = behind := (List.cons.inj (token?_eq_some_iff.mp opened)).2
      obtain ⟨⟨c, first, letter⟩, inner, within, rfl⟩ := tagName?_append_bracket bracket named
      rcases opens.2 with calm | open_
      · rw [calm c first] at letter
        cases letter
      · exact absurd ends (not_readsEnd (fun c member => open_ c (within member)) bracket)
  rw [node?, comment, close, opening]
  simp [text?, visible, stray]

end Strays

section BlockTags

variable {rest : List Char}

theorem isTagChar_of_isBlank {c : Char} (blank : isBlank c = true) : isTagChar c = false := by
  have distinct (sign : Char) (visible : isBlank sign = false) : c ≠ sign := by
    rintro rfl
    rw [blank] at visible
    cases visible
  simp [isTagChar, isWord_of_isBlank blank, distinct ':' (by decide), distinct '.' (by decide),
    distinct '-' (by decide)]

theorem isTagChar_of_endsName {c : Char} (ends : endsName c = true) : isTagChar c = false := by
  by_cases blank : isBlank c = true
  · exact isTagChar_of_isBlank blank
  · have sign : c = '/' ∨ c = '>' := by simpa [endsName, blank] using ends
    rcases sign with rfl | rfl <;> decide

theorem tagName?_block (block : Block) {tail : List Char}
    (stops : ∀ c ∈ tail.head?, isTagChar c = false) :
    tagName? (block.name.toList ++ tail) = some (block.name.toList, tail) := by
  have letters : ∀ block : Block, ∃ first others, block.name.toList = first :: others ∧
      first.isAlpha = true ∧ ∀ c ∈ others, isTagChar c = true := by
    intro block
    cases block <;> exact ⟨_, _, rfl, by decide, by decide⟩
  obtain ⟨first, others, name, letter, taken⟩ := letters block
  have visible : skipSpace ([] ++ first :: (others ++ tail)) = first :: (others ++ tail) :=
    skipSpace_append_cons (by simp) (visible_of_accepts (by decide) letter)
  rw [List.nil_append] at visible
  rw [name, tagName?, List.cons_append]
  simp only [visible, letter, ↓reduceIte, takeWhile_append_stop taken stops,
    dropWhile_append_stop taken stops]

theorem openTag?_of_node? {text rest name : List Char} {names : List (List Char)}
    (read : node? text = some (.tag name names, rest)) :
    openTag? text = some (.tag name names, rest) := by
  unfold node? at read
  simp only [Option.or_eq_some_iff] at read
  rcases read with comment | ⟨_, close | ⟨_, opening | ⟨_, plain⟩⟩⟩
  · obtain ⟨_, _, same⟩ := Option.map_eq_some_iff.mp comment
    cases same
  · obtain ⟨_, _, _, _, _, _, same⟩ := closeTag?_eq_some_iff.mp close
    cases same
  · exact opening
  · unfold text? at plain
    split at plain
    · cases plain
    · split at plain
      · cases plain
      · cases plain
    · cases plain

theorem name_of_readTag {body name middle : List Char} {closes : Bool} {block : Block}
    (read : readTag body = (closes, block.name.toList))
    (named : tagName? body = some (name, middle)) : name = block.name.toList := by
  unfold readTag at read
  split at read
  · exact absurd rfl (head?_of_tagName? named).2
  · obtain ⟨split, _, stops⟩ := exists_run (!endsName ·) body
    rw [(Prod.mk.inj read).2] at split
    have free : ∀ c ∈ (body.dropWhile (!endsName ·)).head?, isTagChar c = false :=
      fun c first => isTagChar_of_endsName (by simpa using stops c first)
    rw [split, tagName?_block block free] at named
    exact (Prod.mk.inj (Option.some.inj named)).1.symm

/-- A block tag opens no element but that of its block. -/
theorem element?_of_rule {form : TagForm} {text rest : List Char} {found : Found (List Char)}
    {node : Node} (taken : form.rule (skipSpace text) = some found)
    (read : node? text = some (node, rest)) :
    ∀ name ∈ node.element?, name = form.block.name.toList := by
  intro name opened
  cases node with
  | tag other names =>
    obtain rfl : other = name := Option.some.inj opened
    obtain ⟨behind, found, middle, _, bracket, named, _, same⟩ :=
      openTag?_eq_some_iff.mp (openTag?_of_node? read)
    cases same
    obtain ⟨body, shape, tag⟩ := starts_of_rule taken
    rw [token?_eq_some_iff.mp bracket] at shape
    obtain rfl : behind = body := (List.cons.inj shape).2
    exact name_of_readTag tag named
  | comment | close | text => cases opened

end BlockTags

/-- No bracket of a text opens anything in front of what stands behind the text. -/
def CalmBefore (text behind : List Char) : Prop :=
  ∀ front body, text = front ++ '<' :: body →
    OpensNothing ((body ++ behind).takeWhile (· != '<'))

instance (text : List Char) : Decidable (ClosesNothing text) :=
  inferInstanceAs (Decidable (∀ c ∈ text, c ≠ '>' ∧ c ≠ '"' ∧ c ≠ '\''))

instance (text : List Char) : Decidable (OpensNothing text) :=
  inferInstanceAs (Decidable (isStray text = true ∧
    ((∀ c ∈ (skipSpace text).head?, c.isAlpha = false) ∨ ClosesNothing text)))

instance (text behind : List Char) : Decidable (CalmBefore text behind) :=
  decidable_of_iff (∀ body ∈ behindAll ['<'] text,
    OpensNothing ((body ++ behind).takeWhile (· != '<'))) forall_behindAll

/-- A piece is in order if it is a block tag that one rule takes whole and that leaves nothing for
the others, or if it is nothing that a rule could take. What becomes text opens nothing. -/
inductive Piece.InOrder (piece : Piece) : Prop where
  | block {form : TagForm} {target : List Char}
      (taken : form.rule (skipSpace piece.text) = some ⟨target, (skipSpace piece.text).length⟩)
      (within : Unnamed (skipSpace piece.text).tail) (instead : Unnamed target)
      (calm : CalmBefore target (convertBlocks piece.behind))
  | other (unnamed : Unnamed piece.text) (element : ∀ name ∈ piece.node.element?, name ∉ blockNames)
      (calm : piece.node = .text → CalmBefore piece.text (convertBlocks piece.behind))

theorem inOrder_iff {piece : Piece} : piece.InOrder ↔
    (∃ form ∈ TagForm.all, ∃ found ∈ form.rule (skipSpace piece.text),
      found.size = (skipSpace piece.text).length ∧ Unnamed (skipSpace piece.text).tail ∧
        Unnamed found.value ∧ CalmBefore found.value (convertBlocks piece.behind)) ∨
    Unnamed piece.text ∧ (∀ name ∈ piece.node.element?, name ∉ blockNames) ∧
      (piece.node = .text → CalmBefore piece.text (convertBlocks piece.behind)) := by
  constructor
  · rintro (⟨taken, within, instead, calm⟩ | ⟨unnamed, element, calm⟩)
    · exact Or.inl ⟨_, TagForm.mem_all _, _, taken, rfl, within, instead, calm⟩
    · exact Or.inr ⟨unnamed, element, calm⟩
  · rintro (⟨form, _, ⟨target, _⟩, taken, rfl, within, instead, calm⟩ | ⟨unnamed, element, calm⟩)
    · exact .block taken within instead calm
    · exact .other unnamed element calm

instance (piece : Piece) : Decidable piece.InOrder := decidable_of_iff _ inOrder_iff.symm

section Orders

variable {text rest part : List Char} {node : Node} {found : List Piece} {parts : List Part}

theorem last_mem {c d : Char} {front body : List Char} (other : c ≠ d)
    (split : text ++ [c] = front ++ d :: body) : c ∈ body := by
  have last := congrArg List.getLast? split
  rw [List.getLast?_concat, List.getLast?_append, List.getLast?_cons] at last
  cases shape : body.getLast? with
  | none => simp [shape, other] at last
  | some e =>
    obtain rfl : c = e := by simpa [shape] using last
    exact List.mem_of_getLast? shape

/-- Behind a bracket that opens nothing stands neither a slash nor a letter. -/
theorem head?_of_opensNothing (opens : OpensNothing (text.takeWhile (· != '<'))) :
    ∀ c ∈ text.head?, c ≠ '/' ∧ c.isAlpha = false := by
  intro c first
  obtain ⟨tail, rfl⟩ := List.head?_eq_some_iff.mp first
  by_cases bracket : c = '<'
  · subst bracket
    exact ⟨by decide, by decide⟩
  · obtain ⟨stray, _⟩ := opens
    rw [List.takeWhile_cons_of_pos (by simpa using bracket)] at stray
    refine ⟨?_, ?_⟩
    · rintro rfl
      cases stray
    · unfold isStray at stray
      split at stray
      · cases stray
      · cases stray
      · rename_i same
        cases same
        simpa using stray
      · rename_i same
        cases same

/-- A comment or a tag: every name in it ends before its own end. -/
theorem Marked.nameEnds (marked : Marked part node) {front body : List Char}
    (split : part = front ++ '<' :: body) : nameEnds body = true := by
  obtain ⟨inner, shape⟩ := marked.shape
  obtain ⟨spaces, _, whole, _⟩ := exists_spaces part
  have ending : (spaces ++ '<' :: inner) ++ ['>'] = front ++ '<' :: body := by
    rw [← split, whole, shape]
    simp
  exact nameEnds_of_mem (last_mem (by decide) ending) (by decide) (by decide)

theorem IsStray.body_eq {front body : List Char} (stray : IsStray part)
    (split : part = front ++ '<' :: body) : body = [] := by
  obtain ⟨spaces, blank, rfl⟩ := stray
  rcases List.append_eq_append_iff.mp split with ⟨inner, _, same⟩ | ⟨inner, rfl, same⟩
  · cases inner with
    | nil => exact (List.cons.inj same).2.symm
    | cons c inner => simp at same
  · cases inner with
    | nil => exact (List.cons.inj same).2
    | cons c inner =>
      obtain ⟨rfl, _⟩ := List.cons.inj same
      exact absurd (blank '<' (by simp)) (by decide)

/-- A piece that conversion keeps. -/
structure Piece.Stays (piece : Piece) (behind : List Part) : Prop where
  kept : KeptBefore piece.text behind
  element : ∀ name ∈ piece.node.element?, name ∉ blockNames
  reads : Marked piece.text piece.node ∨
    piece.node = .text ∧ CalmBefore piece.text (behind.flatMap Part.target)

/-- A block tag behind blanks and the text to which it gives way. -/
structure Piece.Gives (piece : Piece) (spaces : List Char) (form : TagForm)
    (source target : List Char) : Prop where
  blank : ∀ c ∈ spaces, isSpace c = true
  split : piece.text = spaces ++ source
  closes : ∃ inner, source = '<' :: (inner ++ ['>'])
  rewrites : Rewrites form source target
  framed : Framed target
  calm : CalmBefore target (convertBlocks piece.behind)
  element : ∀ name ∈ piece.node.element?, name ∈ blockNames

theorem marked_of_rule {form : TagForm} {found : Found (List Char)}
    (taken : form.rule (skipSpace part) = some found)
    (read : node? (part ++ rest) = some (node, rest)) : Marked part node := by
  obtain ⟨body, shape, tag⟩ := starts_of_rule taken
  obtain ⟨part', _, split, kind⟩ := node?_cases read
  obtain rfl : part = part' := List.append_cancel_right split
  rcases kind with marked | ⟨_, ⟨⟨spaces, blank, stray⟩, _⟩ | ⟨plain, _⟩⟩
  · exact marked
  · rw [stray, skipSpace_append_cons blank (by decide)] at shape
    obtain rfl := (List.cons.inj shape).2
    obtain ⟨c, first, _⟩ := head?_of_readTag (congrArg Prod.snd tag)
    cases first
  · exact absurd (skipSpace_subset (shape ▸ List.mem_cons_self)) plain

theorem Piece.InOrder.stays_or_gives (order : (Piece.mk node part rest).InOrder)
    (read : node? (part ++ rest) = some (node, rest)) (settled : Settled parts)
    (split : rest = parts.flatMap Part.source) : (Piece.mk node part rest).Stays parts ∨
      ∃ spaces form source target, (Piece.mk node part rest).Gives spaces form source target := by
  have converted : convertBlocks rest = parts.flatMap Part.target := by
    rw [split, convertBlocks_parts settled]
  cases order with
  | @block form target taken within instead calm =>
    have marked := marked_of_rule taken read
    obtain ⟨inner, shape⟩ := marked.shape
    obtain ⟨spaces, blank, whole, _⟩ := exists_spaces part
    have framed := framed_of_rule taken
    refine Or.inr ⟨spaces, form, skipSpace part, target, blank, whole, ⟨inner, shape⟩,
      ⟨rule_anywhere taken, ⟨within, ?_⟩, instead, framed.spaced⟩, framed, calm, ?_⟩
    · intro front body split
      have inside : part = (spaces ++ '<' :: front) ++ '<' :: body := by
        rw [shape] at split
        rw [whole, shape]
        simpa using split
      exact marked.nameEnds inside
    · have visible : skipSpace (part ++ rest) = skipSpace part ++ rest :=
        skipSpace_append_of_visible (by rw [shape]; exact List.cons_ne_nil _ _)
      intro name opened
      rw [element?_of_rule (visible ▸ rule_anywhere taken rest) read name opened]
      exact List.mem_map_of_mem form.block.mem_all
  | other unnamed element calm =>
    obtain ⟨part', _, same, kind⟩ := node?_cases read
    obtain rfl : part = part' := List.append_cancel_right same
    rw [converted] at calm
    rcases kind with marked | ⟨isText, ⟨stray, _⟩ | ⟨plain, _⟩⟩
    · exact Or.inl ⟨⟨unnamed, fun _ _ split => Or.inl (marked.nameEnds split)⟩, element,
        Or.inl marked⟩
    · refine Or.inl ⟨⟨unnamed, fun front body split => Or.inr ?_⟩, element, Or.inr ⟨isText, calm isText⟩⟩
      obtain rfl := stray.body_eq split
      have opens := calm isText front [] split
      exact ⟨rfl, head?_of_opensNothing opens⟩
    · exact Or.inl ⟨keptBefore_of_plain plain, element, Or.inr ⟨isText, calm isText⟩⟩

theorem keptBefore_alone (kept : KeptBefore text parts) : KeptBefore text [] := by
  refine ⟨kept.1, fun front body split => ?_⟩
  rcases kept.2 front body split with ended | ⟨empty, _⟩
  · exact Or.inl ended
  · exact Or.inr ⟨empty, by simp⟩

theorem Piece.Gives.plain {piece : Piece} {spaces source target : List Char} {form : TagForm}
    (gives : piece.Gives spaces form source target) : '<' ∉ spaces :=
  fun member => absurd (gives.blank '<' member) (by decide)

theorem Piece.Gives.settled {piece : Piece} {spaces source target : List Char} {form : TagForm}
    (gives : piece.Gives spaces form source target) (settled : Settled parts) :
    Settled (.kept spaces :: .block form source target :: parts) :=
  ⟨keptBefore_of_plain gives.plain, gives.rewrites, settled⟩

/-- Text of which no bracket opens anything joins what is read behind it. -/
theorem ReadsAs.behind {front : List Char} (calm : CalmBefore front text)
    (reads : ReadsAs text found) :
    ∃ others, ReadsAs (front ++ text) others ∧ elementsOf others = elementsOf found := by
  induction front with
  | nil => exact ⟨found, reads, rfl⟩
  | cons c front ih =>
    obtain ⟨others, later, same⟩ := ih fun lead body split => calm (c :: lead) body (by rw [split]; rfl)
    by_cases bracket : c = '<'
    · subst bracket
      have read : node? (['<'] ++ (front ++ text)) = some (.text, front ++ text) :=
        node?_stray (calm [] front rfl)
      have whole : ReadsAs (['<'] ++ (front ++ text)) (⟨.text, ['<'], front ++ text⟩ :: others) :=
        .piece (List.cons_ne_nil _ _) read later
      exact ⟨_, whole, same⟩
    · have plain : '<' ∉ [c] := by simpa using Ne.symm bracket
      obtain ⟨joined, read, tags⟩ := later.prepend plain
      exact ⟨joined, read, (elementsOf_congr tags).trans same⟩

private theorem filter_of_element {element : Option (List Char)} {accepts : List Char → Bool}
    (accepted : ∀ name ∈ element, accepts name = true) :
    element.toList.filter accepts = element.toList :=
  List.filter_eq_self.mpr fun name member => accepted name (Option.mem_toList.mp member)

/-- A template in order falls into parts that the passes settle, and the converted template opens
the same elements but those of its blocks. -/
theorem exists_parts (reads : ReadsAs text found) (order : ∀ piece ∈ found, piece.InOrder) :
    ∃ parts, Settled parts ∧ text = parts.flatMap Part.source ∧
      ∃ others, ReadsAs (parts.flatMap Part.target) others ∧
        elementsOf others = (elementsOf found).filter (· ∉ blockNames) := by
  induction reads with
  | @done text blank =>
    exact ⟨[.kept text], ⟨keptBefore_of_plain (plain_of_skipped blank), trivial⟩,
      by simp [Part.source], [], .done (by simpa [Part.target] using blank), rfl⟩
  | @piece part rest node others nonempty read later ih =>
    obtain ⟨parts, settled, split, again, rereads, names⟩ :=
      ih fun piece member => order piece (List.mem_cons_of_mem _ member)
    rcases (order _ List.mem_cons_self).stays_or_gives read settled split with
      ⟨kept, element, marked | ⟨isText, calm⟩⟩ | ⟨spaces, form, source, target, gives⟩
    · refine ⟨.kept part :: parts, ⟨kept, settled⟩, by rw [split]; rfl,
        ⟨node, part, parts.flatMap Part.target⟩ :: again,
        .piece nonempty (marked.reads _) rereads, ?_⟩
      rw [elementsOf_cons, elementsOf_cons, List.filter_append, names,
        filter_of_element fun name opened => by simpa using element name opened]
    · obtain ⟨joined, whole, same⟩ := rereads.behind calm
      refine ⟨.kept part :: parts, ⟨kept, settled⟩, by rw [split]; rfl, joined, whole, ?_⟩
      rw [same, names, elementsOf_cons]
      obtain rfl : node = .text := isText
      rfl
    · have calm := gives.calm
      rw [split, convertBlocks_parts settled] at calm
      obtain ⟨joined, whole, same⟩ := rereads.behind calm
      obtain ⟨outer, all, still⟩ := whole.prepend gives.plain
      refine ⟨_, gives.settled settled, ?_, outer, all, ?_⟩
      · have shape : part = spaces ++ source := gives.split
        rw [split, shape, List.append_assoc]
        rfl
      · rw [elementsOf_congr still, same, names, elementsOf_cons, List.filter_append]
        have dropped : node.element?.toList.filter (· ∉ blockNames) = [] := by
          have element := gives.element
          cases opened : node.element? with
          | none => rfl
          | some name => simpa using element name opened
        rw [dropped, List.nil_append]

end Orders

end Blueprint.Markup
