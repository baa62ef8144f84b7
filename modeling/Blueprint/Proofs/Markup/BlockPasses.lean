import Blueprint.Proofs.Markup.BlockTag

/-!
The passes of the conversion. A template is a run of block tags and of parts that are kept; a kept
part may hold brackets, but none in front of a block's name. The rules are applied one after the
other to what the earlier rules left, and together they replace every block tag and keep the rest.
-/

namespace Blueprint.Markup.Blocks

open Blueprint.Text

section Plain

private theorem plain_of_blank {blanks : List Char} (blank : ∀ c ∈ blanks, isBlank c = true) :
    '<' ∉ blanks := by
  intro member
  exact absurd (blank '<' member) (by decide)

private theorem value_plain (written : Attribute) : '<' ∉ written.value := by
  intro member
  exact (written.valuePlain '<' member).2 rfl

private theorem optionalValue_plain (written : Option Attribute) : '<' ∉ optionalValue written := by
  cases written with
  | none => simp [optionalValue]
  | some written => exact value_plain written

private theorem attribute_plain (written : Attribute) (name : String) (plain : '<' ∉ name.toList) :
    '<' ∉ written.source name := by
  simp [Attribute.source, plain, plain_of_blank written.gapBlank, value_plain written]

private theorem options_source_plain (head : LoopTag) : '<' ∉ optionsSource head.options := by
  intro member
  obtain ⟨option, present, inside⟩ := List.mem_flatMap.mp member
  have plain : ∀ name ∈ LoopTag.optionNames, '<' ∉ name.toList := by decide
  have named := LoopTag.name_mem_of_option present
  obtain ⟨name, written⟩ := option
  cases written with
  | none => simp at inside
  | some written => exact attribute_plain written name (plain name named) inside

private theorem opening_plain {name : String} {attributes : List Char} (slack : Slack)
    (plain : '<' ∉ name.toList) (attributesPlain : '<' ∉ attributes) :
    '<' ∉ openingBody name attributes slack := by
  simp [openingBody, plain, attributesPlain, plain_of_blank slack.blank]

theorem BlockTag.body_plain (tag : BlockTag) : '<' ∉ tag.body := by
  cases tag with
  | ifThen written slack | elseIf written slack | switchOn written slack
  | switchCase written slack =>
    exact opening_plain slack (by decide) (attribute_plain written _ (by decide))
  | otherwise slack | whenEmpty slack | switchDefault slack =>
    exact opening_plain slack (by decide) List.not_mem_nil
  | forEach head slack =>
    have const := attribute_plain head.item "const" (by decide)
    have of := attribute_plain head.items "of" (by decide)
    exact opening_plain slack (by decide)
      (by simp only [List.mem_append, const, of, options_source_plain head, or_self,
        not_false_eq_true])
  | closing block => cases block <;> decide

private theorem letText_plain {entry : String × List Char} (variablePlain : '<' ∉ entry.1.toList)
    (plain : '<' ∉ entry.2) : '<' ∉ letText entry := by
  unfold letText
  split
  · exact List.not_mem_nil
  · simp [plain, variablePlain]

private theorem lets_plain (head : LoopTag) : '<' ∉ head.aliases.flatMap letText := by
  intro member
  obtain ⟨entry, present, inside⟩ := List.mem_flatMap.mp member
  have named : entry.1 ∈ ["$index", "$first", "$last", "$odd", "$even", "$count"] :=
    List.mem_map_of_mem (f := Prod.fst) present
  have plainNames : ∀ name ∈ ["$index", "$first", "$last", "$odd", "$even", "$count"],
      '<' ∉ name.toList := by decide
  have value : '<' ∉ entry.2 := by
    simp only [LoopTag.aliases, List.mem_cons, List.not_mem_nil, or_false] at present
    rcases present with rfl | rfl | rfl | rfl | rfl | rfl <;> exact optionalValue_plain _
  exact letText_plain (plainNames entry.1 named) value inside

private theorem framed_plain (before after : String) {value : List Char}
    (beforePlain : '<' ∉ before.toList) (plain : '<' ∉ value) (afterPlain : '<' ∉ after.toList) :
    '<' ∉ framed before value after := by
  simp [framed, beforePlain, plain, afterPlain]

theorem BlockTag.target_plain (tag : BlockTag) : '<' ∉ tag.target := by
  cases tag with
  | ifThen written slack | elseIf written slack | switchOn written slack
  | switchCase written slack =>
    exact framed_plain _ _ (by decide) (value_plain written) (by decide)
  | otherwise slack => exact (by decide : '<' ∉ fixed "\x7d @else \x7b")
  | whenEmpty slack => exact (by decide : '<' ∉ fixed "\x7d @empty \x7b")
  | switchDefault slack => exact (by decide : '<' ∉ fixed "@default \x7b")
  | forEach head slack =>
    have track : '<' ∉ head.track := by
      unfold LoopTag.track
      split
      · decide
      · exact optionalValue_plain head.trackBy
    have item := framed_plain "@for (" " of " (by decide)
      (value_plain head.item) (by decide)
    have items := framed_plain "" "; track " (by decide)
      (value_plain head.items) (by decide)
    have tracked := framed_plain "" ") \x7b" (by decide) track (by decide)
    simp only [BlockTag.target, List.mem_append, item, items, tracked, lets_plain head, or_self,
      not_false_eq_true]
  | closing block => cases block <;> decide

end Plain

/-- No bracket of a text stands before the name of a block. -/
def Unnamed (text : List Char) : Prop :=
  ∀ front body, text = front ++ '<' :: body →
    ∀ block : Block, (readTag body).2 ≠ block.name.toList

instance (text : List Char) : Decidable (Unnamed text) :=
  decidable_of_iff (∀ body ∈ behindAll ['<'] text, ∀ block ∈ Block.all,
      (readTag body).2 ≠ block.name.toList) <| forall_behindAll.trans
    ⟨fun other front body split block => other front body split block block.mem_all,
      fun other front body split block _ => other front body split block⟩

/-- Besides, each of these names ends within the text. -/
def Quiet (text : List Char) : Prop :=
  Unnamed text ∧ ∀ front body, text = front ++ '<' :: body → nameEnds body = true

theorem quiet_of_plain {text : List Char} (plain : '<' ∉ text) : Quiet text :=
  ⟨fun _ _ split => absurd (split ▸ by simp) plain, fun _ _ split => absurd (split ▸ by simp) plain⟩

/-- A rule takes the whole of a tag, and no other rule finds anything in the tag or in what the tag
gives way to. -/
structure Rewrites (form : TagForm) (source target : List Char) : Prop where
  taken : ∀ rest, form.rule (source ++ rest) = some ⟨target, source.length⟩
  within : Quiet source.tail
  instead : Quiet target

theorem BlockTag.rewrites (tag : BlockTag) : Rewrites tag.form tag.source tag.target :=
  ⟨rule_match tag, quiet_of_plain tag.body_plain, quiet_of_plain tag.target_plain⟩

theorem Rewrites.source_eq {form : TagForm} {source target : List Char}
    (rewrites : Rewrites form source target) : ∃ body, source = '<' :: body := by
  obtain ⟨body, same, _⟩ := starts_of_rule (rewrites.taken [])
  exact ⟨body, by rw [← same, List.append_nil]⟩

/-- A part of a template: text that is kept, or a tag that gives way to a text. -/
inductive Part where
  | kept (text : List Char)
  | block (form : TagForm) (source target : List Char)

namespace Part

/-- A part as it is written. -/
def source : Part → List Char
  | kept text => text
  | block _ source _ => source

/-- A part as the framework reads it. -/
def target : Part → List Char
  | kept text => text
  | block _ _ target => target

/-- A part after the rules of some forms have been applied. -/
def after (done : List TagForm) : Part → List Char
  | kept text => text
  | block form source target => if form ∈ done then target else source

end Part

/-- A kept text has no bracket before the name of a block. A bracket at its very end has what the
next parts leave behind it, which begins neither with a letter nor with a slash. -/
def KeptBefore (text : List Char) (rest : List Part) : Prop :=
  Unnamed text ∧ ∀ front body, text = front ++ '<' :: body →
    nameEnds body = true ∨ body = [] ∧
      ∀ c ∈ (rest.flatMap Part.target).head?, c ≠ '/' ∧ c.isAlpha = false

theorem keptBefore_of_plain {text : List Char} {rest : List Part} (plain : '<' ∉ text) :
    KeptBefore text rest := by
  obtain ⟨unnamed, quiet⟩ := quiet_of_plain plain
  exact ⟨unnamed, fun front body split => Or.inl (quiet front body split)⟩

/-- Every tag is taken whole, and every kept text stays as it is whatever the passes make of the
parts behind it. -/
def Settled : List Part → Prop
  | [] => True
  | .kept text :: rest => KeptBefore text rest ∧ Settled rest
  | .block form source target :: rest => Rewrites form source target ∧ Settled rest

section Passes

variable {form : TagForm} {rest : List Char}

theorem replace_append_of_passed {text : List Char}
    (passed : ∀ front body, text = front ++ '<' :: body →
      form.rule ('<' :: (body ++ rest)) = none) :
    replace form.rule (text ++ rest) = text ++ replace form.rule rest := by
  induction text with
  | nil => rfl
  | cons c text ih =>
    have here : form.rule (c :: (text ++ rest)) = none := by
      by_cases bracket : c = '<'
      · subst bracket
        exact passed [] text rfl
      · exact rule_none_of_ne _ form bracket
    have later := ih fun front body split => passed (c :: front) body (by rw [split]; rfl)
    simp only [replace] at later
    simp only [replace, List.cons_append, replaceFrom, here, later]

/-- A quiet text is passed over whatever stands behind it. -/
theorem Quiet.passed {text : List Char} (quiet : Quiet text) (form : TagForm) (rest : List Char) :
    replace form.rule (text ++ rest) = text ++ replace form.rule rest := by
  apply replace_append_of_passed
  intro front body split
  apply rule_none_of_read
  rw [readTag_append _ (quiet.2 front body split)]
  exact fun same => quiet.1 front body split form.block (congrArg Prod.snd same)

/-- The name of a block is read only behind a slash or at a letter. -/
theorem head?_of_readTag {text : List Char} {block : Block}
    (named : (readTag text).2 = block.name.toList) :
    ∃ c ∈ text.head?, c = '/' ∨ c.isAlpha = true := by
  have letter : ∀ c ∈ block.name.toList.head?, c.isAlpha = true := by cases block <;> decide
  have nonempty : block.name.toList ≠ [] := by cases block <;> decide
  cases text with
  | nil => exact absurd named.symm nonempty
  | cons c text =>
    refine ⟨c, rfl, ?_⟩
    by_cases slash : c = '/'
    · exact Or.inl slash
    · rw [readTag_of_unslashed text slash, List.takeWhile_cons] at named
      split at named
      · rw [← named] at letter
        exact Or.inr (letter c rfl)
      · exact absurd named.symm nonempty

/-- What stands first behind a part is a bracket, or stands there in the end. -/
theorem head?_after (done : List TagForm) {parts : List Part} (settled : Settled parts) :
    ∀ c ∈ (parts.flatMap (Part.after done)).head?,
      c = '<' ∨ c ∈ (parts.flatMap Part.target).head? := by
  induction parts with
  | nil => simp
  | cons part parts ih =>
    intro c first
    rw [List.flatMap_cons] at first
    rw [List.flatMap_cons]
    cases part with
    | kept text =>
      cases text with
      | nil => exact ih settled.2 c first
      | cons d text => exact Or.inr first
    | block form source target =>
      obtain ⟨rewrites, later⟩ := settled
      by_cases applied : form ∈ done
      · simp only [Part.after, applied, ↓reduceIte] at first
        simp only [Part.target]
        cases target with
        | nil => exact ih later c first
        | cons d text => exact Or.inr first
      · simp only [Part.after, applied, ↓reduceIte] at first
        obtain ⟨body, rfl⟩ := rewrites.source_eq
        exact Or.inl (Option.some.inj first).symm

/-- A kept text is passed over in every state of the parts behind it. -/
theorem KeptBefore.passed {text : List Char} {parts : List Part} (kept : KeptBefore text parts)
    (settled : Settled parts) (form : TagForm) (done : List TagForm) (front body : List Char)
    (split : text = front ++ '<' :: body) :
    form.rule ('<' :: (body ++ parts.flatMap (Part.after done))) = none := by
  apply rule_none_of_read
  have other := kept.1 front body split
  rcases kept.2 front body split with ended | ⟨rfl, calm⟩
  · rw [readTag_append _ ended]
    exact fun same => other form.block (congrArg Prod.snd same)
  · intro same
    obtain ⟨c, first, sign⟩ := head?_of_readTag (congrArg Prod.snd same)
    rcases head?_after done settled c first with rfl | final
    · rcases sign with slash | letter
      · exact absurd slash (by decide)
      · exact absurd letter (by decide)
    · obtain ⟨noSlash, noLetter⟩ := calm c final
      rcases sign with slash | letter
      · exact noSlash slash
      · rw [noLetter] at letter
        cases letter

/-- Applying the rule of one form replaces the tags of that form and changes nothing else. -/
theorem replace_after (form : TagForm) (done : List TagForm) {parts : List Part}
    (settled : Settled parts) :
    replace form.rule (parts.flatMap (Part.after done)) =
      parts.flatMap (Part.after (form :: done)) := by
  induction parts with
  | nil => rfl
  | cons part parts ih =>
    rw [List.flatMap_cons, List.flatMap_cons]
    cases part with
    | kept text =>
      obtain ⟨kept, later⟩ := settled
      rw [Part.after, replace_append_of_passed (kept.passed later form done), ih later]
      rfl
    | block tag source target =>
      obtain ⟨rewrites, others⟩ := settled
      have later := ih others
      by_cases applied : tag ∈ done
      · simp only [Part.after, applied, ↓reduceIte, List.mem_cons_of_mem form applied]
        rw [rewrites.instead.passed, later]
      · obtain ⟨body, rfl⟩ := rewrites.source_eq
        by_cases same : tag = form
        · subst same
          simp only [Part.after, applied, ↓reduceIte, List.mem_cons_self]
          rw [replace_append_of_match (List.cons_ne_nil _ _) (rewrites.taken _), later]
        · have waits : tag ∉ form :: done := by simp [same, applied]
          simp only [Part.after, applied, ↓reduceIte, waits]
          have here (rest : List Char) : form.rule ('<' :: (body ++ rest)) = none :=
            rule_none_of_taken (rewrites.taken rest) same
          have passed := rewrites.within.passed form (parts.flatMap (Part.after done))
          simp only [List.tail_cons, replace] at passed
          simp only [List.cons_append, replace, replaceFrom, here, passed]
          exact congrArg (fun rest => '<' :: (body ++ rest)) later

theorem foldl_replace_after (forms done : List TagForm) {parts : List Part}
    (settled : Settled parts) :
    (forms.map TagForm.rule).foldl (fun text rule => replace rule text)
        (parts.flatMap (Part.after done)) =
      parts.flatMap (Part.after (forms.reverse ++ done)) := by
  induction forms generalizing done with
  | nil => rfl
  | cons form forms ih =>
    rw [List.map_cons, List.foldl_cons, replace_after form done settled, ih, List.reverse_cons,
      List.append_assoc]
    rfl

/-- Conversion replaces every block tag and keeps the rest. -/
theorem convertBlocks_parts {parts : List Part} (settled : Settled parts) :
    convertBlocks (parts.flatMap Part.source) = parts.flatMap Part.target := by
  have start : Part.after [] = Part.source := by
    funext part
    cases part <;> simp [Part.after, Part.source]
  have finish : Part.after (TagForm.all.reverse ++ []) = Part.target := by
    funext part
    cases part with
    | kept text => rfl
    | block form => simp [Part.after, Part.target, form.mem_all]
  rw [convertBlocks, TagForm.rules_eq, ← start, foldl_replace_after _ _ settled, finish]

end Passes

end Blueprint.Markup.Blocks
