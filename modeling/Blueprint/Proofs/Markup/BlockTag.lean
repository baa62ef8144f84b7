import Blueprint.Markup.Blocks
import Blueprint.Proofs.Text

namespace Blueprint.Markup.Blocks

open Blueprint.Text

/-- The elements that stand for control blocks. -/
inductive Block where
  | ifThen | elseIf | otherwise | forEach | whenEmpty | switchOn | switchCase | switchDefault
  deriving DecidableEq, Repr

namespace Block

def name : Block → String
  | ifThen => "if"
  | elseIf => "else-if"
  | otherwise => "else"
  | forEach => "for"
  | whenEmpty => "when-empty"
  | switchOn => "switch"
  | switchCase => "case"
  | switchDefault => "default"

/-- What closes a block. A part of another block leaves its brace to what follows. -/
def closingText : Block → String
  | elseIf | otherwise | whenEmpty => ""
  | _ => "\x7d"

def all : List Block :=
  [ifThen, elseIf, otherwise, forEach, whenEmpty, switchOn, switchCase, switchDefault]

theorem mem_all (block : Block) : block ∈ all := by
  cases block <;> decide

end Block

/-- An attribute of a block tag: the blanks in front of it and its value. -/
structure Attribute where
  gap : List Char
  value : List Char
  gapNonempty : gap ≠ []
  gapBlank : ∀ c ∈ gap, isBlank c = true
  valuePlain : ∀ c ∈ value, c ≠ '"' ∧ c ≠ '<'

/-- Blanks in front of the end of a block tag. -/
structure Slack where
  blanks : List Char
  blank : ∀ c ∈ blanks, isBlank c = true

/-- The attribute under its name. -/
def Attribute.source (written : Attribute) (name : String) : List Char :=
  written.gap ++ ((name.toList ++ ['=']) ++ '"' :: (written.value ++ ['"']))

/-- The value of an attribute that may be absent. -/
def optionalValue (written : Option Attribute) : List Char :=
  (written.map Attribute.value).getD []

/-- The head of a loop. -/
structure LoopTag where
  item : Attribute
  items : Attribute
  trackBy : Option Attribute := none
  index : Option Attribute := none
  first : Option Attribute := none
  last : Option Attribute := none
  odd : Option Attribute := none
  even : Option Attribute := none
  count : Option Attribute := none

namespace LoopTag

/-- The attributes that may be absent, in the order in which they are written. -/
def options (tag : LoopTag) : List (String × Option Attribute) :=
  [("trackBy", tag.trackBy), ("index", tag.index), ("first", tag.first), ("last", tag.last),
    ("odd", tag.odd), ("even", tag.even), ("count", tag.count)]

/-- The names of the attributes that may be absent. -/
def optionNames : List String := ["trackBy", "index", "first", "last", "odd", "even", "count"]

theorem name_mem_of_option {tag : LoopTag} {option : String × Option Attribute}
    (member : option ∈ tag.options) : option.1 ∈ optionNames :=
  List.mem_map_of_mem (f := Prod.fst) member

/-- The variables of the loop and the names that they are given. -/
def aliases (tag : LoopTag) : List (String × List Char) :=
  [("$index", optionalValue tag.index), ("$first", optionalValue tag.first),
    ("$last", optionalValue tag.last), ("$odd", optionalValue tag.odd),
    ("$even", optionalValue tag.even), ("$count", optionalValue tag.count)]

/-- What a loop is tracked by. -/
def track (tag : LoopTag) : List Char :=
  if optionalValue tag.trackBy = [] then "$index".toList else optionalValue tag.trackBy

end LoopTag

/-- The attributes that are present, each under its name. -/
def optionsSource (options : List (String × Option Attribute)) : List Char :=
  options.flatMap fun option => (option.2.map (·.source option.1)).getD []

/-- The name that a variable of a loop is given; an empty name gives none. -/
def letText (entry : String × List Char) : List Char :=
  if entry.2 = [] then []
  else " @let ".toList ++ entry.2 ++ " = ".toList ++ entry.1.toList ++ [';']

/-- A block tag. -/
inductive BlockTag where
  | ifThen (condition : Attribute) (slack : Slack)
  | elseIf (condition : Attribute) (slack : Slack)
  | otherwise (slack : Slack)
  | forEach (head : LoopTag) (slack : Slack)
  | whenEmpty (slack : Slack)
  | switchOn (expression : Attribute) (slack : Slack)
  | switchCase (value : Attribute) (slack : Slack)
  | switchDefault (slack : Slack)
  | closing (block : Block)

/-- An opening tag with its attributes, behind its angle bracket. -/
def openingBody (name : String) (attributes : List Char) (slack : Slack) : List Char :=
  name.toList ++ (attributes ++ (slack.blanks ++ ['>']))

/-- A tag as it is written, behind its angle bracket. -/
def BlockTag.body : BlockTag → List Char
  | ifThen condition slack => openingBody "if" (condition.source "condition") slack
  | elseIf condition slack => openingBody "else-if" (condition.source "condition") slack
  | otherwise slack => openingBody "else" [] slack
  | forEach head slack =>
    openingBody "for" (head.item.source "const" ++ (head.items.source "of" ++
      optionsSource head.options)) slack
  | whenEmpty slack => openingBody "when-empty" [] slack
  | switchOn expression slack => openingBody "switch" (expression.source "expression") slack
  | switchCase value slack => openingBody "case" (value.source "valueExpression") slack
  | switchDefault slack => openingBody "default" [] slack
  | closing block => '/' :: block.name.toList ++ ['>']

/-- A tag as it is written. -/
def BlockTag.source (tag : BlockTag) : List Char := '<' :: tag.body

/-- A fixed text of the framework. -/
def fixed (text : String) : List Char := text.toList

/-- A value between two fixed texts. -/
def framed (before : String) (value : List Char) (after : String) : List Char :=
  before.toList ++ value ++ after.toList

/-- The text that the framework wants for a tag. -/
def BlockTag.target : BlockTag → List Char
  | ifThen condition _ => framed "@if (" condition.value ") \x7b"
  | elseIf condition _ => framed "\x7d @else if (" condition.value ") \x7b"
  | otherwise _ => fixed "\x7d @else \x7b"
  | forEach head _ =>
    framed "@for (" head.item.value " of " ++ framed "" head.items.value "; track " ++
      framed "" head.track ") \x7b" ++ head.aliases.flatMap letText
  | whenEmpty _ => fixed "\x7d @empty \x7b"
  | switchOn expression _ => framed "@switch (" expression.value ") \x7b"
  | switchCase value _ => framed "@case (" value.value ") \x7b"
  | switchDefault _ => fixed "@default \x7b"
  | closing block => fixed block.closingText

/-- A form of block tags: the element, and whether the tag closes it. -/
structure TagForm where
  closes : Bool
  block : Block
  deriving DecidableEq, Repr

namespace TagForm

/-- The rule that replaces the tags of a form. -/
def rule : TagForm → List Char → Option (Found (List Char))
  | ⟨false, .ifThen⟩ => tagRule (openPieces "if" "condition") (around "@if (" ") \x7b")
  | ⟨false, .elseIf⟩ =>
    tagRule (openPieces "else-if" "condition") (around "\x7d @else if (" ") \x7b")
  | ⟨false, .otherwise⟩ => tagRule (barePieces "else") (always "\x7d @else \x7b")
  | ⟨false, .forEach⟩ => loopRule
  | ⟨false, .whenEmpty⟩ => tagRule (barePieces "when-empty") (always "\x7d @empty \x7b")
  | ⟨false, .switchOn⟩ => tagRule (openPieces "switch" "expression") (around "@switch (" ") \x7b")
  | ⟨false, .switchCase⟩ =>
    tagRule (openPieces "case" "valueExpression") (around "@case (" ") \x7b")
  | ⟨false, .switchDefault⟩ => tagRule (barePieces "default") (always "@default \x7b")
  | ⟨true, block⟩ => closeRule block.name block.closingText

/-- All forms, in the order in which their rules are applied. -/
def all : List TagForm := Block.all.flatMap fun block => [⟨false, block⟩, ⟨true, block⟩]

theorem mem_all (form : TagForm) : form ∈ all := by
  obtain ⟨closes, block⟩ := form
  apply List.mem_flatMap.mpr
  refine ⟨block, block.mem_all, ?_⟩
  cases closes <;> simp

theorem rules_eq : blockRules = all.map rule := rfl

end TagForm

def BlockTag.form : BlockTag → TagForm
  | ifThen .. => ⟨false, .ifThen⟩
  | elseIf .. => ⟨false, .elseIf⟩
  | otherwise .. => ⟨false, .otherwise⟩
  | forEach .. => ⟨false, .forEach⟩
  | whenEmpty .. => ⟨false, .whenEmpty⟩
  | switchOn .. => ⟨false, .switchOn⟩
  | switchCase .. => ⟨false, .switchCase⟩
  | switchDefault .. => ⟨false, .switchDefault⟩
  | closing block => ⟨true, block⟩

section Matching

variable {pieces : List TagPiece} {rest : List Char}

theorem matchPieces?_text (lead : List Char) :
    matchPieces? (.text lead :: pieces) (lead ++ rest) = matchPieces? pieces rest := by
  simp [matchPieces?]

theorem matchPieces?_gap {gap : List Char} (nonempty : gap ≠ [])
    (blank : ∀ c ∈ gap, isBlank c = true) (stops : ∀ c ∈ rest.head?, isBlank c = false) :
    matchPieces? (.gap :: pieces) (gap ++ rest) = matchPieces? pieces rest := by
  cases gap with
  | nil => exact absurd rfl nonempty
  | cons c gap =>
    have dropped := dropWhile_append_stop (fun d member => blank d (List.mem_cons_of_mem c member)) stops
    simp [matchPieces?, blank c List.mem_cons_self, dropped]

theorem matchPieces?_slack (slack : Slack) (stops : ∀ c ∈ rest.head?, isBlank c = false) :
    matchPieces? (.slack :: pieces) (slack.blanks ++ rest) = matchPieces? pieces rest := by
  simp [matchPieces?, dropWhile_append_stop slack.blank stops]

theorem matchPieces?_value {value : List Char} (plain : ∀ c ∈ value, c ≠ '"') :
    matchPieces? (.value :: pieces) ('"' :: (value ++ '"' :: rest)) =
      (matchPieces? pieces rest).map fun found => (value :: found.1, found.2) := by
  have unquoted : ∀ c ∈ value, (c != '"') = true := by simpa using plain
  simp [matchPieces?, List.dropWhile_append_of_pos unquoted,
    List.takeWhile_append_of_pos unquoted]

/-- The name of an attribute: no blanks, and no sign that ends a name. -/
def IsAttributeName (name : String) : Prop :=
  ∀ c ∈ name.toList, isBlank c = false ∧ c ≠ '=' ∧ c ≠ '>'

instance (name : String) : Decidable (IsAttributeName name) :=
  List.decidableBAll _ name.toList

/-- An attribute under its own name is read whole. -/
theorem matchPieces?_attribute (written : Attribute) {name : String}
    (visible : IsAttributeName name) :
    matchPieces? (attributePieces name ++ pieces) (written.source name ++ rest) =
      (matchPieces? pieces rest).map fun found => (written.value :: found.1, found.2) := by
  have stops : ∀ c ∈ ((name.toList ++ ['=']) ++ '"' :: (written.value ++ '"' :: rest)).head?,
      isBlank c = false := by
    cases same : name.toList with
    | nil => simp; decide
    | cons c tail =>
      have first := (visible c (by simp [same])).1
      simpa using first
  have plain : ∀ c ∈ written.value, c ≠ '"' := fun c member => (written.valuePlain c member).1
  calc matchPieces? (attributePieces name ++ pieces) (written.source name ++ rest)
      = matchPieces? (.gap :: .text (name.toList ++ ['=']) :: .value :: pieces)
          (written.gap ++ ((name.toList ++ ['=']) ++ '"' :: (written.value ++ '"' :: rest))) := by
        simp [attributePieces, Attribute.source]
    _ = matchPieces? (.value :: pieces) ('"' :: (written.value ++ '"' :: rest)) := by
        rw [matchPieces?_gap written.gapNonempty written.gapBlank stops, matchPieces?_text]
    _ = _ := matchPieces?_value plain

private theorem matchPieces?_attribute_alone (written : Attribute) {name : String}
    (visible : IsAttributeName name) :
    matchPieces? (attributePieces name) (written.source name ++ rest) =
      some ([written.value], rest) := by
  rw [← List.append_nil (attributePieces name), matchPieces?_attribute written visible]
  rfl

theorem matchPieces?_end (slack : Slack) :
    matchPieces? [.slack, .text ['>']] (slack.blanks ++ '>' :: rest) = some ([], rest) := by
  rw [matchPieces?_slack slack (by simp; decide)]
  simp [matchPieces?, after?]

end Matching

section Own

variable {rest : List Char}

theorem tagRule_of_read {pieces : List TagPiece} {part : List Char} (values : List (List Char))
    (render : List (List Char) → List Char)
    (read : matchPieces? pieces (part ++ rest) = some (values, rest)) :
    tagRule pieces render (part ++ rest) = some ⟨render values, part.length⟩ := by
  simp [tagRule, read]

theorem tagRule_valued {tag name : String} (render : List (List Char) → List Char)
    (written : Attribute) (slack : Slack) (visible : IsAttributeName name) :
    tagRule (openPieces tag name) render
        ('<' :: openingBody tag (written.source name) slack ++ rest) =
      some ⟨render [written.value],
        ('<' :: openingBody tag (written.source name) slack).length⟩ := by
  apply tagRule_of_read
  calc matchPieces? (openPieces tag name)
        ('<' :: openingBody tag (written.source name) slack ++ rest)
      = matchPieces? (.text ('<' :: tag.toList) :: (attributePieces name ++ [.slack, .text ['>']]))
          (('<' :: tag.toList) ++ (written.source name ++ (slack.blanks ++ '>' :: rest))) := by
        simp [openPieces, openingBody]
    _ = some ([written.value], rest) := by
        rw [matchPieces?_text, matchPieces?_attribute written visible, matchPieces?_end]
        rfl

theorem tagRule_bare (tag : String) (render : List (List Char) → List Char) (slack : Slack) :
    tagRule (barePieces tag) render ('<' :: openingBody tag [] slack ++ rest) =
      some ⟨render [], ('<' :: openingBody tag [] slack).length⟩ := by
  apply tagRule_of_read
  calc matchPieces? (barePieces tag) ('<' :: openingBody tag [] slack ++ rest)
      = matchPieces? (.text ('<' :: tag.toList) :: [.slack, .text ['>']])
          (('<' :: tag.toList) ++ (slack.blanks ++ '>' :: rest)) := by
        simp [barePieces, openingBody]
    _ = some ([], rest) := by rw [matchPieces?_text, matchPieces?_end]

private theorem closeRule_match (tag text : String) :
    closeRule tag text ('<' :: ('/' :: tag.toList ++ ['>']) ++ rest) =
      some ⟨text.toList, ('<' :: ('/' :: tag.toList ++ ['>'])).length⟩ := by
  apply tagRule_of_read []
  calc matchPieces? [.text ("</".toList ++ tag.toList ++ ['>'])]
        ('<' :: ('/' :: tag.toList ++ ['>']) ++ rest)
      = matchPieces? [.text ("</".toList ++ tag.toList ++ ['>'])]
          (("</".toList ++ tag.toList ++ ['>']) ++ rest) := by simp
    _ = some ([], rest) := by rw [matchPieces?_text]; rfl

theorem after?_other_name {name other : List Char} (different : name ≠ other)
    (plain : '=' ∉ name) (otherPlain : '=' ∉ other) :
    after? (name ++ ['=']) (other ++ '=' :: rest) = none := by
  induction name generalizing other with
  | nil =>
    cases other with
    | nil => exact absurd rfl different
    | cons d other =>
      have distinct : ¬ '=' = d := by
        intro same
        subst same
        exact otherPlain List.mem_cons_self
      simp [after?, distinct]
  | cons c name ih =>
    cases other with
    | nil =>
      have distinct : ¬ c = '=' := by
        intro same
        subst same
        exact plain List.mem_cons_self
      simp [after?, distinct]
    | cons d other =>
      by_cases same : c = d
      · have tailDifferent : name ≠ other := by
          intro equal
          exact different (by rw [same, equal])
        have later := ih tailDifferent (fun member => plain (List.mem_cons_of_mem c member))
          fun member => otherPlain (List.mem_cons_of_mem d member)
        simpa [after?, same] using later
      · simp [after?, same]

private theorem after?_name_end {name : String} (plain : IsAttributeName name) :
    after? (name.toList ++ ['=']) ('>' :: rest) = none := by
  cases same : name.toList with
  | nil => simp [after?]
  | cons c tail =>
    have distinct : ¬ c = '>' := (plain c (by simp [same])).2.2
    simp [after?, distinct]

theorem absent_at_end {name : String} (plain : IsAttributeName name) (slack : Slack) :
    matchPieces? (attributePieces name) (slack.blanks ++ '>' :: rest) = none := by
  have visible : isBlank '>' = false := by decide
  by_cases empty : slack.blanks = []
  · simp [empty, attributePieces, matchPieces?, visible]
  · rw [attributePieces, matchPieces?_gap empty slack.blank (by simp; decide)]
    simp only [matchPieces?, after?_name_end plain, Option.bind_none]

/-- An attribute is not read where another stands. -/
theorem matchPieces?_other_name {name other : String} (different : name ≠ other)
    (plain : IsAttributeName name) (otherPlain : IsAttributeName other) {gap : List Char}
    (nonempty : gap ≠ []) (blank : ∀ c ∈ gap, isBlank c = true) :
    matchPieces? (attributePieces name) (gap ++ (other.toList ++ '=' :: rest)) = none := by
  have stops : ∀ c ∈ (other.toList ++ '=' :: rest).head?, isBlank c = false := by
    cases same : other.toList with
    | nil => simp; decide
    | cons c tail =>
      have first := (otherPlain c (by simp [same])).1
      simpa using first
  have mismatch : after? (name.toList ++ ['=']) (other.toList ++ '=' :: rest) = none := by
    apply after?_other_name
    · intro same
      exact different (String.toList_inj.mp same)
    · intro member
      exact (plain '=' member).2.1 rfl
    · intro member
      exact (otherPlain '=' member).2.1 rfl
  rw [attributePieces, matchPieces?_gap nonempty blank stops]
  simp only [matchPieces?, mismatch, Option.bind_none]

private theorem absent_at_other {name other : String} (different : name ≠ other)
    (plain : IsAttributeName name) (otherPlain : IsAttributeName other) (written : Attribute) :
    matchPieces? (attributePieces name) (written.source other ++ rest) = none := by
  have shape : written.source other ++ rest =
      written.gap ++ (other.toList ++ '=' :: '"' :: (written.value ++ '"' :: rest)) := by
    simp [Attribute.source]
  rw [shape]
  exact matchPieces?_other_name different plain otherPlain written.gapNonempty written.gapBlank

theorem matchPieces?_absent {name : String} (plain : IsAttributeName name)
    {options : List (String × Option Attribute)}
    (others : ∀ option ∈ options, name ≠ option.1 ∧ IsAttributeName option.1) (slack : Slack) :
    matchPieces? (attributePieces name)
      (optionsSource options ++ (slack.blanks ++ '>' :: rest)) = none := by
  induction options with
  | nil => exact absent_at_end plain slack
  | cons option options ih =>
    obtain ⟨other, written⟩ := option
    cases written with
    | none => exact ih fun option member => others option (List.mem_cons_of_mem _ member)
    | some written =>
      obtain ⟨different, otherPlain⟩ := others (other, some written) List.mem_cons_self
      simp only [optionsSource, List.flatMap_cons, Option.map_some, Option.getD_some,
        List.append_assoc]
      exact absent_at_other different plain otherPlain written

/-- Attributes that may be absent are read in their order, each under its own name. -/
theorem matchOptional_source {options : List (String × Option Attribute)}
    (plain : ∀ option ∈ options, IsAttributeName option.1)
    (distinct : (options.map (·.1)).Nodup) (slack : Slack) :
    matchOptional (options.map (·.1)) (optionsSource options ++ (slack.blanks ++ '>' :: rest)) =
      (options.map fun option => optionalValue option.2, slack.blanks ++ '>' :: rest) := by
  induction options with
  | nil => rfl
  | cons option options ih =>
    obtain ⟨name, written⟩ := option
    rw [List.map_cons, List.nodup_cons] at distinct
    have here := plain (name, written) List.mem_cons_self
    have later := ih (fun option member => plain option (List.mem_cons_of_mem _ member)) distinct.2
    cases written with
    | none =>
      have others : ∀ option ∈ options, name ≠ option.1 ∧ IsAttributeName option.1 := by
        intro option member
        refine ⟨?_, plain option (List.mem_cons_of_mem _ member)⟩
        intro same
        exact distinct.1 (List.mem_map.mpr ⟨option, member, same.symm⟩)
      have absent : matchPieces? (attributePieces name)
          (optionsSource options ++ (slack.blanks ++ '>' :: rest)) = none :=
        matchPieces?_absent here others slack
      change matchOptional (name :: options.map (·.1))
        (optionsSource options ++ (slack.blanks ++ '>' :: rest)) = _
      simp only [matchOptional, absent, later]
      rfl
    | some written =>
      have present : matchPieces? (attributePieces name) (written.source name ++
          (optionsSource options ++ (slack.blanks ++ '>' :: rest))) =
          some ([written.value], optionsSource options ++ (slack.blanks ++ '>' :: rest)) :=
        matchPieces?_attribute_alone written here
      have shape : optionsSource ((name, some written) :: options) ++
          (slack.blanks ++ '>' :: rest) = written.source name ++
          (optionsSource options ++ (slack.blanks ++ '>' :: rest)) := by
        simp [optionsSource]
      rw [shape]
      simp only [List.map_cons, matchOptional, present, later]
      rfl

private theorem options_plain (head : LoopTag) :
    ∀ option ∈ head.options, IsAttributeName option.1 := by
  intro option member
  have plain : ∀ name ∈ LoopTag.optionNames, IsAttributeName name := by decide
  exact plain option.1 (LoopTag.name_mem_of_option member)

/-- The binding of a variable of a loop to a name. -/
private def binding? (entry : String × List Char) : Option (List Char) :=
  if entry.2.isEmpty then none
  else some ("@let ".toList ++ entry.2 ++ " = ".toList ++ entry.1.toList ++ [';'])

private theorem lets_eq (entries : List (String × List Char)) :
    entries.flatMap letText = (entries.filterMap binding?).flatMap (' ' :: ·) := by
  induction entries with
  | nil => rfl
  | cons entry entries ih =>
    by_cases empty : entry.2 = []
    · simp [letText, binding?, empty, ih]
    · simp [letText, binding?, empty, ih]

theorem flatMap_blank_cons (first : List Char) (rest : List (List Char)) :
    (first :: rest).flatMap (' ' :: ·) = ' ' :: [' '].intercalate (first :: rest) := by
  induction rest generalizing first with
  | nil => simp [List.intercalate]
  | cons second rest ih =>
    rw [List.flatMap_cons, ih second]
    simp [List.intercalate]

private theorem bindings_eq (head : LoopTag) :
    (loopAliases.zip (head.aliases.map (·.2))).filterMap (fun pair =>
      if pair.2.isEmpty then none
      else some ("@let ".toList ++ pair.2 ++ " = ".toList ++ pair.1.2.toList ++ [';'])) =
      head.aliases.filterMap binding? := by
  have entries : (loopAliases.zip (head.aliases.map (·.2))).map (fun pair => (pair.1.2, pair.2)) =
      head.aliases := rfl
  rw [← entries, List.filterMap_map, entries]
  rfl

theorem loopHead_eq (head : LoopTag) (slack : Slack) :
    loopHead head.item.value head.items.value (optionalValue head.trackBy)
      (head.aliases.map (·.2)) = (BlockTag.forEach head slack).target := by
  have track : (if (optionalValue head.trackBy).isEmpty then "$index".toList
      else optionalValue head.trackBy) = head.track := by
    simp only [LoopTag.track, List.isEmpty_iff]
  unfold loopHead
  simp only [BlockTag.target, lets_eq, track, bindings_eq]
  generalize head.aliases.filterMap binding? = bindings
  cases bindings with
  | nil => simp [framed]
  | cons first rest =>
    rw [flatMap_blank_cons]
    simp [framed]

theorem loopRule_match (head : LoopTag) (slack : Slack) :
    loopRule ((BlockTag.forEach head slack).source ++ rest) =
      some ⟨(BlockTag.forEach head slack).target, (BlockTag.forEach head slack).source.length⟩ := by
  have opening : matchPieces? (.text "<for".toList :: attributePieces "const" ++
      attributePieces "of") ((BlockTag.forEach head slack).source ++ rest) =
      some ([head.item.value, head.items.value],
        optionsSource head.options ++ (slack.blanks ++ '>' :: rest)) := by
    have shape : (BlockTag.forEach head slack).source ++ rest =
        "<for".toList ++ (head.item.source "const" ++ (head.items.source "of" ++
          (optionsSource head.options ++ (slack.blanks ++ '>' :: rest)))) := by
      simp [BlockTag.source, BlockTag.body, openingBody]
    rw [shape, List.cons_append, matchPieces?_text,
      matchPieces?_attribute head.item (by decide),
      matchPieces?_attribute_alone head.items (by decide)]
    rfl
  have options : matchOptional ("trackBy" :: loopAliases.map (·.1))
      (optionsSource head.options ++ (slack.blanks ++ '>' :: rest)) =
      (optionalValue head.trackBy :: head.aliases.map (·.2), slack.blanks ++ '>' :: rest) :=
    matchOptional_source (options_plain head) (by simp [LoopTag.options]) slack
  have size : ((BlockTag.forEach head slack).source ++ rest).length - rest.length =
      (BlockTag.forEach head slack).source.length := by simp
  simp only [loopRule, opening, options, matchPieces?_end, loopHead_eq head slack, size]

private theorem around_single (before after : String) (value : List Char) :
    around before after [value] = before.toList ++ value ++ after.toList := by
  simp [around]

/-- The rule of a form takes exactly the tags of the form. -/
theorem rule_match (tag : BlockTag) (rest : List Char) :
    tag.form.rule (tag.source ++ rest) = some ⟨tag.target, tag.source.length⟩ := by
  have valued {block name before after : String} (written : Attribute) (slack : Slack)
      (visible : IsAttributeName name) :
      tagRule (openPieces block name) (around before after)
          ('<' :: openingBody block (written.source name) slack ++ rest) =
        some ⟨before.toList ++ written.value ++ after.toList,
          ('<' :: openingBody block (written.source name) slack).length⟩ := by
    rw [tagRule_valued _ written slack visible, around_single]
  cases tag with
  | ifThen condition slack => exact valued condition slack (by decide)
  | elseIf condition slack => exact valued condition slack (by decide)
  | otherwise slack => exact tagRule_bare "else" _ slack
  | forEach head slack => exact loopRule_match head slack
  | whenEmpty slack => exact tagRule_bare "when-empty" _ slack
  | switchOn expression slack => exact valued expression slack (by decide)
  | switchCase value slack => exact valued value slack (by decide)
  | switchDefault slack => exact tagRule_bare "default" _ slack
  | closing block => exact closeRule_match block.name block.closingText

end Own

/-- The name of a tag ends here. -/
def endsName (c : Char) : Bool := isBlank c || c == '/' || c == '>'

/-- Whether a tag closes an element, and the element's name, read behind the angle bracket. -/
def readTag : List Char → Bool × List Char
  | '/' :: rest => (true, rest.takeWhile (!endsName ·))
  | rest => (false, rest.takeWhile (!endsName ·))

/-- The name of a tag ends within the text behind its angle bracket. -/
def nameEnds : List Char → Bool
  | '/' :: rest => rest.any endsName
  | rest => rest.any endsName

section Others

variable {text : List Char} (rest : List Char)

private theorem takeWhile_append_of_ended {part : List Char} (ended : part.any endsName = true) :
    (part ++ rest).takeWhile (!endsName ·) = part.takeWhile (!endsName ·) := by
  induction part with
  | nil => simp at ended
  | cons c part ih =>
    by_cases here : endsName c = true
    · simp [here]
    · have later : part.any endsName = true := by simpa [here] using ended
      simp [here, ih later]

theorem readTag_of_unslashed {c : Char} (distinct : c ≠ '/') :
    readTag (c :: rest) = (false, (c :: rest).takeWhile (!endsName ·)) := by
  unfold readTag
  split
  · rename_i same
    exact absurd (List.cons.inj same).1 distinct
  · rfl

/-- What follows a tag does not change how the tag is read. -/
theorem readTag_append {body : List Char} (ended : nameEnds body = true) :
    readTag (body ++ rest) = readTag body := by
  unfold nameEnds at ended
  split at ended
  · simp only [List.cons_append, readTag, takeWhile_append_of_ended rest ended]
  · rename_i unslashed
    cases body with
    | nil => simp at ended
    | cons c body =>
      have distinct : c ≠ '/' := by
        intro same
        exact unslashed body (by rw [same])
      have same := takeWhile_append_of_ended rest ended
      rw [List.cons_append] at same ⊢
      rw [readTag_of_unslashed _ distinct, readTag_of_unslashed _ distinct, same]

theorem Block.name_plain (block : Block) : ∀ c ∈ block.name.toList, endsName c = false := by
  have plain : block.name.toList.all (!endsName ·) = true := by cases block <;> decide
  simpa using plain

private theorem takeWhile_name (block : Block) {c : Char} (ends : endsName c = true) :
    (block.name.toList ++ c :: rest).takeWhile (!endsName ·) = block.name.toList := by
  rw [List.takeWhile_append_of_pos (by simpa using block.name_plain)]
  simp [ends]

theorem readTag_opening (block : Block) {c : Char} (ends : endsName c = true) :
    readTag (block.name.toList ++ c :: rest) = (false, block.name.toList) := by
  have name := takeWhile_name rest block ends
  cases block <;> exact congrArg (Prod.mk false) name

private theorem readTag_closing (block : Block) :
    readTag ('/' :: (block.name.toList ++ '>' :: rest)) = (true, block.name.toList) :=
  congrArg (Prod.mk true) (takeWhile_name rest block (by decide))

private theorem tail_of_text {lead : List Char} {pieces : List TagPiece}
    {found : List (List Char) × List Char}
    (read : matchPieces? (.text lead :: pieces) text = some found) :
    ∃ tail, text = lead ++ tail ∧ matchPieces? pieces tail = some found := by
  simp only [matchPieces?] at read
  obtain ⟨tail, stripped, later⟩ := Option.bind_eq_some_iff.mp read
  exact ⟨tail, eq_append_of_after? stripped, later⟩

private theorem blank_of_gap {pieces : List TagPiece} {found : List (List Char) × List Char}
    (read : matchPieces? (.gap :: pieces) text = some found) :
    ∃ c tail, text = c :: tail ∧ endsName c = true := by
  cases text with
  | nil => simp [matchPieces?] at read
  | cons c tail =>
    refine ⟨c, tail, rfl, ?_⟩
    by_cases blank : isBlank c = true
    · simp [endsName, blank]
    · simp [matchPieces?, blank] at read

private theorem end_of_slack {found : List (List Char) × List Char}
    (read : matchPieces? [.slack, .text ['>']] text = some found) :
    ∃ c tail, text = c :: tail ∧ endsName c = true := by
  cases text with
  | nil => simp [matchPieces?, after?] at read
  | cons c tail =>
    refine ⟨c, tail, rfl, ?_⟩
    by_cases blank : isBlank c = true
    · simp [endsName, blank]
    · by_cases angle : c = '>'
      · simp [endsName, angle]
      · have differs : ¬ '>' = c := fun same => angle same.symm
        simp [matchPieces?, after?, blank, differs] at read

private theorem starts_of_open (block : Block) {name : String} {render found}
    (matched : tagRule (openPieces block.name name) render text = some found) :
    ∃ body, text = '<' :: body ∧ readTag body = (false, block.name.toList) := by
  obtain ⟨read, same, _⟩ := Option.map_eq_some_iff.mp matched
  obtain ⟨tail, split, later⟩ := tail_of_text same
  obtain ⟨c, tail, cut, ends⟩ := blank_of_gap later
  exact ⟨block.name.toList ++ c :: tail, by rw [split, cut]; rfl, readTag_opening tail block ends⟩

private theorem starts_of_bare (block : Block) {render found}
    (matched : tagRule (barePieces block.name) render text = some found) :
    ∃ body, text = '<' :: body ∧ readTag body = (false, block.name.toList) := by
  obtain ⟨read, same, _⟩ := Option.map_eq_some_iff.mp matched
  obtain ⟨tail, split, later⟩ := tail_of_text same
  obtain ⟨c, tail, cut, ends⟩ := end_of_slack later
  exact ⟨block.name.toList ++ c :: tail, by rw [split, cut]; rfl, readTag_opening tail block ends⟩

private theorem starts_of_loop {found} (matched : loopRule text = some found) :
    ∃ body, text = '<' :: body ∧ readTag body = (false, Block.forEach.name.toList) := by
  simp only [loopRule] at matched
  split at matched
  · rename_i read
    obtain ⟨tail, split, later⟩ := tail_of_text read
    obtain ⟨c, tail, cut, ends⟩ := blank_of_gap later
    exact ⟨Block.forEach.name.toList ++ c :: tail, by rw [split, cut]; rfl,
      readTag_opening tail .forEach ends⟩
  · simp at matched

private theorem starts_of_close (block : Block) {shown : String} {found}
    (matched : closeRule block.name shown text = some found) :
    ∃ body, text = '<' :: body ∧ readTag body = (true, block.name.toList) := by
  obtain ⟨read, same, _⟩ := Option.map_eq_some_iff.mp matched
  obtain ⟨tail, split, _⟩ := tail_of_text same
  refine ⟨'/' :: (block.name.toList ++ '>' :: tail), ?_, readTag_closing tail block⟩
  rw [split]
  simp

/-- A rule matches only in front of a tag of its form. -/
theorem starts_of_rule {form : TagForm} {found} (matched : form.rule text = some found) :
    ∃ body, text = '<' :: body ∧ readTag body = (form.closes, form.block.name.toList) := by
  obtain ⟨closes, block⟩ := form
  cases closes with
  | true => exact starts_of_close block matched
  | false =>
    cases block with
    | ifThen => exact starts_of_open .ifThen matched
    | elseIf => exact starts_of_open .elseIf matched
    | otherwise => exact starts_of_bare .otherwise matched
    | forEach => exact starts_of_loop matched
    | whenEmpty => exact starts_of_bare .whenEmpty matched
    | switchOn => exact starts_of_open .switchOn matched
    | switchCase => exact starts_of_open .switchCase matched
    | switchDefault => exact starts_of_bare .switchDefault matched

theorem rule_none_of_ne (form : TagForm) {c : Char} (distinct : c ≠ '<') :
    form.rule (c :: rest) = none := by
  cases matched : form.rule (c :: rest) with
  | none => rfl
  | some found =>
    obtain ⟨body, same, _⟩ := starts_of_rule matched
    exact absurd (List.cons.inj same).1 distinct

theorem rule_none_of_read {form : TagForm} (body : List Char)
    (differs : readTag body ≠ (form.closes, form.block.name.toList)) :
    form.rule ('<' :: body) = none := by
  cases matched : form.rule ('<' :: body) with
  | none => rfl
  | some found =>
    obtain ⟨other, same, read⟩ := starts_of_rule matched
    rw [← (List.cons.inj same).2] at read
    exact absurd read differs

theorem Block.name_injective : Function.Injective Block.name := by
  intro first second same
  cases first <;> cases second <;> first | rfl | exact absurd same (by decide)

/-- A text that one rule matches is matched by no rule of another form. -/
theorem rule_none_of_taken {form other : TagForm} {found} (taken : form.rule text = some found)
    (differs : form ≠ other) : other.rule text = none := by
  obtain ⟨body, rfl, read⟩ := starts_of_rule taken
  apply rule_none_of_read
  rw [read]
  intro same
  obtain ⟨closes, name⟩ := Prod.mk.inj same
  have block := Block.name_injective (String.toList_inj.mp name)
  apply differs
  calc form = ⟨form.closes, form.block⟩ := rfl
    _ = other := by rw [closes, block]

end Others

end Blueprint.Markup.Blocks
