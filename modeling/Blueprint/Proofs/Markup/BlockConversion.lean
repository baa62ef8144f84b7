import Blueprint.Proofs.Markup.BlockPasses

/-!
A template is a run of plain text, ordinary tags and block tags. Conversion replaces every block tag
by the framework's text and keeps the rest, although its rules are applied one after the other to
what the earlier rules left. Well-nested blocks therefore become blocks that are nested alike.
-/

namespace Blueprint.Markup.Blocks

open Blueprint.Text

/-- Text without an angle bracket that opens a tag. -/
structure PlainText where
  chars : List Char
  plain : '<' ∉ chars

/-- A tag of an element that is no control block, with any text behind it. Its name ends within. -/
structure OrdinaryTag where
  body : List Char
  single : '<' ∉ body
  ended : nameEnds body = true
  ordinary : ∀ block ∈ Block.all, (readTag body).2 ≠ block.name.toList

/-- A piece of a template. -/
inductive Segment where
  | text (text : PlainText)
  | tag (tag : OrdinaryTag)
  | block (tag : BlockTag)

namespace Segment

/-- A piece as it is written. -/
def source : Segment → List Char
  | .text piece => piece.chars
  | .tag piece => '<' :: piece.body
  | .block piece => piece.source

/-- A piece as the framework reads it. -/
def target : Segment → List Char
  | .text piece => piece.chars
  | .tag piece => '<' :: piece.body
  | .block piece => piece.target

/-- A piece as a part of a template: all but block tags is kept. -/
def part : Segment → Part
  | .text piece => .kept piece.chars
  | .tag piece => .kept ('<' :: piece.body)
  | .block piece => .block piece.form piece.source piece.target

private theorem source_part (segment : Segment) : segment.part.source = segment.source := by
  cases segment <;> rfl

private theorem target_part (segment : Segment) : segment.part.target = segment.target := by
  cases segment <;> rfl

/-- No piece that is kept begins a block tag. -/
theorem settled_parts (segments : List Segment) : Settled (segments.map part) := by
  induction segments with
  | nil => trivial
  | cons segment segments ih =>
    cases segment with
    | text piece => exact ⟨keptBefore_of_plain piece.plain, ih⟩
    | tag piece =>
      have only {front body : List Char} (split : '<' :: piece.body = front ++ '<' :: body) :
          body = piece.body := by
        cases front with
        | nil => exact (List.cons.inj split).2.symm
        | cons c front => exact absurd ((List.cons.inj split).2 ▸ by simp) piece.single
      refine ⟨⟨fun front body split => ?_, fun front body split => Or.inl ?_⟩, ih⟩
      · obtain rfl := only split
        exact fun block => piece.ordinary block block.mem_all
      · obtain rfl := only split
        exact piece.ended
    | block piece => exact ⟨piece.rewrites, ih⟩

end Segment

private theorem convertBlocks_segments (segments : List Segment) :
    convertBlocks (segments.flatMap Segment.source) = segments.flatMap Segment.target := by
  have converted := convertBlocks_parts (Segment.settled_parts segments)
  simp only [List.flatMap_map, Segment.source_part, Segment.target_part] at converted
  exact converted

mutual

/-- Well-nested content: text, ordinary tags and whole blocks, one after the other. -/
inductive Content where
  | done
  | text (text : PlainText) (rest : Content)
  | tag (tag : OrdinaryTag) (rest : Content)
  | ifThen (condition : Attribute) (slack : Slack) (body : Content) (branches : Branches)
      (rest : Content)
  | forEach (head : LoopTag) (slack : Slack) (body : Content) (rest : Content)
  /-- A loop with content for no items; what stands behind that content belongs to it. -/
  | forEachOrEmpty (head : LoopTag) (slack : Slack) (body : Content) (emptySlack : Slack)
      (empty behind : Content) (rest : Content)
  | switchOn (expression : Attribute) (slack : Slack) (cases : Cases) (rest : Content)

/-- The further branches of a condition; what stands behind a branch belongs to it. -/
inductive Branches where
  | done
  | elseIf (condition : Attribute) (slack : Slack) (body behind : Content) (rest : Branches)
  | otherwise (slack : Slack) (body behind : Content) (rest : Branches)

/-- The cases of a choice, with content between them. -/
inductive Cases where
  | done
  | between (content : Content) (rest : Cases)
  | switchCase (value : Attribute) (slack : Slack) (body : Content) (rest : Cases)
  | switchDefault (slack : Slack) (body : Content) (rest : Cases)

end

/-- A block between its tags. -/
def enclosed (opening : BlockTag) (inside : List Segment) : List Segment :=
  .block opening :: (inside ++ [Segment.block (.closing opening.form.block)])

mutual

/-- Content as a run of pieces, every block between its tags. -/
def Content.segments : Content → List Segment
  | .done => []
  | .text piece rest => .text piece :: rest.segments
  | .tag piece rest => .tag piece :: rest.segments
  | .ifThen condition slack body branches rest =>
    enclosed (.ifThen condition slack) (body.segments ++ branches.segments) ++ rest.segments
  | .forEach head slack body rest => enclosed (.forEach head slack) body.segments ++ rest.segments
  | .forEachOrEmpty head slack body emptySlack empty behind rest =>
    enclosed (.forEach head slack)
      (body.segments ++ (enclosed (.whenEmpty emptySlack) empty.segments ++ behind.segments)) ++
      rest.segments
  | .switchOn expression slack cases rest =>
    enclosed (.switchOn expression slack) cases.segments ++ rest.segments

def Branches.segments : Branches → List Segment
  | .done => []
  | .elseIf condition slack body behind rest =>
    enclosed (.elseIf condition slack) body.segments ++ behind.segments ++ rest.segments
  | .otherwise slack body behind rest =>
    enclosed (.otherwise slack) body.segments ++ behind.segments ++ rest.segments

def Cases.segments : Cases → List Segment
  | .done => []
  | .between content rest => content.segments ++ rest.segments
  | .switchCase value slack body rest =>
    enclosed (.switchCase value slack) body.segments ++ rest.segments
  | .switchDefault slack body rest =>
    enclosed (.switchDefault slack) body.segments ++ rest.segments

end

/-- A block of the framework: its head and its content between braces. -/
def braced (head inside : List Char) : List Char := head ++ '\x7b' :: (inside ++ ['\x7d'])

/-- The head of a block that depends on a value. -/
def valuedHead (keyword : String) (value : List Char) : List Char :=
  keyword.toList ++ " (".toList ++ value ++ ") ".toList

/-- The head of a loop, without its brace and the names of its variables. -/
def LoopTag.headText (head : LoopTag) : List Char :=
  valuedHead "@for" (head.item.value ++ " of ".toList ++ head.items.value ++ "; track ".toList ++
    head.track)

mutual

/-- Content as the framework reads it: every block braces its own content, and a further branch
follows the brace that closes the branch before it. -/
def Content.nested : Content → List Char
  | .done => []
  | .text piece rest => piece.chars ++ rest.nested
  | .tag piece rest => '<' :: piece.body ++ rest.nested
  | .ifThen condition _ body branches rest =>
    braced (valuedHead "@if" condition.value) body.nested ++ branches.nested ++ rest.nested
  | .forEach head _ body rest =>
    braced head.headText (head.aliases.flatMap letText ++ body.nested) ++ rest.nested
  | .forEachOrEmpty head _ body _ empty behind rest =>
    braced head.headText (head.aliases.flatMap letText ++ body.nested) ++
      braced " @empty ".toList (empty.nested ++ behind.nested) ++ rest.nested
  | .switchOn expression _ cases rest =>
    braced (valuedHead "@switch" expression.value) cases.nested ++ rest.nested

def Branches.nested : Branches → List Char
  | .done => []
  | .elseIf condition _ body behind rest =>
    braced (valuedHead " @else if" condition.value) (body.nested ++ behind.nested) ++ rest.nested
  | .otherwise _ body behind rest =>
    braced " @else ".toList (body.nested ++ behind.nested) ++ rest.nested

def Cases.nested : Cases → List Char
  | .done => []
  | .between content rest => content.nested ++ rest.nested
  | .switchCase value _ body rest =>
    braced (valuedHead "@case" value.value) body.nested ++ rest.nested
  | .switchDefault _ body rest => braced "@default ".toList body.nested ++ rest.nested

end

section Nesting

variable (segments : List Segment)

private theorem enclosed_whole {opening : BlockTag}
    (whole : opening.form.block.closingText = "\x7d") :
    (enclosed opening segments).flatMap Segment.target =
      opening.target ++ (segments.flatMap Segment.target ++ ['\x7d']) := by
  simp [enclosed, Segment.target, BlockTag.target, whole, fixed]

private theorem enclosed_part {opening : BlockTag} (part : opening.form.block.closingText = "") :
    (enclosed opening segments).flatMap Segment.target =
      opening.target ++ segments.flatMap Segment.target := by
  simp [enclosed, Segment.target, BlockTag.target, part, fixed]

private theorem enclosed_ifThen (condition : Attribute) (slack : Slack) :
    (enclosed (.ifThen condition slack) segments).flatMap Segment.target =
      braced (valuedHead "@if" condition.value) (segments.flatMap Segment.target) := by
  rw [enclosed_whole segments rfl]
  simp [BlockTag.target, framed, braced, valuedHead]

private theorem enclosed_forEach (head : LoopTag) (slack : Slack) :
    (enclosed (.forEach head slack) segments).flatMap Segment.target =
      braced head.headText (head.aliases.flatMap letText ++ segments.flatMap Segment.target) := by
  rw [enclosed_whole segments rfl]
  simp [BlockTag.target, framed, braced, LoopTag.headText, valuedHead]

private theorem enclosed_switchOn (expression : Attribute) (slack : Slack) :
    (enclosed (.switchOn expression slack) segments).flatMap Segment.target =
      braced (valuedHead "@switch" expression.value) (segments.flatMap Segment.target) := by
  rw [enclosed_whole segments rfl]
  simp [BlockTag.target, framed, braced, valuedHead]

private theorem enclosed_switchCase (value : Attribute) (slack : Slack) :
    (enclosed (.switchCase value slack) segments).flatMap Segment.target =
      braced (valuedHead "@case" value.value) (segments.flatMap Segment.target) := by
  rw [enclosed_whole segments rfl]
  simp [BlockTag.target, framed, braced, valuedHead]

private theorem enclosed_switchDefault (slack : Slack) :
    (enclosed (.switchDefault slack) segments).flatMap Segment.target =
      braced "@default ".toList (segments.flatMap Segment.target) := by
  rw [enclosed_whole segments rfl]
  simp [BlockTag.target, fixed, braced]

private theorem enclosed_elseIf (condition : Attribute) (slack : Slack) :
    (enclosed (.elseIf condition slack) segments).flatMap Segment.target =
      '\x7d' :: valuedHead " @else if" condition.value ++
        '\x7b' :: segments.flatMap Segment.target := by
  rw [enclosed_part segments rfl]
  simp [BlockTag.target, framed, valuedHead]

private theorem enclosed_otherwise (slack : Slack) :
    (enclosed (.otherwise slack) segments).flatMap Segment.target =
      '\x7d' :: " @else ".toList ++ '\x7b' :: segments.flatMap Segment.target := by
  rw [enclosed_part segments rfl]
  simp [BlockTag.target, fixed]

private theorem enclosed_whenEmpty (slack : Slack) :
    (enclosed (.whenEmpty slack) segments).flatMap Segment.target =
      '\x7d' :: " @empty ".toList ++ '\x7b' :: segments.flatMap Segment.target := by
  rw [enclosed_part segments rfl]
  simp [BlockTag.target, fixed]

end Nesting

mutual

theorem Content.segments_target (content : Content) :
    content.segments.flatMap Segment.target = content.nested := by
  cases content with
  | done => rfl
  | text piece rest =>
    simp only [Content.segments, Content.nested, List.flatMap_cons, Segment.target,
      rest.segments_target]
  | tag piece rest =>
    simp only [Content.segments, Content.nested, List.flatMap_cons, Segment.target,
      rest.segments_target]
  | ifThen condition slack body branches rest =>
    simp only [Content.segments, Content.nested, List.flatMap_append, enclosed_ifThen,
      body.segments_target, rest.segments_target, braced, List.append_assoc, List.cons_append,
      List.nil_append, branches.segments_target]
  | forEach head slack body rest =>
    simp only [Content.segments, Content.nested, List.flatMap_append, enclosed_forEach,
      body.segments_target, rest.segments_target]
  | forEachOrEmpty head slack body emptySlack empty behind rest =>
    simp only [Content.segments, Content.nested, List.flatMap_append, enclosed_forEach,
      enclosed_whenEmpty, body.segments_target, empty.segments_target, behind.segments_target,
      rest.segments_target, braced, List.append_assoc, List.cons_append, List.nil_append]
  | switchOn expression slack cases rest =>
    simp only [Content.segments, Content.nested, List.flatMap_append, enclosed_switchOn,
      cases.segments_target, rest.segments_target]

theorem Branches.segments_target (branches : Branches) (tail : List Char) :
    branches.segments.flatMap Segment.target ++ '\x7d' :: tail =
      '\x7d' :: (branches.nested ++ tail) := by
  cases branches with
  | done => rfl
  | elseIf condition slack body behind rest =>
    simp only [Branches.segments, Branches.nested, List.flatMap_append, enclosed_elseIf,
      body.segments_target, behind.segments_target, braced, List.append_assoc, List.cons_append,
      List.nil_append, rest.segments_target]
  | otherwise slack body behind rest =>
    simp only [Branches.segments, Branches.nested, List.flatMap_append, enclosed_otherwise,
      body.segments_target, behind.segments_target, braced, List.append_assoc, List.cons_append,
      List.nil_append, rest.segments_target]

theorem Cases.segments_target (cases : Cases) :
    cases.segments.flatMap Segment.target = cases.nested := by
  cases cases with
  | done => rfl
  | between content rest =>
    simp only [Cases.segments, Cases.nested, List.flatMap_append, content.segments_target,
      rest.segments_target]
  | switchCase value slack body rest =>
    simp only [Cases.segments, Cases.nested, List.flatMap_append, enclosed_switchCase,
      body.segments_target, rest.segments_target]
  | switchDefault slack body rest =>
    simp only [Cases.segments, Cases.nested, List.flatMap_append, enclosed_switchDefault,
      body.segments_target, rest.segments_target]

end

/-- Conversion replaces every block tag of a template by the framework's text and keeps all else;
well-nested blocks become blocks of the framework that are nested alike. -/
theorem convertTemplate_blocks :
    (∀ segments : List Segment,
      convertTemplate (String.ofList (segments.flatMap Segment.source)) =
        String.ofList (segments.flatMap Segment.target)) ∧
    (∀ content : Content,
      convertTemplate (String.ofList (content.segments.flatMap Segment.source)) =
        String.ofList content.nested) := by
  have flat (segments : List Segment) :
      convertTemplate (String.ofList (segments.flatMap Segment.source)) =
        String.ofList (segments.flatMap Segment.target) := by
    rw [convertTemplate, String.toList_ofList, convertBlocks_segments]
  refine ⟨flat, ?_⟩
  intro content
  rw [flat, content.segments_target]

end Blueprint.Markup.Blocks
