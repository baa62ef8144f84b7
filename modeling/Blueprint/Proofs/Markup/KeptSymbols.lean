import Blueprint.Proofs.Markup.ConvertedReading
import Blueprint.Proofs.Markup.PipePlaces

namespace Blueprint.Markup

open Blueprint.Text
open Blueprint.Markup.Blocks

section Conversion

variable {text rest part : List Char} {node : Node} {others found : List Piece}

/-- Conversion turns one piece after the other. -/
theorem convertBlocks_piece (later : ReadsAs rest others)
    (order : ∀ piece ∈ Piece.mk node part rest :: others, piece.InOrder)
    (read : node? (part ++ rest) = some (node, rest)) :
    convertBlocks (part ++ rest) = convertBlocks part ++ convertBlocks rest ∧
      (convertBlocks part = part ∨ ∃ spaces form source target,
        (Piece.mk node part rest).Gives spaces form source target ∧
          convertBlocks part = spaces ++ target) := by
  obtain ⟨parts, settled, split, _⟩ :=
    exists_parts later fun piece member => order piece (List.mem_cons_of_mem _ member)
  have behind : convertBlocks rest = parts.flatMap Part.target := by
    rw [split, convertBlocks_parts settled]
  rcases (order _ List.mem_cons_self).stays_or_gives read settled split with
    stays | ⟨spaces, form, source, target, gives⟩
  · have own : Settled [.kept part] := ⟨keptBefore_alone stays.kept, trivial⟩
    have whole : Settled (.kept part :: parts) := ⟨stays.kept, settled⟩
    have ownTurned := convertBlocks_parts own
    have turned := convertBlocks_parts whole
    simp only [List.flatMap_cons, List.flatMap_nil, List.append_nil, Part.source, Part.target,
      ← split, ← behind] at ownTurned turned
    exact ⟨by rw [turned, ownTurned], Or.inl ownTurned⟩
  · have own : Settled [.kept spaces, .block form source target] := gives.settled trivial
    have whole := gives.settled settled
    have ownTurned := convertBlocks_parts own
    have turned := convertBlocks_parts whole
    have shape : part = spaces ++ source := gives.split
    simp only [List.flatMap_cons, List.flatMap_nil, List.append_nil, Part.source, Part.target,
      ← split, ← behind, ← List.append_assoc, ← shape] at ownTurned turned
    exact ⟨by rw [turned, ownTurned], Or.inr ⟨spaces, form, source, target, gives, ownTurned⟩⟩

private theorem convertBlocks_of_plain (plain : '<' ∉ text) : convertBlocks text = text := by
  have settled : Settled [.kept text] := ⟨keptBefore_of_plain plain, trivial⟩
  simpa [Part.source, Part.target] using convertBlocks_parts settled

end Conversion

section Elements

variable {text : String} {used : Symbols}

theorem elements_of_readsAs {html : String} {found : List Piece} (reads : ReadsAs html.toList found) :
    ∃ used, symbols? html = some used ∧
      used.elements = sortedSet ((elementsOf found).map String.ofList) := by
  refine ⟨_, symbols?_of_readsAs reads, ?_⟩
  rw [elementsOf_eq_map, List.map_map]
  rfl

/-- A template whose symbols are found is read as its pieces. -/
theorem readsAs_of_symbols {html : String} {used : Symbols} (read : symbols? html = some used) :
    ReadsAs html.toList (pieces html.toList) ∧
      used.elements = sortedSet ((elementsOf (pieces html.toList)).map String.ofList) := by
  have scanned : ∃ nodes, scan? html.toList = some nodes := by
    by_cases blank : isBlankString html = true
    · obtain ⟨found, reads, _⟩ := (ReadsAs.done (rfl : skipSpace [] = [])).prepend (not_mem_of_blank blank)
      rw [List.append_nil] at reads
      exact ⟨_, reads.scan⟩
    · rw [symbols?, if_neg blank] at read
      obtain ⟨nodes, scanned, _⟩ := Option.map_eq_some_iff.mp read
      exact ⟨nodes, scanned⟩
  obtain ⟨nodes, scanned⟩ := scanned
  have reads := (readsAs_pieces scanned).1
  obtain ⟨other, same, elements⟩ := elements_of_readsAs reads
  rw [Option.some.inj (read.symm.trans same)]
  exact ⟨reads, elements⟩

/-- An element of a control block, under its name. -/
def isBlockElement (name : String) : Bool := (Block.all.map Block.name).contains name

private theorem isBlockElement_ofList (name : List Char) :
    isBlockElement (String.ofList name) = decide (name ∈ blockNames) := by
  have same : String.ofList name ∈ Block.all.map Block.name ↔ name ∈ blockNames := by
    unfold blockNames
    simp only [List.mem_map]
    refine exists_congr fun block => and_congr_right fun _ => ?_
    rw [← String.toList_inj, String.toList_ofList]
  simp only [isBlockElement, List.contains_eq_mem, same]

theorem elements_converted {html : String} {used : Symbols} (read : symbols? html = some used)
    (order : ∀ piece ∈ pieces html.toList, piece.InOrder) :
    ∃ left, symbols? (convertTemplate html) = some left ∧
      left.elements = used.elements.filter fun name => !isBlockElement name := by
  obtain ⟨reads, elements⟩ := readsAs_of_symbols read
  obtain ⟨parts, settled, split, others, again, names⟩ := exists_parts reads order
  have turned : (convertTemplate html).toList = parts.flatMap Part.target := by
    rw [convertTemplate, String.toList_ofList, split, convertBlocks_parts settled]
  rw [← turned] at again
  obtain ⟨left, found, same⟩ := elements_of_readsAs again
  refine ⟨left, found, ?_⟩
  rw [same, names, elements, ← sortedSet_filter, List.filter_map]
  simp only [Function.comp_def, isBlockElement_ofList, decide_not]

end Elements

section Pipes

variable {text rest part : List Char} {found : List Piece}

/-- A block tag of a template stands outside of interpolations and values. Where it gives way to
nothing, what stands behind it does not become a value of what stands before it. -/
structure Piece.StandsApart (piece : Piece) (template : List Char) : Prop where
  before : ∀ front, template = front ++ (piece.text ++ piece.behind) → Closed front
  within : Closed piece.text
  behind : convertBlocks piece.text = [] → ∀ c ∈ piece.behind.head?, c ≠ '=' ∧ c ≠ '"'

-- What stands before a piece that ends the template is settled by its length.
instance (piece : Piece) (template : List Char) : Decidable (piece.StandsApart template) :=
  decidable_of_iff ((piece.text ++ piece.behind <:+ template →
      Closed (template.take (template.length - (piece.text ++ piece.behind).length))) ∧
      Closed piece.text ∧ (convertBlocks piece.text = [] → ∀ c ∈ piece.behind.head?, c ≠ '=' ∧ c ≠ '"'))
    ⟨fun ⟨before, within, behind⟩ => by
        refine ⟨fun front split => ?_, within, behind⟩
        have stands := before ⟨front, split.symm⟩
        rwa [split, List.length_append, Nat.add_sub_cancel, List.take_left] at stands,
      fun ⟨before, within, behind⟩ => by
        refine ⟨fun ⟨front, split⟩ => before _ ?_, within, behind⟩
        rw [← split, List.length_append, Nat.add_sub_cancel, List.take_left]⟩

private theorem framed_head {target : List Char} (framed : Framed target) :
    ∀ c ∈ target.head?, c ≠ '=' ∧ c ≠ '"' := by
  intro c first
  rcases framed.starts c first with rfl | rfl <;> decide

private theorem framed_apart {target : List Char} (framed : Framed target) (rest : List Char) :
    Apart target rest := by
  refine Or.inl fun c last => ?_
  rcases framed.ends c last with rfl | rfl | rfl <;> decide

/-- Conversion begins no value where none began. -/
theorem head_of_converted (reads : ReadsAs text found) (order : ∀ piece ∈ found, piece.InOrder)
    (behind : ∀ piece ∈ found, convertBlocks piece.text = [] →
      ∀ c ∈ piece.behind.head?, c ≠ '=' ∧ c ≠ '"')
    (free : ∀ c ∈ text.head?, c ≠ '=' ∧ c ≠ '"') :
    ∀ c ∈ (convertBlocks text).head?, c ≠ '=' ∧ c ≠ '"' := by
  induction reads with
  | done blank => rwa [convertBlocks_of_plain (plain_of_skipped blank)]
  | @piece part rest node others nonempty read later ih =>
    obtain ⟨turned, own⟩ := convertBlocks_piece later order read
    rw [turned]
    by_cases empty : convertBlocks part = []
    · rw [empty, List.nil_append]
      exact ih (fun piece member => order piece (List.mem_cons_of_mem _ member))
        (fun piece member => behind piece (List.mem_cons_of_mem _ member))
        (behind _ List.mem_cons_self empty)
    · rw [head?_append_eq empty _ [], List.append_nil]
      rcases own with same | ⟨spaces, form, source, target, gives, same⟩
      · rw [same]
        rwa [head?_append_eq nonempty _ [], List.append_nil] at free
      · rw [same]
        cases spaces with
        | nil => exact framed_head gives.framed
        | cons c spaces =>
          intro d first
          obtain rfl : c = d := Option.some.inj first
          have space := gives.blank c List.mem_cons_self
          constructor <;> rintro rfl <;> exact absurd space (by decide)

theorem ReadsAs.text_ne_nil (reads : ReadsAs text found) : ∀ piece ∈ found, piece.text ≠ [] := by
  induction reads with
  | done => simp
  | piece nonempty _ _ ih => simpa [nonempty] using ih

theorem Piece.StandsApart.suffix {piece : Piece} {lead : List Char}
    (stands : piece.StandsApart (lead ++ text)) : piece.StandsApart text := by
  refine ⟨fun front split => ?_, stands.within, stands.behind⟩
  have whole : Closed (lead ++ front) :=
    stands.before (lead ++ front) (by rw [split, List.append_assoc])
  exact whole.suffix

section Meeting

variable {piece : Piece} {spaces source target : List Char} {form : TagForm}

/-- A block tag begins with a blank or a bracket and ends with a bracket. -/
theorem Piece.Gives.ends (gives : piece.Gives spaces form source target) (rest : List Char) :
    (∀ c ∈ (piece.text ++ rest).head?, (c ≠ '=' ∧ c ≠ '"') ∧ c ≠ '\x7b') ∧
      piece.text.getLast? = some '>' := by
  obtain ⟨inner, shape⟩ := gives.closes
  rw [gives.split, shape]
  refine ⟨fun c first => ?_, ?_⟩
  · cases spaces with
    | nil =>
      obtain rfl : '<' = c := Option.some.inj first
      decide
    | cons d spaces =>
      obtain rfl : d = c := Option.some.inj first
      have space := gives.blank d List.mem_cons_self
      refine ⟨⟨?_, ?_⟩, ?_⟩ <;> rintro rfl <;> exact absurd space (by decide)
  · rw [← List.cons_append, ← List.append_assoc, List.getLast?_concat]

/-- No value begins or ends in what a block tag gives way to. -/
theorem Piece.Gives.apart (gives : piece.Gives spaces form source target) (rest : List Char) :
    ClosesValues (spaces ++ target) ∧ Apart (spaces ++ target) rest := by
  have clear (sign : Char) (visible : isSpace sign = false) : sign ∉ spaces := by
    intro member
    rw [gives.blank sign member] at visible
    cases visible
  refine ⟨closesValues_of_unquoted ?_, ?_⟩
  · simp [clear '"' (by decide), gives.framed.unquoted]
  · cases shape : target.getLast? with
    | some c =>
      refine (framed_apart gives.framed rest).imp_left fun ends d last => ends d ?_
      rw [List.getLast?_append, shape] at last
      rw [shape]
      exact last
    | none =>
      refine Or.inl fun c last => ?_
      rw [List.getLast?_append, shape] at last
      have space := gives.blank c (List.mem_of_getLast? last)
      have blanks : ∀ c ∈ [' ', '\t', '\n', '\r'], c ≠ '=' ∧ isBindingChar c = false := by decide
      exact blanks c (by simpa [isSpace, or_assoc] using space)

/-- What a block tag gives way to is not the tag. -/
theorem Piece.Gives.differs (gives : piece.Gives spaces form source target) :
    spaces ++ target ≠ piece.text := by
  obtain ⟨inner, shape⟩ := gives.closes
  rw [gives.split]
  intro same
  have sign := gives.framed.starts '<' (by rw [List.append_cancel_left same, shape]; rfl)
  rcases sign with sign | sign <;> exact absurd sign (by decide)

theorem Piece.Gives.divides {kept name : List Char} (gives : piece.Gives spaces form source target)
    (stands : piece.StandsApart (kept ++ (piece.text ++ piece.behind)))
    (member : name ∈ pipesOf (kept ++ (piece.text ++ piece.behind))) :
    name ∈ pipesOf kept ∨ name ∈ pipesOf piece.text ∨ name ∈ pipesOf piece.behind := by
  obtain ⟨heads, last⟩ := gives.ends piece.behind
  refine (mem_pipesOf_meeting (stands.before kept rfl) (Or.inr fun c first => (heads c first).1)
    (Or.inr fun first => (heads _ first).2 rfl) member).imp_right fun behind => ?_
  refine mem_pipesOf_meeting stands.within (Or.inl fun c final => ?_) (Or.inl ?_) behind
  · obtain rfl : '>' = c := Option.some.inj (last.symm.trans final)
    decide
  · rw [last]
    decide

end Meeting

/-- Conversion takes away the pipes within block tags and no other. -/
theorem mem_pipesOf_converted (reads : ReadsAs text found)
    (order : ∀ piece ∈ found, piece.InOrder) (kept : List Char)
    (apart : ∀ piece ∈ found, convertBlocks piece.text ≠ piece.text →
      piece.StandsApart (kept ++ text)) {name : List Char}
    (member : name ∈ pipesOf (kept ++ text)) :
    name ∈ pipesOf (kept ++ convertBlocks text) ∨
      ∃ piece ∈ found, convertBlocks piece.text ≠ piece.text ∧ name ∈ pipesOf piece.text := by
  induction reads generalizing kept with
  | done blank =>
    rw [convertBlocks_of_plain (plain_of_skipped blank)]
    exact Or.inl member
  | @piece part rest node others nonempty read later ih =>
    have orders : ∀ piece ∈ others, piece.InOrder :=
      fun piece member => order piece (List.mem_cons_of_mem _ member)
    have widen (found : ∃ piece ∈ others, convertBlocks piece.text ≠ piece.text ∧
        name ∈ pipesOf piece.text) :
        ∃ piece ∈ Piece.mk node part rest :: others, convertBlocks piece.text ≠ piece.text ∧
          name ∈ pipesOf piece.text := by
      obtain ⟨piece, listed, own⟩ := found
      exact ⟨piece, List.mem_cons_of_mem _ listed, own⟩
    obtain ⟨turned, same | ⟨spaces, form, source, target, gives, own⟩⟩ :=
      convertBlocks_piece later order read
    · rw [turned, same, ← List.append_assoc]
      rw [← List.append_assoc] at member
      refine (ih orders (kept ++ part) (fun piece listed differs => ?_) member).imp_right widen
      rw [List.append_assoc]
      exact apart piece (List.mem_cons_of_mem _ listed) differs
    · have differs : convertBlocks part ≠ part := by
        rw [own]
        exact gives.differs
      have stands := apart _ List.mem_cons_self differs
      have closed : Closed kept := stands.before kept rfl
      obtain ⟨closes, meets⟩ := gives.apart (convertBlocks rest)
      rw [← own] at closes meets
      have turnedHead : ∀ c ∈ (convertBlocks (part ++ rest)).head?, c ≠ '=' ∧ c ≠ '"' := by
        have whole := ReadsAs.piece nonempty read later
        refine head_of_converted whole order (fun piece listed empty => ?_)
          fun c first => ((gives.ends rest).1 c first).1
        refine (apart piece listed ?_).behind empty
        rw [empty]
        exact (whole.text_ne_nil piece listed).symm
      rcases gives.divides stands member with front | inside | further
      · exact Or.inl (mem_pipesOf_front closed (Or.inr turnedHead) front)
      · exact Or.inr ⟨_, List.mem_cons_self, differs, inside⟩
      · have later : ∀ piece ∈ others, convertBlocks piece.text ≠ piece.text →
            piece.StandsApart ([] ++ rest) := by
          intro piece listed differs
          have stands := apart piece (List.mem_cons_of_mem _ listed) differs
          rw [← List.append_assoc] at stands
          exact stands.suffix
        refine (ih orders [] later further).imp (fun found => ?_) widen
        rw [List.nil_append] at found
        rw [turned] at turnedHead ⊢
        exact mem_pipesOf_behind closed.values (Or.inr turnedHead)
          (mem_pipesOf_behind closes meets found)

/-- Conversion loses no symbol of a template but what stands in its block tags. The elements of the
converted template are those of the template without the names of blocks; its pipes are those of the
template, apart from pipes that an author applies within a block tag. -/
theorem symbols_converted {html : String} {used : Symbols} (read : symbols? html = some used)
    (order : ∀ piece ∈ pieces html.toList, piece.InOrder) :
    (∃ left, symbols? (convertTemplate html) = some left ∧
      left.elements = used.elements.filter fun name => !isBlockElement name) ∧
    ((∀ piece ∈ pieces html.toList, convertBlocks piece.text ≠ piece.text →
        piece.StandsApart html.toList) →
      ∀ name ∈ pipeNames html, name ∈ pipeNames (convertTemplate html) ∨
        ∃ piece ∈ pieces html.toList, convertBlocks piece.text ≠ piece.text ∧
          name ∈ pipeNames (String.ofList piece.text)) := by
  refine ⟨elements_converted read order, fun apart name member => ?_⟩
  simp only [pipeNames, mem_sortedSet, List.mem_map, convertTemplate, String.toList_ofList] at *
  obtain ⟨chars, listed, rfl⟩ := member
  have reads := (readsAs_of_symbols read).1
  rcases mem_pipesOf_converted reads order [] (by simpa only [List.nil_append] using apart)
    (by rwa [List.nil_append]) with kept | ⟨piece, stands, differs, own⟩
  · rw [List.nil_append] at kept
    exact Or.inl ⟨chars, kept, rfl⟩
  · exact Or.inr ⟨piece, stands, differs, chars, own, rfl⟩

/-- A list that is shown for a few items only, with a comparison in its condition and in its text. -/
def shortList : String :=
  "<if condition=\"n < 5\"><app-list [items]=\"all | sort\"></app-list></if>\x7b\x7b a < b | date \x7d\x7d"

theorem symbols_converted_shortList :
    ∃ used, symbols? shortList = some used ∧
      (∃ left, symbols? (convertTemplate shortList) = some left ∧
        left.elements = used.elements.filter fun name => !isBlockElement name) ∧
      ∀ name ∈ pipeNames shortList, name ∈ pipeNames (convertTemplate shortList) ∨
        ∃ piece ∈ pieces shortList.toList, convertBlocks piece.text ≠ piece.text ∧
          name ∈ pipeNames (String.ofList piece.text) := by
  have letters : shortList.toList = _ := toList_of_eq rfl
  have visible : isBlankString shortList = false := by
    rw [isBlankString, letters]
    decide
  have scanned : (scan? shortList.toList).isSome = true := by
    rw [letters]
    decide
  obtain ⟨nodes, found⟩ := Option.isSome_iff_exists.mp scanned
  have read : symbols? shortList = some (Symbols.ofNodes nodes) := by
    rw [symbols?, visible, found]
    rfl
  have order : ∀ piece ∈ pieces shortList.toList, piece.InOrder := by
    rw [letters]
    decide
  have apart : ∀ piece ∈ pieces shortList.toList, convertBlocks piece.text ≠ piece.text →
      piece.StandsApart shortList.toList := by
    rw [letters]
    decide
  obtain ⟨elements, pipes⟩ := symbols_converted read order
  exact ⟨_, read, elements, pipes apart⟩

/-- A greeting that waits for a value. -/
def awaited : String := "<if condition=\"ready | async\">hello</if>"

/-- A list whose condition compares two values without a blank. -/
def compared : String := "<if condition=\"a<b\"><app-list></app-list></if>"

/-- A pipe in a condition is not found in the converted template, and a comparison in a condition can
keep the converted template from being read, so that its elements are lost. -/
theorem condition_symbols_lost :
    ((symbols? awaited).isSome = true ∧ "async" ∈ pipeNames awaited ∧
      "async" ∉ pipeNames (convertTemplate awaited)) ∧
    (∃ used, symbols? compared = some used ∧ "app-list" ∈ used.elements) ∧
      isBlockElement "app-list" = false ∧ symbols? (convertTemplate compared) = none := by
  have waits : awaited.toList = _ := toList_of_eq rfl
  have compares : compared.toList = _ := toList_of_eq rfl
  have scanned : (symbols? compared).isSome = true := by
    simp only [symbols?, isBlankString, compares]
    decide
  obtain ⟨used, read⟩ := Option.isSome_iff_exists.mp scanned
  have named : "app-list" ∈ used.elements := by
    rw [(readsAs_of_symbols read).2, mem_sortedSet, compares]
    decide
  refine ⟨?_, ⟨used, read, named⟩, by decide, ?_⟩
  · simp only [symbols?, isBlankString, pipeNames, mem_sortedSet, convertTemplate,
      String.toList_ofList, waits]
    decide
  · simp only [symbols?, isBlankString, convertTemplate, String.toList_ofList, compares]
    decide

end Pipes

end Blueprint.Markup
