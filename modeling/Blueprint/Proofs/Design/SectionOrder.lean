import Mathlib.Data.List.Pairwise
import Blueprint.Design.Check
import Blueprint.Proofs.Design.Forms

/-!
The order of the sections of a unit. A unit whose sections stand in another order is accepted as well
and is the same unit, unless a methods section has a type whose arguments do not end in it and another
section, or what follows the unit, has an angle bracket that closes them.
-/

namespace Blueprint.Design

open Reader
open Blueprint.Text (toList_of_eq)

/-- The text of a unit: its header, the texts of different sections, and its end. -/
structure UnitText (form : BlockForm) where
  header : List Char
  sections : List (SectionText form.parts)
  closing : List Char
  headed : ReadsThrough form.heading header
  parted : EndsInGap header
  distinct : (sections.map SectionText.place).Nodup
  closed : ∃ state, ((BlockForm.ended form.tail state) ⟨closing, 0⟩).result.isSome = true

namespace UnitText

variable {form : BlockForm}

def chars (text : UnitText form) : List Char :=
  text.header ++ (joined text.sections ++ text.closing)

/-- The text with its sections in another order. -/
def reordered (text : UnitText form) {sections : List (SectionText form.parts)}
    (permuted : text.sections.Perm sections) : UnitText form :=
  { text with
    sections
    distinct := ((permuted.map SectionText.place).nodup_iff).mp text.distinct }

private theorem length_reordered (text : UnitText form) {sections : List (SectionText form.parts)}
    (permuted : text.sections.Perm sections) :
    (text.reordered permuted).chars.length = text.chars.length := by
  change (text.header ++ (joined sections ++ text.closing)).length =
    (text.header ++ (joined text.sections ++ text.closing)).length
  rw [List.length_append, List.length_append, List.length_append, List.length_append,
    length_joined_of_perm permuted]

private theorem headIn_closing (text : UnitText form) (isForm : form.IsForm) :
    HeadIn StartsEnd text.closing := by
  obtain ⟨state, some⟩ := text.closed
  obtain ⟨⟨unit, behind⟩, read⟩ := Option.isSome_iff_exists.mp some
  exact isForm.isTail.starts read

end UnitText

section Reading

variable {form : BlockForm}

/-- A unit is read from its heading over its sections to its end. -/
theorem BlockForm.result_reader (form : BlockForm) (cursor : Cursor) :
    (form.reader cursor).result = (form.heading cursor).result.bind fun head =>
      (sections form.parts head.1 head.2).result.bind fun filled =>
        (ended form.tail filled.1 filled.2).result.map fun found =>
          (form.wrap found.1, found.2) := by
  change ((block form.start form.head form.entries form.tail >>= fun unit => pure (form.wrap unit))
    cursor).result = _
  simp only [block, heading, ended, result_bind, Option.bind_assoc, Option.map_bind,
    Function.comp_def]
  rfl

/-- A heading is read in front of any text, and it starts the unit in the same way. -/
theorem UnitText.exists_begun (text : UnitText form) (isForm : form.IsForm) :
    ∃ begun gap, IsLayout gap ∧ ∀ more, ∃ unit place,
      (form.heading ⟨text.header ++ more, 0⟩).result = some (unit, ⟨gap ++ more, place⟩) ∧
        place + gap.length = text.header.length ∧ form.erase begun = form.erase unit := by
  obtain ⟨begun, behind, read, layout⟩ := text.headed
  refine ⟨begun, behind.rest, layout, fun more => ?_⟩
  obtain ⟨context, rfl, tame⟩ : ∃ context : Context, context.more = more ∧
      ∀ rest, context.tame rest ↔ rest <:+ text.header :=
    ⟨Context.within text.header more text.parted, rfl, fun _ => Iff.rfl⟩
  obtain ⟨starts, steady⟩ := isForm.heading context
  obtain ⟨unit, ⟨rest, place⟩, known, rfl, same⟩ :=
    steady.keeps ((tame _).mpr List.suffix_rfl) read trivial 0
  have moved := (steady.moves known).offset
  refine ⟨unit, place, known, ?_, same⟩
  simp only [List.length_append] at moved
  omega

/-- What reading a unit gives: its sections change it as each of them does on its own, in the order in
which they stand, and a required one must not be missing. -/
theorem UnitText.exists_reader (text : UnitText form) (isForm : form.IsForm) :
    ∃ begun, ∀ sections : List (SectionText form.parts),
      (sections.map SectionText.place).Nodup → TypesEnd sections text.closing →
      ∃ filled behind,
        (form.reader ⟨text.header ++ (joined sections ++ text.closing), 0⟩).result =
          (if (((List.finRange form.parts.length).diff (sections.map SectionText.place)).map
              form.parts.get).any (·.required) then none
            else (BlockForm.ended form.tail filled behind).result.map fun found =>
              (form.wrap found.1, found.2)) ∧
        behind.skip = Cursor.skip ⟨text.closing, text.header.length + (joined sections).length⟩ ∧
        form.erase filled =
          form.erase (sections.foldl (fun unit text => text.change unit) begun) := by
  obtain ⟨begun, gap, layout, headed⟩ := text.exists_begun isForm
  refine ⟨begun, fun sections distinct typesEnd => ?_⟩
  obtain ⟨unit, place, read, length, same⟩ := headed (joined sections ++ text.closing)
  have enough : sections.length ≤ form.parts.length := by
    have short :=
      (List.subperm_of_subset distinct fun place _ => List.mem_finRange place).length_le
    rwa [List.length_map, List.length_finRange] at short
  obtain ⟨filled, behind, result, skipped, changed⟩ := sectionsUpTo_joined isForm.isPart
    isForm.independent (text.headIn_closing isForm) distinct typesEnd
    (List.nodup_finRange form.parts.length) (fun text _ => List.mem_finRange text.place) enough
    layout place same.symm
  rw [List.map_get_finRange] at result
  refine ⟨filled, behind, ?_, ?_, changed⟩
  · rw [form.result_reader, read, Option.bind_some]
    dsimp only [Reader.sections]
    rw [result]
    split <;> rfl
  · rw [skipped, length]

/-- The sections of a unit are read in another order, and the unit is the same. -/
theorem UnitText.reader_reordered (text : UnitText form) (isForm : form.IsForm)
    (typesEnd : TypesEnd text.sections text.closing) {sections : List (SectionText form.parts)}
    (permuted : text.sections.Perm sections) {unit : Unit} {behind : Cursor}
    (read : (form.reader ⟨text.chars, 0⟩).result = some (unit, behind)) :
    ∃ again, (form.reader ⟨(text.reordered permuted).chars, 0⟩).result = some (again, behind) ∧
      again.unplaced = unit.unplaced := by
  obtain ⟨begun, reads⟩ := text.exists_reader isForm
  obtain ⟨filled, middle, result, skipped, changed⟩ := reads text.sections text.distinct typesEnd
  obtain ⟨filledToo, middleToo, resultToo, skippedToo, changedToo⟩ :=
    reads sections (text.reordered permuted).distinct (typesEnd.of_perm permuted)
  rw [UnitText.chars, result] at read
  split at read
  · cases read
  · rename_i given
    obtain ⟨⟨state, last⟩, known, alike⟩ := Option.map_eq_some_iff.mp read
    obtain ⟨rfl, rfl⟩ := Prod.mk.inj alike
    have same : form.erase filled = form.erase filledToo := by
      rw [changed, changedToo, foldl_change_of_perm isForm.independent text.distinct permuted]
    have there : middle.skip = middleToo.skip := by
      rw [skipped, skippedToo, length_joined_of_perm permuted]
    obtain ⟨again, knownToo, kept⟩ := isForm.isTail.reads same there known
    refine ⟨form.wrap again, ?_, ?_⟩
    · change (form.reader ⟨text.header ++ (joined sections ++ text.closing), 0⟩).result = _
      rw [resultToo, ← (permuted.map SectionText.place).diff_left, if_neg given, knownToo]
      rfl
    · rw [isForm.wraps, isForm.wraps, kept]

end Reading

section Choice

variable {ι : Type*} {α : Type} {items : List ι} {reader : ι → Reader α} {cursor : Cursor}

private theorem firstOf_of_fails (fails : ∀ item ∈ items, (reader item cursor).result = none) :
    (firstOf (items.map reader) cursor).result = none := by
  induction items with
  | nil => rfl
  | cons item items ih =>
    obtain ⟨here, later⟩ := List.forall_mem_cons.mp fails
    change (orElse (reader item) (firstOf (items.map reader)) cursor).result = none
    rw [result_orElse, here, ih later]
    rfl

/-- Where all others fail, one reader decides. -/
theorem firstOf_of_others_fail {item : ι} (member : item ∈ items)
    (fails : ∀ other ∈ items, other ≠ item → (reader other cursor).result = none) :
    (firstOf (items.map reader) cursor).result = (reader item cursor).result := by
  induction items with
  | nil => cases member
  | cons first items ih =>
    obtain ⟨here, later⟩ := List.forall_mem_cons.mp fails
    change (orElse (reader first) (firstOf (items.map reader)) cursor).result = _
    rw [result_orElse]
    by_cases same : first = item
    · subst same
      cases found : (reader first cursor).result with
      | some found => rfl
      | none =>
        refine firstOf_of_fails fun other listed => ?_
        by_cases again : other = first
        · rw [again, found]
        · exact later other listed again
    · rw [here same, Option.none_or]
      exact ih ((List.mem_cons.mp member).resolve_left (Ne.symm same)) later

end Choice

section Designs

variable {form : BlockForm}

theorem BlockForm.starts_of_reads {cursor behind : Cursor} {state : form.State}
    (read : (form.heading cursor).result = some (state, behind)) :
    (Lexeme.sign form.start (ahead cursor.rest)).isSome = true := by
  rw [heading, result_bind] at read
  obtain ⟨⟨offset, same⟩, ⟨⟩, read⟩ := Option.bind_eq_some_iff.mp read
  rw [result_bind] at read
  obtain ⟨found, opened, _⟩ := Option.bind_eq_some_iff.mp read
  rw [word, result_token] at opened
  obtain ⟨found, known, _⟩ := Option.map_eq_some_iff.mp opened
  obtain ⟨rest, behind, _⟩ := Option.bind_eq_some_iff.mp known
  rw [Lexeme.sign, behind]
  rfl

/-- A text with the heading of a kind is read as a unit of this kind. -/
theorem BlockForm.result_unit (listed : form ∈ all) {cursor behind : Cursor} {state : form.State}
    (read : (form.heading cursor).result = some (state, behind)) :
    (Reader.unit cursor).result = (form.reader cursor).result := by
  have : Std.Symm fun one two : BlockForm => Reader.Apart one.start two.start :=
    ⟨fun one two apart => ⟨apart.2, apart.1⟩⟩
  rw [unit_eq]
  refine firstOf_of_others_fail listed fun other member different => ?_
  have apart := apart_all.forall listed member (Ne.symm different)
  rw [other.result_reader, Option.bind_eq_none_iff]
  intro found known
  have opened := starts_of_reads known
  rw [apart.not_both (starts_of_reads read)] at opened
  cases opened

/-- Units up to the end of the text. -/
def unitsUpTo (count : Nat) : Reader (List Unit) := do
  let units ← upTo Reader.unit count
  atEnd
  return units

theorem result_design (text : List Char) :
    (design ⟨text, 0⟩).result = (unitsUpTo text.length ⟨text, 0⟩).result := by
  rw [design, result_bind, unitsUpTo, result_bind]
  rfl

/-- The first unit, and the units behind it. -/
theorem result_unitsUpTo_succ {count : Nat} {cursor behind : Cursor} {unit : Unit}
    (read : (Reader.unit cursor).result = some (unit, behind)) :
    (unitsUpTo (count + 1) cursor).result =
      (unitsUpTo count behind).result.map fun found => (unit :: found.1, found.2) := by
  rw [unitsUpTo, result_bind, result_upTo_succ, read, Option.elim_some, unitsUpTo, result_bind,
    Option.bind_map, Option.map_bind]
  congr 1
  funext found
  rw [Function.comp_apply, Function.comp_apply, result_bind, result_bind]
  cases (atEnd found.2).result <;> rfl

theorem exists_unit_of_unitsUpTo {count : Nat} {cursor last : Cursor} {units : List Unit}
    (occupied : Occupied cursor.rest)
    (read : (unitsUpTo (count + 1) cursor).result = some (units, last)) :
    ∃ unit behind, (Reader.unit cursor).result = some (unit, behind) := by
  cases one : (Reader.unit cursor).result with
  | some found => exact ⟨found.1, found.2, rfl⟩
  | none =>
    rw [unitsUpTo, result_bind, result_upTo_succ, one] at read
    have ended : (atEnd cursor).result = none := by
      rw [atEnd, Cursor.rest_skip, if_neg]
      rwa [List.isEmpty_iff]
    rw [Option.elim_none, Option.bind_some, result_bind, ended] at read
    cases read

theorem readUnits_eq_ok_iff {text : List Char} {units : List Unit} :
    readUnits text = .ok units ↔ ∃ behind, (design ⟨text, 0⟩).result = some (units, behind) := by
  unfold readUnits
  split
  · rename_i known
    rw [known]
    constructor
    · rintro ⟨⟩
      exact ⟨_, rfl⟩
    · rintro ⟨behind, ⟨⟩⟩
      rfl
  · rename_i known
    rw [known]
    constructor
    · rintro ⟨⟩
    · rintro ⟨behind, ⟨⟩⟩

theorem parseChars_eq_ok_iff {text : List Char} {units : List Unit} :
    parseChars text = .ok units ↔
      ∃ written, readUnits text = .ok written ∧ checkUnits written = .ok units := by
  unfold parseChars
  cases readUnits text with
  | error offset =>
    constructor
    · rintro ⟨⟩
    · rintro ⟨written, ⟨⟩, _⟩
  | ok written =>
    dsimp only
    cases checked : checkUnits written with
    | error problem =>
      constructor
      · rintro ⟨⟩
      · rintro ⟨_, ⟨⟩, passed⟩
        rw [checked] at passed
        cases passed
    | ok units =>
      constructor
      · rintro ⟨⟩
        exact ⟨written, rfl, checked⟩
      · rintro ⟨_, ⟨⟩, passed⟩
        obtain rfl := Except.ok.inj (checked.symm.trans passed)
        rfl

/-- A design that starts with a unit is read with the sections of the unit in another order. -/
theorem UnitText.readUnits_reordered (text : UnitText form) (listed : form ∈ BlockForm.all)
    (typesEnd : TypesEnd text.sections text.closing) {sections : List (SectionText form.parts)}
    (permuted : text.sections.Perm sections) {units : List Unit}
    (read : readUnits text.chars = .ok units) :
    ∃ again, readUnits (text.reordered permuted).chars = .ok again ∧
      again.map Unit.unplaced = units.map Unit.unplaced := by
  have isForm := BlockForm.isForm_all form listed
  obtain ⟨begun, gap, _, headed⟩ := text.exists_begun isForm
  obtain ⟨_, _, head, _⟩ := headed (joined text.sections ++ text.closing)
  obtain ⟨_, _, headToo, _⟩ := headed (joined sections ++ text.closing)
  have unitToo : (Reader.unit ⟨(text.reordered permuted).chars, 0⟩).result =
      (form.reader ⟨(text.reordered permuted).chars, 0⟩).result :=
    BlockForm.result_unit listed headToo
  obtain ⟨starts, heading⟩ := isForm.heading .void
  have occupied : Occupied text.chars := (heading.moves head).head.occupied
  obtain ⟨count, size⟩ : ∃ count, text.chars.length = count + 1 :=
    Nat.exists_eq_add_one_of_ne_zero fun none => occupied (by rw [List.length_eq_zero_iff.mp none]; rfl)
  obtain ⟨last, whole⟩ := readUnits_eq_ok_iff.mp read
  rw [result_design, size] at whole
  obtain ⟨unit, behind, one⟩ := exists_unit_of_unitsUpTo occupied whole
  rw [result_unitsUpTo_succ one] at whole
  obtain ⟨⟨rest, final⟩, later, split⟩ := Option.map_eq_some_iff.mp whole
  obtain ⟨rfl, -⟩ := Prod.mk.inj split
  obtain ⟨again, oneToo, same⟩ := text.reader_reordered isForm typesEnd permuted
    ((BlockForm.result_unit listed head).symm.trans one)
  refine ⟨again :: rest, readUnits_eq_ok_iff.mpr ⟨final, ?_⟩, ?_⟩
  · rw [result_design, text.length_reordered permuted, size,
      result_unitsUpTo_succ (unitToo.trans oneToo), later]
    rfl
  · rw [List.map_cons, List.map_cons, same]

/-- The sections of a unit may stand in any order. -/
theorem UnitText.parse_reordered (text : UnitText form) (listed : form ∈ BlockForm.all)
    (typesEnd : TypesEnd text.sections text.closing) {sections : List (SectionText form.parts)}
    (permuted : text.sections.Perm sections) {units : List Unit}
    (accepted : parseChars text.chars = .ok units) :
    ∃ again, parseChars (text.reordered permuted).chars = .ok again ∧
      again.map Unit.unplaced = units.map Unit.unplaced := by
  obtain ⟨written, read, passed⟩ := parseChars_eq_ok_iff.mp accepted
  obtain ⟨writtenToo, readToo, same⟩ := text.readUnits_reordered listed typesEnd permuted read
  have checks := checkUnits_unplaced writtenToo
  rw [same, checkUnits_unplaced, passed] at checks
  cases passedToo : checkUnits writtenToo with
  | error problem =>
    rw [passedToo] at checks
    cases checks
  | ok again =>
    rw [passedToo] at checks
    exact ⟨again, parseChars_eq_ok_iff.mpr ⟨writtenToo, readToo, passedToo⟩,
      (Except.ok.inj checks).symm⟩

end Designs

section Pages

/-- A methods section that does not end the type arguments in it. -/
def rowsMethods : SectionText BlockForm.page.parts where
  place := ⟨6, by decide⟩
  chars := "    methods:\n        - load(): List<Row>\n        ```\n        pass\n        ```\n".toList
  readable := by
    simp (disch := rfl) only [toList_of_eq]
    decide
  ended := by
    simp (disch := rfl) only [toList_of_eq]
    decide
  plain := by
    simp (disch := rfl) only [toList_of_eq]
    decide

def rowsPath : SectionText BlockForm.page.parts where
  place := ⟨1, by decide⟩
  chars := "    path: \"/rows\"\n".toList
  readable := by decide
  ended := by decide
  plain := by decide

def rowsProperties : SectionText BlockForm.page.parts where
  place := ⟨5, by decide⟩
  chars := "    properties:\n        - rows: Row[];\n".toList
  readable := by
    simp (disch := rfl) only [toList_of_eq]
    decide
  ended := by
    simp (disch := rfl) only [toList_of_eq]
    decide
  plain := by
    simp (disch := rfl) only [toList_of_eq]
    decide +kernel

def boldTemplate : SectionText BlockForm.page.parts where
  place := ⟨7, by decide⟩
  chars := "    template:\n    ```\n    <b>hello</b>\n    ```\n".toList
  readable := by
    simp (disch := rfl) only [toList_of_eq]
    decide
  ended := by
    simp (disch := rfl) only [toList_of_eq]
    decide +kernel
  plain := by
    simp (disch := rfl) only [toList_of_eq]
    decide

/-- A page of some sections. -/
def homePage (sections : List (SectionText BlockForm.page.parts))
    (distinct : (sections.map SectionText.place).Nodup) : UnitText BlockForm.page where
  header := "Page Home\n".toList
  sections
  closing := "end\n".toList
  headed := by decide
  parted := by
    intro c last
    obtain rfl := Option.some.inj last
    rfl
  distinct
  closed := ⟨{ offset := 0, name := "" }, by decide⟩

private theorem chars_homePage {sections : List (SectionText BlockForm.page.parts)}
    (distinct : (sections.map SectionText.place).Nodup) : (homePage sections distinct).chars =
      "Page Home\n".toList ++ (joined sections ++ "end\n".toList) :=
  rfl

def rowsPage : UnitText BlockForm.page :=
  homePage [rowsPath, rowsProperties, rowsMethods] (by decide)

def boldPage : UnitText BlockForm.page := homePage [boldTemplate, rowsMethods] (by decide)

theorem parse_reordered_rows : ∃ units again, parseChars rowsPage.chars = .ok units ∧
    parseChars (rowsPage.reordered (List.reverse_perm _).symm).chars = .ok again ∧
      again.map Unit.unplaced = units.map Unit.unplaced := by
  have accepted : (parseChars rowsPage.chars).toOption.isSome = true := by
    rw [rowsPage, chars_homePage]
    simp (disch := rfl) only [joined, List.flatMap_cons, rowsPath, rowsProperties, rowsMethods,
      toList_of_eq]
    decide +kernel
  have listed : BlockForm.page ∈ BlockForm.all := by
    simp only [BlockForm.all, List.mem_cons, true_or, or_true]
  have typesEnd : TypesEnd rowsPage.sections rowsPage.closing := by
    have path : ¬ rowsPath.IsMethods ∧ Lexeme.Unclosing rowsPath.chars := by decide
    have properties : ¬ rowsProperties.IsMethods ∧ Lexeme.Unclosing rowsProperties.chars := by
      decide
    have ended : Lexeme.Unclosing rowsPage.closing := by decide +kernel
    intro text member methods _
    rcases member with _ | ⟨_, _ | ⟨_, _ | ⟨_, ⟨⟩⟩⟩⟩
    · exact absurd methods path.1
    · exact absurd methods properties.1
    · refine ⟨fun other listed apart => ?_, ended⟩
      rcases listed with _ | ⟨_, _ | ⟨_, _ | ⟨_, ⟨⟩⟩⟩⟩
      · exact path.2
      · exact properties.2
      · exact absurd rfl apart
  cases parsed : parseChars rowsPage.chars with
  | error failure =>
    rw [parsed] at accepted
    cases accepted
  | ok units =>
    obtain ⟨again, parsedToo, same⟩ :=
      rowsPage.parse_reordered listed typesEnd (List.reverse_perm _).symm parsed
    exact ⟨units, again, rfl, parsedToo, same⟩

/-- The methods of this page can be read behind its template but not before it: the arguments of the
last type would go on to the bracket of a tag. -/
theorem methods_first_refused : (∃ units, parseChars boldPage.chars = .ok units) ∧
    ¬ ∃ units, parseChars (boldPage.reordered (List.reverse_perm _).symm).chars = .ok units := by
  have both : (parseChars boldPage.chars).toOption.isSome = true ∧
      (parseChars (boldPage.reordered (List.reverse_perm _).symm).chars).toOption.isSome = false := by
    have turned : (boldPage.reordered (List.reverse_perm _).symm).chars =
        "Page Home\n".toList ++ (joined [rowsMethods, boldTemplate] ++ "end\n".toList) := rfl
    rw [turned, boldPage, chars_homePage]
    simp (disch := rfl) only [joined, List.flatMap_cons, boldTemplate, rowsMethods, toList_of_eq]
    decide +kernel
  refine ⟨?_, ?_⟩
  · cases parsed : parseChars boldPage.chars with
    | ok units => exact ⟨units, rfl⟩
    | error failure =>
      rw [parsed] at both
      cases both.1
  · rintro ⟨units, parsed⟩
    rw [parsed] at both
    cases both.2

end Pages

end Blueprint.Design
