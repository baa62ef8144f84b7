import Blueprint.Proofs.Design.CodeText
import Blueprint.Proofs.Design.Places

namespace Blueprint.Design

section Quotes

open Reader

theorem result_bind_of_eq_some {α β : Type} {first : Reader α} {next : α → Reader β}
    {cursor middle : Cursor} {value : α} (read : (first cursor).result = some (value, middle)) :
    ((first >>= next) cursor).result = (next value middle).result := by
  rw [result_bind, read, Option.bind_some]

variable {value : String} {rest : List Char}

/-- A text without double quotes and backslashes. -/
def IsPlain (value : String) : Prop := '"' ∉ value.toList ∧ '\\' ∉ value.toList

instance (value : String) : Decidable (IsPlain value) := inferInstanceAs (Decidable (_ ∧ _))

theorem closingQuote?_append_quote {inner : List Char} {previous : Char} {place : Nat}
    {fallback : Option Nat} (unquoted : '"' ∉ inner) (unescaped : '\\' ∉ inner)
    (other : previous ≠ '\\') (rest : List Char) :
    Lexeme.closingQuote? '"' place previous fallback (inner ++ '"' :: rest) =
      some (place + inner.length) := by
  induction inner generalizing previous place with
  | nil => simp [Lexeme.closingQuote?, other]
  | cons c inner ih =>
    rw [List.mem_cons, not_or] at unquoted unescaped
    rw [List.cons_append, Lexeme.closingQuote?, if_neg (by simpa using Ne.symm unquoted.1),
      ih unquoted.2 unescaped.2 (Ne.symm unescaped.1), List.length_cons]
    congr 1
    omega

private theorem unescapeQuotes_eq_self {inner : List Char} (unescaped : '\\' ∉ inner) :
    Lexeme.unescapeQuotes inner = inner := by
  fun_induction Lexeme.unescapeQuotes inner with
  | case1 => simp at unescaped
  | case2 => simp at unescaped
  | case3 c rest _ _ ih => rw [ih fun listed => unescaped (List.mem_cons_of_mem _ listed)]
  | case4 => rfl

private theorem quoted_append (plain : IsPlain value) (rest : List Char) :
    Lexeme.quoted ('"' :: (value.toList ++ '"' :: rest)) = some ⟨value, value.toList.length + 2⟩ := by
  have closed : Lexeme.closingQuote? '"' 0 '"' none (value.toList ++ '"' :: rest) =
      some (0 + value.toList.length) :=
    closingQuote?_append_quote plain.1 plain.2 (by decide) rest
  rw [Nat.zero_add] at closed
  rw [Lexeme.quoted, Lexeme.map, Lexeme.quotedChars, if_pos (by decide), closed, Option.map_some,
    Option.map_some, List.take_left, unescapeQuotes_eq_self plain.2, String.ofList_toList]

theorem optionValue_quoted (plain : IsPlain value) {layout : List Char} (blank : IsLayout layout)
    (offset : Nat) {depth : Nat} (positive : 0 < depth) (rest : List Char) : ∃ place,
    (optionValue depth ⟨layout ++ '"' :: (value.toList ++ '"' :: rest), offset⟩).result =
      some (.str (rawText value), ⟨rest, place⟩) := by
  obtain ⟨depth, rfl⟩ := Nat.exists_eq_succ_of_ne_zero positive.ne'
  have skipped : ahead (layout ++ '"' :: (value.toList ++ '"' :: rest)) =
      '"' :: (value.toList ++ '"' :: rest) := blank.ahead_append _
  have behind : ('"' :: (value.toList ++ '"' :: rest)).drop (value.toList.length + 2) = rest := by
    rw [List.drop_succ_cons, ← List.drop_drop, List.drop_left]
    rfl
  rw [optionValue_succ, firstOf, List.foldr_cons, result_orElse, optionText, result_bind, quoted,
    result_token, skipped, quoted_append plain, Option.map_some, behind]
  exact ⟨_, rfl⟩

theorem optionSetting_quoted (plain : IsPlain value) {before after : List Char}
    (apart : IsLayout before) (blank : IsLayout after) (offset : Nat) (rest : List Char) : ∃ place,
    (optionSetting ⟨before ++ ':' :: (after ++ '"' :: (value.toList ++ '"' :: rest)), offset⟩).result =
      some (.str (rawText value), ⟨rest, place⟩) := by
  have colon (more : List Char) : ∃ place,
      (flag (sign ":") ⟨before ++ ':' :: more, offset⟩).result = some (true, ⟨more, place⟩) := by
    have skipped : ahead (before ++ ':' :: more) = ':' :: more := apart.ahead_append _
    have found : Lexeme.sign ":" (':' :: more) = some ⟨⟨⟩, 1⟩ := rfl
    rw [flag, result_bind, result_optional, sign, result_token, skipped, found]
    exact ⟨_, rfl⟩
  obtain ⟨place, valued⟩ := colon (after ++ '"' :: (value.toList ++ '"' :: rest))
  have positive : 0 < (after ++ '"' :: (value.toList ++ '"' :: rest)).length := by simp
  obtain ⟨last, read⟩ := optionValue_quoted plain blank place positive rest
  exact ⟨last, (result_bind_of_eq_some valued).trans (result_bind_of_eq_some read)⟩

/-- A text sets an option to a text between double quotes: the key of the option, a colon and that
text stand where the option is. -/
def IsQuoted (text : List Char) (option : WrittenOption) (value : String) : Prop :=
  ∃ before after rest, IsLayout before ∧ IsLayout after ∧ text.drop option.offset =
    option.key.toList ++ (before ++ ':' :: (after ++ '"' :: (value.toList ++ '"' :: rest)))

private theorem name_size {front : List Char} {found : Text.Found String}
    (known : Lexeme.name front = some found) : found.size = found.value.toList.length := by
  unfold Lexeme.name at known
  split at known
  · split at known
    · cases known
      rw [String.toList_ofList, List.length_cons]
    · cases known
  · cases known

/-- An option has the value that a text sets it to between double quotes, but for backticks. -/
def Follows (text : List Char) (option : WrittenOption) : Prop :=
  ∀ value, IsPlain value → IsQuoted text option value → option.value = .str (rawText value)

variable {text : List Char}

theorem yields_writtenOption :
    Yields (Cursor.Within text) (Follows text) writtenOption := by
  intro cursor option behind inside read
  have steady : Steady .void _ _ _ _ writtenOption writtenOption :=
    steady_writtenOption fun _ => False.elim
  have moved := steady.moves read
  refine ⟨?_, inside.of_suffix moved.within moved.offset⟩
  rintro value plain ⟨before, after, rest, apart, blank, shape⟩
  rw [writtenOption_eq, result_bind] at read
  obtain ⟨⟨offset, same⟩, placed, read⟩ := Option.bind_eq_some_iff.mp read
  obtain ⟨rfl, rfl⟩ := Prod.mk.inj (Option.some.inj placed)
  rw [result_bind] at read
  obtain ⟨⟨key, middle⟩, named, read⟩ := Option.bind_eq_some_iff.mp read
  rw [result_bind] at read
  obtain ⟨⟨setting, last⟩, set, done⟩ := Option.bind_eq_some_iff.mp read
  obtain ⟨rfl, rfl⟩ := Prod.mk.inj (Option.some.inj done)
  rw [name, result_token] at named
  obtain ⟨found, known, same⟩ := Option.map_eq_some_iff.mp named
  obtain ⟨rfl, rfl⟩ := Prod.mk.inj same
  have skipped := inside.skip
  rw [Cursor.Within, Cursor.rest_skip] at skipped
  dsimp only at shape
  rw [skipped, shape, name_size known, List.drop_left] at set
  obtain ⟨place, valued⟩ := optionSetting_quoted plain apart blank
    (cursor.skip.offset + found.value.toList.length) rest
  rw [result_optional, valued] at set
  obtain ⟨rfl, rfl⟩ := Prod.mk.inj (Option.some.inj set)
  rfl

end Quotes

/-- The bag of a property has a text for an option. -/
def Property.HasText (property : Property) (name value : String) : Prop :=
  ∃ fields, property.options.bag = .obj fields ∧ fields.lookup name = some (.str value)

/-- A text sets an option of a property, under a key, to a text between double quotes. -/
def Property.IsSet (text : String) (property : Property) (key value : String) : Prop :=
  ∃ option ∈ property.written, option.key = key ∧ IsQuoted text.toList option value

/-- In a text that is accepted, a text option has the value that it is set to, but for backticks. -/
theorem hasText_of_isSet {text key name value : String} {units : List Unit} {unit : Unit}
    {property : Property} (parsed : parse text = .ok units) (member : unit ∈ units)
    (owned : property ∈ unit.properties) (listed : name ∈ textOptions) (spelled : Spells key name)
    (plain : IsPlain value) (set : property.IsSet text key value) :
    property.HasText name (rawText value) := by
  obtain ⟨originals, readable, sound, rfl⟩ := settled_of_parse parsed
  obtain ⟨original, stands, rfl⟩ := List.mem_map.mp member
  rw [Unit.properties_settled] at owned
  obtain ⟨source, own, rfl⟩ := List.mem_map.mp owned
  obtain ⟨option, written, rfl, quoted⟩ := set
  have reads := allOptions_of_readUnits yields_writtenOption readable original stands source own
    option written value plain quoted
  obtain ⟨distinct, valid⟩ := (sound.bags original stands).1 source own
  have keys : (source.bag.map Prod.fst).Nodup := by
    rwa [Property.bag, List.map_map]
  exact lookup_bag_of_mem keys valid listed spelled
    (List.mem_map.mpr ⟨option, written, by rw [reads]⟩)

section Notes

open Reader

variable {name key value : String}

/-- An entity with one property that has one option. -/
def noteText (key value : String) : String :=
  "Entity Note\n    properties:" ++ ("\n        - body: string (" ++
    (key ++ (": \"" ++ (value ++ "\");\nend\n"))))

/-- What stands behind the bracket that opens the options of a note. -/
def noteOption (key value : String) : List Char :=
  key.toList ++ ':' :: ' ' :: '"' :: (value.toList ++ '"' :: ");\nend\n".toList)

private theorem toList_noteText (key value : String) : (noteText key value).toList =
    "Entity Note\n    properties:".toList ++
      ("\n        - body: string (".toList ++ noteOption key value) := by
  have quote : (value ++ "\");\nend\n").toList = value.toList ++ '"' :: ");\nend\n".toList :=
    String.toList_append
  have colon : (": \"" ++ (value ++ "\");\nend\n")).toList =
      ':' :: ' ' :: '"' :: (value.toList ++ '"' :: ");\nend\n".toList) :=
    String.toList_append.trans (congrArg _ quote)
  unfold noteText
  refine String.toList_append.trans (congrArg _ ?_)
  refine String.toList_append.trans (congrArg _ ?_)
  exact String.toList_append.trans (congrArg _ colon)

/-- The property of a note. -/
def noteProperty (offset : Nat) (key value : String) : Property where
  offset := offset + 9
  name := "body"
  optional := false
  type := ⟨"string", false⟩
  written := [⟨offset + 25, key, .str value⟩]
  initializer := ""

def note (key value : String) : Entity where
  offset := 0
  name := "Note"
  properties := [noteProperty 27 key value]

/-- A note keeps all rules. -/
theorem sound_note (listed : name ∈ textOptions) (spelled : Spells key name)
    (value : String) : Sound [.entity (note key value)] := by
  have bare (other : String) (named : other ∈ PropertyOptions.names) (apart : other ∉ textOptions) :
      ¬ Flagged (noteProperty 27 key value).bag other := by
    rintro ⟨json, given, _⟩
    have spells := (eq_and_spells_of_given? given).2
    exact apart (spelled.eq spells (mem_names_of_mem_textOptions listed) named ▸ listed)
  have markers {one : String} : one ∈ ["belongsTo", "hasMany", "hasOne", "references"] →
      one ∈ PropertyOptions.names ∧ one ∉ textOptions := by
    revert one
    decide
  have unmarked : AtMostOne (Flagged (noteProperty 27 key value).bag)
      ["belongsTo", "hasMany", "hasOne", "references"] :=
    List.pairwise_of_forall_mem_list fun one marker _ _ both =>
      bare one (markers marker).1 (markers marker).2 both.1
  refine {
    bags := List.forall_mem_singleton.mpr ⟨List.forall_mem_singleton.mpr
      ⟨List.nodup_singleton _, validBag_singleton listed spelled value⟩, List.forall_mem_nil _⟩
    marks := List.forall_mem_singleton.mpr (List.forall_mem_singleton.mpr
      ⟨fun many => absurd many (bare _ (by decide) (by decide)), unmarked⟩)
    behaviors := by simp
    names := List.pairwise_singleton _ _
    members := List.forall_mem_singleton.mpr ⟨List.nodup_singleton _, List.nodup_nil⟩
    identities := ?_
    paths := by simp
    calls := by simp }
  intro entity stands
  obtain rfl := Unit.entity.inj (List.mem_singleton.mp stands)
  exact ⟨List.pairwise_singleton _ _, List.forall_mem_singleton.mpr fun flagged =>
    absurd flagged (bare _ (by decide) (by decide))⟩

/-- A name that a design can have as a key: word characters, and no digit in front. -/
def isKey : List Char → Bool
  | [] => false
  | c :: rest => (Text.isWord c && !Text.isDecimal c) && rest.all Text.isWord

private theorem isKey_of_spells (listed : name ∈ textOptions) (spelled : Spells key name) :
    isKey key.toList = true := by
  have all : ∀ name ∈ textOptions,
      isKey name.toList = true ∧ isKey (underscored name).toList = true := by
    simp only [underscored, String.toList_ofList]
    decide
  obtain rfl | rfl := spelled
  · exact (all _ listed).1
  · exact (all _ listed).2

theorem skip_of_isWord {c : Char} (word : Text.isWord c = true) (rest : List Char) (offset : Nat) :
    Cursor.skip ⟨c :: rest, offset⟩ = ⟨c :: rest, offset⟩ := by
  have solid : isGap c = false := by
    cases gap : isGap c with
    | false => rfl
    | true => exact absurd word (by rw [isWord_gap c gap]; exact Bool.false_ne_true)
  have inside : (c == '/') = false := by
    rw [beq_eq_false_iff_ne]
    rintro rfl
    exact absurd word (by decide)
  rw [Cursor.skip, skipFrom_cons, solid, inside]
  rfl

/-- A key is read up to a colon. -/
theorem result_name_of_isKey (is : isKey key.toList = true) (offset : Nat) (more : List Char) :
    (position ⟨key.toList ++ ':' :: more, offset⟩).result =
        some (offset, ⟨key.toList ++ ':' :: more, offset⟩) ∧
      ∃ place, (Reader.name ⟨key.toList ++ ':' :: more, offset⟩).result =
        some (key, ⟨':' :: more, place⟩) := by
  cases shape : key.toList with
  | nil =>
    rw [shape] at is
    cases is
  | cons c rest =>
    rw [shape] at is
    obtain ⟨starts, later⟩ := Bool.and_eq_true_iff.mp is
    have skipped := skip_of_isWord (Bool.and_eq_true_iff.mp starts).1 (rest ++ ':' :: more) offset
    have known : Lexeme.name (c :: (rest ++ ':' :: more)) = some ⟨key, rest.length + 1⟩ := by
      rw [Lexeme.name, if_pos starts,
        Text.takeWhile_append_stop (List.all_eq_true.mp later) (by rintro d ⟨⟩; decide)]
      dsimp only
      rw [← shape, String.ofList_toList]
    rw [List.cons_append]
    refine ⟨?_, ?_⟩
    · rw [position, skipped]
    · rw [Reader.name, result_token, ← Cursor.rest_skip, skipped, known, Option.map_some,
        List.drop_succ_cons, List.drop_left]
      exact ⟨_, rfl⟩

theorem writtenOption_note (is : isKey key.toList = true) (plain : IsPlain value) (offset : Nat)
    (rest : List Char) : ∃ last,
    (writtenOption ⟨key.toList ++ ':' :: ' ' :: '"' :: (value.toList ++ '"' :: rest), offset⟩).result =
      some (⟨offset, key, .str (rawText value)⟩, ⟨rest, last⟩) := by
  obtain ⟨starts, middle, named⟩ :=
    result_name_of_isKey is offset (' ' :: '"' :: (value.toList ++ '"' :: rest))
  obtain ⟨last, valued⟩ : ∃ last,
      (optionSetting ⟨':' :: ' ' :: '"' :: (value.toList ++ '"' :: rest), middle⟩).result =
        some (.str (rawText value), ⟨rest, last⟩) :=
    optionSetting_quoted plain (show IsLayout [] by decide) (show IsLayout [' '] by decide) middle rest
  have set : (Reader.optional optionSetting
      ⟨':' :: ' ' :: '"' :: (value.toList ++ '"' :: rest), middle⟩).result =
      some (some (.str (rawText value)), ⟨rest, last⟩) := by
    rw [result_optional, valued]
    rfl
  rw [writtenOption_eq]
  exact ⟨last, (result_bind_of_eq_some starts).trans ((result_bind_of_eq_some named).trans
    (result_bind_of_eq_some set))⟩

theorem options_note (is : isKey key.toList = true) (plain : IsPlain value) (offset : Nat) : ∃ last,
    (Reader.options ⟨" (".toList ++ noteOption key value, offset⟩).result =
      some ([⟨offset + 2, key, .str (rawText value)⟩], ⟨";\nend\n".toList, last⟩) := by
  obtain ⟨last, option⟩ := writtenOption_note is plain (offset + 2) ");\nend\n".toList
  rw [← noteOption] at option
  generalize noteOption key value = rest at *
  have opened : (sign "(" ⟨" (".toList ++ rest, offset⟩).result = some (⟨⟩, ⟨rest, offset + 2⟩) := rfl
  have others : (many (andThen (sign ",") fun _ => writtenOption) ⟨");\nend\n".toList, last⟩).result =
      some ([], ⟨");\nend\n".toList, last⟩) := rfl
  have each : (sepBy1 writtenOption (sign ",") ⟨rest, offset + 2⟩).result =
      some ([⟨offset + 2, key, .str (rawText value)⟩], ⟨");\nend\n".toList, last⟩) :=
    (result_bind_of_eq_some option).trans (result_bind_of_eq_some others)
  exact ⟨last + 1, (result_bind_of_eq_some opened).trans (result_bind_of_eq_some each)⟩

theorem property_note (is : isKey key.toList = true) (plain : IsPlain value) (offset : Nat) : ∃ last,
    (property ⟨"\n        - body: string (".toList ++ noteOption key value, offset⟩).result =
      some (noteProperty offset key (rawText value), ⟨"\nend\n".toList, last⟩) := by
  obtain ⟨last, given⟩ := options_note is plain (offset + 23)
  generalize noteOption key value = rest at *
  have written : (Reader.optional Reader.options ⟨" (".toList ++ rest, offset + 23⟩).result =
      some (some [⟨offset + 25, key, .str (rawText value)⟩], ⟨";\nend\n".toList, last⟩) := by
    rw [result_optional, given]
    rfl
  have starts : (position ⟨"\n        - body: string (".toList ++ rest, offset⟩).result =
      some (offset + 9, ⟨"\n        - body: string (".toList ++ rest, offset⟩) := rfl
  have dash : (sign "-" ⟨"\n        - body: string (".toList ++ rest, offset⟩).result =
      some (⟨⟩, ⟨" body: string (".toList ++ rest, offset + 10⟩) := rfl
  have named : (Reader.name ⟨" body: string (".toList ++ rest, offset + 10⟩).result =
      some ("body", ⟨": string (".toList ++ rest, offset + 15⟩) := rfl
  have required : (flag (sign "?") ⟨": string (".toList ++ rest, offset + 15⟩).result =
      some (false, ⟨": string (".toList ++ rest, offset + 15⟩) := rfl
  have colon : (sign ":" ⟨": string (".toList ++ rest, offset + 15⟩).result =
      some (⟨⟩, ⟨" string (".toList ++ rest, offset + 16⟩) := rfl
  have typed : (typeRef ⟨" string (".toList ++ rest, offset + 16⟩).result =
      some (⟨"string", false⟩, ⟨" (".toList ++ rest, offset + 23⟩) := rfl
  exact ⟨last + 1, (result_bind_of_eq_some starts).trans <|
    (result_bind_of_eq_some dash).trans <| (result_bind_of_eq_some named).trans <|
    (result_bind_of_eq_some required).trans <| (result_bind_of_eq_some colon).trans <|
    (result_bind_of_eq_some typed).trans <| result_bind_of_eq_some written⟩

private theorem parts_entity : entitySections.map Entry.toSection =
    [(entry "description:" quoted fun value unit => { unit with description := value }).toSection,
      (entry "dataSource:" Reader.name fun value unit => { unit with dataSource := value }).toSection,
      (entry "mixins:" names fun value unit => { unit with mixins := value }).toSection,
      (entry "properties:" (atLeastOne property)
        fun value unit => { unit with properties := value }).toSection] := rfl

theorem sections_note (is : isKey key.toList = true) (plain : IsPlain value) : ∃ last,
    (sections (entitySections.map Entry.toSection) { offset := 0, name := "Note" } ⟨"\n    properties:".toList ++
      ("\n        - body: string (".toList ++ noteOption key value), 11⟩).result =
      some (note key (rawText value), ⟨"\nend\n".toList, last⟩) := by
  obtain ⟨last, row⟩ := property_note is plain 27
  generalize "\n        - body: string (".toList ++ noteOption key value = rest at *
  have opened : (sign "properties:" ⟨"\n    properties:".toList ++ rest, 11⟩).result =
      some (⟨⟩, ⟨rest, 27⟩) := rfl
  have others : (many property ⟨"\nend\n".toList, last⟩).result =
      some ([], ⟨"\nend\n".toList, last⟩) := rfl
  have rows : (atLeastOne property ⟨rest, 27⟩).result =
      some ([noteProperty 27 key (rawText value)], ⟨"\nend\n".toList, last⟩) :=
    (result_bind_of_eq_some row).trans (result_bind_of_eq_some others)
  have next : (nextSection (entitySections.map Entry.toSection) ⟨"\n    properties:".toList ++ rest, 11⟩).result =
      some ((fun unit => { unit with properties := [noteProperty 27 key (rawText value)] },
        (entitySections.map Entry.toSection).take 3), ⟨"\nend\n".toList, last⟩) := by
    have filled : ((entry "properties:" (atLeastOne property) fun value (unit : Entity) =>
        { unit with properties := value }).toSection.read
          ⟨"\n    properties:".toList ++ rest, 11⟩).result = some (fun unit : Entity =>
        { unit with properties := [noteProperty 27 key (rawText value)] },
          ⟨"\nend\n".toList, last⟩) :=
      (result_bind_of_eq_some opened).trans (result_bind_of_eq_some rows)
    rw [parts_entity, result_nextSection_cons, result_nextSection_cons, result_nextSection_cons,
      result_nextSection_cons, filled]
    rfl
  have ends : ∀ part ∈ (entitySections.map Entry.toSection).take 3,
      (part.read ⟨"\nend\n".toList, last⟩).result = none := by
    simp only [parts_entity, List.take_succ_cons, List.take_zero, List.forall_mem_cons,
      List.not_mem_nil, false_implies, implies_true, and_true]
    exact ⟨rfl, rfl, rfl⟩
  refine ⟨last, ?_⟩
  rw [sections, show (entitySections.map Entry.toSection).length = 3 + 1 from rfl, result_sectionsUpTo_succ, next,
    Option.elim_some]
  exact sectionsUpTo_of_fails 3 ends _

private theorem heading_note (offset : Nat) (rest : List Char) :
    (BlockForm.entity.heading ⟨"Entity Note\n    properties:".toList ++ rest, offset⟩).result =
      some ({ offset, name := "Note" }, ⟨"\n    properties:".toList ++ rest, offset + 11⟩) := rfl

theorem readUnits_note (is : isKey key.toList = true) (plain : IsPlain value) :
    readUnits (noteText key value).toList = .ok [.entity (note key (rawText value))] := by
  obtain ⟨last, filled⟩ := sections_note is plain
  refine readUnits_eq_ok_iff.mpr ⟨⟨[], last + 5⟩, ?_⟩
  rw [toList_noteText]
  generalize "\n        - body: string (".toList ++ noteOption key value = rest at *
  have listed : BlockForm.entity ∈ BlockForm.all := by simp [BlockForm.all]
  have closed : (BlockForm.ended BlockForm.entity.tail (note key (rawText value))
      ⟨"\nend\n".toList, last⟩).result =
      some (note key (rawText value), ⟨"\n".toList, last + 4⟩) := rfl
  have one : (Reader.unit ⟨"Entity Note\n    properties:".toList ++ rest, 0⟩).result =
      some (.entity (note key (rawText value)), ⟨"\n".toList, last + 4⟩) :=
    calc (Reader.unit ⟨"Entity Note\n    properties:".toList ++ rest, 0⟩).result
        = (BlockForm.entity.reader ⟨"Entity Note\n    properties:".toList ++ rest, 0⟩).result :=
          BlockForm.result_unit listed (heading_note 0 rest)
      _ = (sections (entitySections.map Entry.toSection) { offset := 0, name := "Note" }
            ⟨"\n    properties:".toList ++ rest, 11⟩).result.bind fun filled =>
          (BlockForm.ended BlockForm.entity.tail filled.1 filled.2).result.map fun found =>
            (.entity found.1, found.2) := by
        rw [BlockForm.result_reader, heading_note, Option.bind_some]
        rfl
      _ = (BlockForm.ended BlockForm.entity.tail (note key (rawText value))
            ⟨"\nend\n".toList, last⟩).result.map fun found => (.entity found.1, found.2) := by
        rw [filled, Option.bind_some]
      _ = some (.entity (note key (rawText value)), ⟨"\n".toList, last + 4⟩) := by
        rw [closed]
        rfl
  have others (count : Nat) : (unitsUpTo count ⟨"\n".toList, last + 4⟩).result =
      some ([], ⟨[], last + 5⟩) := by
    cases count <;> rfl
  rw [result_design]
  exact (result_unitsUpTo_succ one).trans (congrArg (Option.map _) (others _))

theorem parse_note (listed : name ∈ textOptions) (spelled : Spells key name) (plain : IsPlain value) :
    ∃ entity property, parse (noteText key value) = .ok [.entity entity] ∧
      entity.properties = [property] ∧ property.IsSet (noteText key value) key value := by
  have none := problems_eq_nil_iff.mpr (sound_note listed spelled (rawText value))
  have parsed := parse_eq (readUnits_note (isKey_of_spells listed spelled) plain)
  rw [none] at parsed
  refine ⟨_, _, parsed, rfl, _, List.mem_singleton_self _, rfl, [], [' '], ");\nend\n".toList,
    by decide, by decide, ?_⟩
  rw [toList_noteText]
  rfl

/-- A text between double quotes comes into the bag of a property without the backticks around it: it
is the value of the option wherever a design is accepted, each such text can be given to each text
option, and it is unchanged exactly if it does not stand between two backticks. -/
theorem hasText_rawText (listed : name ∈ textOptions) (spelled : Spells key name)
    (plain : IsPlain value) :
    (∀ text units, parse text = .ok units → ∀ unit ∈ units, ∀ property ∈ unit.properties,
      property.IsSet text key value → property.HasText name (rawText value)) ∧
    (∃ entity property, parse (noteText key value) = .ok [.entity entity] ∧
      entity.properties = [property] ∧ property.IsSet (noteText key value) key value) ∧
    (rawText value = value ↔ ¬ ∃ inner, value = "`" ++ inner ++ "`") := by
  refine ⟨fun text units parsed unit member property owned set =>
    hasText_of_isSet parsed member owned listed spelled plain set, parse_note listed spelled plain, ?_⟩
  have same : rawText value = value ↔ rawCode value.toList = value.toList := by
    rw [rawText, ← String.toList_inj, String.toList_ofList]
  rw [same, rawCode_eq_self_iff, not_iff_not]
  constructor
  · rintro ⟨inner, shape⟩
    refine ⟨String.ofList inner, ?_⟩
    rw [← String.toList_inj, shape]
    simp [tick]
  · rintro ⟨inner, rfl⟩
    exact ⟨inner.toList, by simp [tick]⟩

/-- A caption is given under the key with underscores. -/
theorem hasText_rawText_caption : ∃ entity property,
    parse (noteText "display_name" "The `body`") = .ok [.entity entity] ∧
      entity.properties = [property] ∧ property.HasText "displayName" "The `body`" := by
  obtain ⟨everywhere, ⟨entity, property, parsed, only, set⟩, unchanged⟩ :=
    hasText_rawText (show "displayName" ∈ textOptions by decide)
      (show Spells "display_name" "displayName" from .inr (by decide))
      (show IsPlain "The `body`" by decide)
  have owned : property ∈ (Unit.entity entity).properties := by
    rw [Unit.properties, only]
    exact List.mem_singleton_self _
  have kept : rawText "The `body`" = "The `body`" := by decide
  rw [kept] at everywhere
  exact ⟨entity, property, parsed, only,
    everywhere _ _ parsed _ (List.mem_singleton_self _) _ owned set⟩

/-- A placeholder between two backticks loses them. -/
theorem placeholder_loses_backticks : ∃ entity property,
    parse (noteText "placeholder" "`code`") = .ok [.entity entity] ∧
      entity.properties = [property] ∧
      property.IsSet (noteText "placeholder" "`code`") "placeholder" "`code`" ∧
      property.HasText "placeholder" "code" ∧ ¬ property.HasText "placeholder" "`code`" := by
  have listed : "placeholder" ∈ textOptions := by decide
  have plain : IsPlain "`code`" := by decide
  obtain ⟨entity, property, parsed, only, set⟩ := parse_note listed (.inl rfl) plain
  have owned : property ∈ (Unit.entity entity).properties := by
    rw [Unit.properties, only]
    exact List.mem_singleton_self _
  have has := hasText_of_isSet parsed (List.mem_singleton_self _) owned listed (.inl rfl) plain set
  have lost : rawText "`code`" = "code" := by decide
  rw [lost] at has
  refine ⟨entity, property, parsed, only, set, has, ?_⟩
  obtain ⟨fields, bag, found⟩ := has
  rintro ⟨others, same, kept⟩
  obtain rfl := Json.obj.inj (bag.symm.trans same)
  rw [found] at kept
  exact absurd (Json.str.inj (Option.some.inj kept)) (by decide)

end Notes

end Blueprint.Design
