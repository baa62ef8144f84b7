import Mathlib.Data.List.Perm.Subperm
import Blueprint.Proofs.Design.Members
import Blueprint.Proofs.Design.Names

namespace Blueprint.Design.Reader

open Lexeme

section Skipping

variable {α β : Type} {reader : Reader α} {next : α → Reader β}

/-- A reader starts with a token, so layout in front of it does not matter. -/
def SkipsFirst (reader : Reader α) : Prop :=
  ∀ cursor other : Cursor, cursor.skip = other.skip → (reader cursor).result = (reader other).result

theorem skipsFirst_token (lexeme : Lexeme α) : SkipsFirst (token lexeme) := by
  intro cursor other same
  rw [result_token, result_token, ← Cursor.rest_skip, ← Cursor.rest_skip, same]

theorem SkipsFirst.bind (skips : SkipsFirst reader) (next : α → Reader β) :
    SkipsFirst (reader >>= next) := by
  intro cursor other same
  rw [result_bind, result_bind, skips cursor other same]

theorem SkipsFirst.optional (skips : SkipsFirst reader) {next : Option α → Reader β}
    (later : ∀ value, SkipsFirst (next value)) : SkipsFirst (optional reader >>= next) := by
  intro cursor other same
  rw [result_bind, result_bind, result_optional, result_optional, skips cursor other same]
  cases (reader other).result with
  | none => exact later none cursor other same
  | some found => rfl

theorem SkipsFirst.flag {reader : Reader PUnit} (skips : SkipsFirst reader) {next : Bool → Reader β}
    (later : ∀ value, SkipsFirst (next value)) : SkipsFirst (flag reader >>= next) := by
  have steps (cursor : Cursor) : ((Reader.flag reader >>= next) cursor).result =
      ((Reader.optional reader >>= fun found => next found.isSome) cursor).result := by
    rw [Reader.flag, result_bind, result_bind, result_bind, Option.bind_assoc]
    rfl
  intro cursor other same
  rw [steps, steps]
  exact skips.optional (fun value => later value.isSome) cursor other same

end Skipping

section Reading

variable {α : Type}

/-- A reader reads a text but for layout at its end. -/
def ReadsThrough (reader : Reader α) (text : List Char) : Prop :=
  ∃ value behind, (reader ⟨text, 0⟩).result = some (value, behind) ∧ IsLayout behind.rest

instance (reader : Reader α) (text : List Char) : Decidable (ReadsThrough reader text) :=
  decidable_of_iff
    (((reader ⟨text, 0⟩).result.any fun found => decide (IsLayout found.2.rest)) = true) (by
      rw [Option.any_eq_true_iff_get, ReadsThrough]
      constructor
      · rintro ⟨isSome, layout⟩
        exact ⟨_, _, Option.some_get isSome |>.symm, of_decide_eq_true layout⟩
      · rintro ⟨value, behind, read, layout⟩
        simp [read, layout])

/-- A text with more behind it, and what the text ends with. -/
def Context.within (text more : List Char) (ends : EndsInGap text) : Context where
  more
  tame rest := rest <:+ text
  suffix := fun tame within => within.trans tame
  ends := fun tame => ends.suffix tame

/-- No text is considered; what is left to say is how far readers go. -/
def Context.void : Context := ⟨[], fun _ => False, False.elim, False.elim⟩

end Reading

section Parts

variable {σ : Type}

/-- A character that the keyword of a section may start with. -/
def StartsPart : Char → Prop := OneOf "cdhilmopstuv"

instance (c : Char) : Decidable (StartsPart c) := inferInstanceAs (Decidable (OneOf _ c))

/-- A character that the end of a unit may start with. -/
def StartsEnd : Char → Prop := OneOf "aef"

instance (c : Char) : Decidable (StartsEnd c) := inferInstanceAs (Decidable (OneOf _ c))

/-- What makes the place of a section among others irrelevant: its keyword, how it is read, and that
the offsets in a unit are not used to change it. -/
structure IsPart (erase : σ → σ) (keyword : String) (read : Reader (σ → σ)) : Prop where
  skips : SkipsFirst read
  opens : ∀ {cursor change behind}, (read cursor).result = some (change, behind) →
    (Lexeme.sign keyword (ahead cursor.rest)).isSome = true
  steady : ∀ context : Context, context.Plain → (keyword = "methods:" → context.Guarded) →
    Steady context StartsPart False (Stops context (OneOf ",-")) (fun change => erase ∘ change)
      read read
  respects : Gives (fun change => ∀ state other, erase state = erase other →
    erase (change state) = erase (change other)) read

theorem IsPart.moves {erase : σ → σ} {keyword : String} {read : Reader (σ → σ)}
    (part : IsPart erase keyword read) {cursor behind : Cursor} {change : σ → σ}
    (found : (read cursor).result = some (change, behind)) : Moved StartsPart False cursor behind :=
  (part.steady .void (fun _ => False.elim) fun _ _ => False.elim).moves found

theorem IsPart.fails {erase : σ → σ} {keyword : String} {read : Reader (σ → σ)}
    (part : IsPart erase keyword read) {cursor : Cursor} (head : ¬ HeadIn StartsPart cursor.rest) :
    (read cursor).result = none :=
  (part.steady .void (fun _ => False.elim) fun _ _ => False.elim).fails head

/-- Two sections that are never both in front of a text and change different parts of a unit. -/
structure Independent (one two : Reader (σ → σ)) : Prop where
  apart : ∀ cursor, (one cursor).result = none ∨ (two cursor).result = none
  commutes : ∀ {cursor other change changeToo behind later},
    (one cursor).result = some (change, behind) → (two other).result = some (changeToo, later) →
    ∀ state, change (changeToo state) = changeToo (change state)

theorem Independent.symm {one two : Reader (σ → σ)} (independent : Independent one two) :
    Independent two one :=
  ⟨fun cursor => (independent.apart cursor).symm,
    fun first second state => (independent.commutes second first state).symm⟩

private theorem independent_of_ne {parts : List (Section σ)}
    (independent : parts.Pairwise fun one two => Independent one.read two.read)
    {place other : Fin parts.length} (apart : place ≠ other) :
    Independent (parts.get place).read (parts.get other).read := by
  have ordered := List.pairwise_iff_getElem.mp independent
  rcases Nat.lt_or_gt_of_ne (Fin.val_ne_of_ne apart) with before | behind
  · exact ordered place other place.2 other.2 before
  · exact (ordered other place other.2 place.2 behind).symm

end Parts

section Entries

variable {σ α β : Type} {erase : σ → σ}

/-- The keyword of a section. -/
structure IsKeyword (keyword : String) : Prop where
  starts : (keyword.toList.head?.any fun c => decide (StartsPart c)) = true
  solid : ∀ c ∈ keyword.toList, isGap c = false

instance (keyword : String) : Decidable (IsKeyword keyword) :=
  decidable_of_iff ((keyword.toList.head?.any fun c => decide (StartsPart c)) = true ∧
    ∀ c ∈ keyword.toList, isGap c = false)
    ⟨fun both => ⟨both.1, both.2⟩, fun is => ⟨is.starts, is.solid⟩⟩

theorem IsKeyword.isSolid {keyword : String} (is : IsKeyword keyword) :
    ∃ first, IsSolid first keyword ∧ StartsPart first := by
  have starts := is.starts
  cases first : keyword.toList.head? with
  | none =>
    rw [first] at starts
    cases starts
  | some c =>
    rw [first] at starts
    exact ⟨c, ⟨first, is.solid⟩, of_decide_eq_true starts⟩

/-- What a section holds is read whatever section follows. -/
def Fills (keyword : String) (eraseValue : α → α) (reader : Reader α) : Prop :=
  ∀ context : Context, context.Plain → (keyword = "methods:" → context.Guarded) →
    ∃ starts, Steady context starts False (Stops context (OneOf ",-")) eraseValue reader reader

theorem Entry.read_eq (entry : Entry σ) :
    entry.toSection.read = sign entry.keyword >>= fun _ => entry.value >>= fun value =>
      pure (entry.set value) := rfl

theorem Entry.opens {entry : Entry σ} {cursor behind : Cursor} {change : σ → σ}
    (read : (entry.toSection.read cursor).result = some (change, behind)) :
    (Lexeme.sign entry.keyword (ahead cursor.rest)).isSome = true := by
  rw [entry.read_eq, result_bind] at read
  obtain ⟨found, opened, _⟩ := Option.bind_eq_some_iff.mp read
  rw [sign, result_token] at opened
  obtain ⟨found, known, _⟩ := Option.map_eq_some_iff.mp opened
  rw [known]
  rfl

theorem gives_entry (entry : Entry σ) :
    Gives (fun change => ∃ value, change = entry.set value) entry.toSection.read :=
  gives_bind_any fun _ => gives_bind_any fun value => gives_pure ⟨value, rfl⟩

/-- A section whose value is read whatever section follows, and that changes a unit without regard to
the offsets in it. -/
def Entry.Fits (erase : σ → σ) (entry : Entry σ) : Prop :=
  ∃ eraseValue, Fills entry.keyword eraseValue entry.value ∧
    ∀ value state, erase (entry.set value state) = entry.set (eraseValue value) (erase state)

theorem Fills.fits {keyword : String} {eraseValue : α → α} {value : Reader α} {set : α → σ → σ}
    {required : Bool} (fills : Fills keyword eraseValue value)
    (sets : ∀ value state, erase (set value state) = set (eraseValue value) (erase state)) :
    Entry.Fits erase { keyword, value, set, required } :=
  ⟨eraseValue, fills, sets⟩

theorem Entry.Fits.isPart {entry : Entry σ} (fits : entry.Fits erase)
    (keyword : IsKeyword entry.keyword) : IsPart erase entry.keyword entry.toSection.read := by
  obtain ⟨eraseValue, fills, sets⟩ := fits
  obtain ⟨first, solid, begins⟩ := keyword.isSolid
  refine ⟨(skipsFirst_token _).bind _, Entry.opens, ?_, ?_⟩
  · intro context plain guarded
    obtain ⟨starts, steady⟩ := fills context plain guarded
    have change : Steady context starts False (Stops context (OneOf ",-"))
        (fun change => erase ∘ change) (entry.value >>= fun value => pure (entry.set value))
        (entry.value >>= fun value => pure (entry.set value)) :=
      steady_map steady fun value found same => by
        funext state
        rw [Function.comp_apply, Function.comp_apply, sets, sets, same]
    rw [entry.read_eq]
    exact (steady_then (steady_sign solid) fun _ _ _ => change).mono
      (by rintro _ rfl; exact begins) id fun _ => id
  · rintro cursor change behind read state other same
    obtain ⟨value, rfl⟩ := gives_entry _ _ _ _ read
    rw [sets, sets, same]

/-- Neither keyword starts with the other. -/
def Apart (one two : String) : Prop := ¬ one.toList <+: two.toList ∧ ¬ two.toList <+: one.toList

instance (one two : String) : Decidable (Apart one two) := inferInstanceAs (Decidable (_ ∧ _))

theorem Apart.not_both {one two : String} (apart : Apart one two) {text : List Char}
    (first : (Lexeme.sign one text).isSome = true) : Lexeme.sign two text = none := by
  by_contra some
  obtain ⟨found, known⟩ := Option.isSome_iff_exists.mp first
  obtain ⟨rest, opened, _⟩ := Option.map_eq_some_iff.mp known
  obtain ⟨other, knownToo⟩ := Option.ne_none_iff_exists'.mp some
  obtain ⟨more, openedToo, _⟩ := Option.map_eq_some_iff.mp knownToo
  have shape := (Text.eq_append_of_after? opened).symm.trans (Text.eq_append_of_after? openedToo)
  rcases List.prefix_or_prefix_of_prefix ⟨rest, shape⟩ ⟨more, rfl⟩ with here | there
  · exact apart.1 here
  · exact apart.2 there

/-- Two sections change a unit in either order. -/
def Entry.Commutes (one two : Entry σ) : Prop :=
  ∀ value other state, one.set value (two.set other state) = two.set other (one.set value state)

theorem Entry.Commutes.independent {one two : Entry σ} (commutes : one.Commutes two)
    (apart : Apart one.keyword two.keyword) :
    Independent one.toSection.read two.toSection.read := by
  refine ⟨?_, ?_⟩
  · intro cursor
    cases first : (one.toSection.read cursor).result with
    | none => exact .inl rfl
    | some found =>
      cases second : (two.toSection.read cursor).result with
      | none => exact .inr rfl
      | some foundToo =>
        have opened := Entry.opens second
        rw [apart.not_both (Entry.opens first)] at opened
        cases opened
  · intro cursor place change changeToo behind later first second state
    obtain ⟨value, rfl⟩ := gives_entry _ _ _ _ first
    obtain ⟨valueToo, rfl⟩ := gives_entry _ _ _ _ second
    exact commutes value valueToo state

theorem pairwise_independent {entries : List (Entry σ)}
    (apart : (entries.map Entry.keyword).Pairwise Apart)
    (commutes : entries.Pairwise Entry.Commutes) :
    (entries.map Entry.toSection).Pairwise fun one two => Independent one.read two.read :=
  List.pairwise_map.mpr (((List.pairwise_map.mp apart).and commutes).imp fun both =>
    both.2.independent both.1)

theorem fills_quoted (keyword : String) : Fills keyword id quoted :=
  fun _ plain _ => ⟨_, (steady_quoted plain).mono (fun _ => id) id fun _ _ => trivial⟩

theorem fills_name (keyword : String) : Fills keyword id name :=
  fun _ _ _ => ⟨_, steady_name.mono (fun _ => id) id fun _ _ => trivial⟩

theorem fills_boolean (keyword : String) : Fills keyword id (token Lexeme.boolean) :=
  fun _ _ _ => ⟨_, (steady_local heads_boolean isLocal_boolean).mono (fun _ => id) id
    fun _ _ => trivial⟩

theorem fills_rawBlock (keyword : String) : Fills keyword id rawBlock :=
  fun _ _ _ => ⟨_, steady_rawBlock.mono (fun _ => id) id fun _ _ => trivial⟩

theorem fills_key (keyword : String) : Fills keyword id key :=
  fun _ plain _ => ⟨_, (steady_key plain).mono (fun _ => id) id fun _ _ => trivial⟩

theorem fills_httpMethod (keyword : String) : Fills keyword id httpMethod :=
  fun _ _ _ => ⟨_, steady_httpMethod.mono (fun _ => id) id fun _ _ => trivial⟩

theorem fills_names (keyword : String) : Fills keyword id names :=
  fun _ _ _ => ⟨_, steady_names.mono (fun _ => id) id fun _ stops =>
    stops.anti (by rintro _ rfl; decide)⟩

theorem fills_items {keyword : String} {eraseItem : α → α} {item : Reader α}
    (steady : ∀ context : Context, context.Plain → (keyword = "methods:" → context.Guarded) →
      Steady context (· = '-') False (fun _ => True) eraseItem item item) :
    Fills keyword (List.map eraseItem) (atLeastOne item) :=
  fun context plain guarded => ⟨_, (steady_atLeastOne (steady context plain guarded)).mono
    (fun _ => id) id fun _ stops => stops.anti (by rintro _ rfl; decide)⟩

theorem fills_unplaced_items {keyword : String} {item : Reader α}
    (steady : ∀ context : Context, context.Plain →
      Steady context (· = '-') False (fun _ => True) id item item) :
    Fills keyword id (atLeastOne item) := by
  intro context plain guarded
  obtain ⟨starts, items⟩ := fills_items (fun context plain _ => steady context plain) context plain
    guarded
  refine ⟨starts, items.erased fun one two same => ?_⟩
  rwa [List.map_id, List.map_id] at same

end Entries

section Order

variable {σ : Type} {parts : List (Section σ)} {erase : σ → σ}

theorem result_nextSection_cons (head : Section σ) (rest : List (Section σ)) (cursor : Cursor) :
    (nextSection (head :: rest) cursor).result =
      ((head.read cursor).result.map fun found => ((found.1, rest), found.2)).or
        ((nextSection rest cursor).result.map fun found =>
          ((found.1.1, head :: found.1.2), found.2)) := by
  have choice : nextSection (head :: rest) =
      orElse (head.read >>= fun change => pure (change, rest))
        (nextSection rest >>= fun found => pure (found.1, head :: found.2)) := rfl
  rw [choice, result_orElse, result_bind, result_bind]
  congr 1
  · cases (head.read cursor).result <;> rfl
  · cases (nextSection rest cursor).result <;> rfl

theorem result_sectionsUpTo_succ (count : Nat) (left : List (Section σ)) (state : σ)
    (cursor : Cursor) : (sectionsUpTo (count + 1) left state cursor).result =
      (nextSection left cursor).result.elim
        (if left.any (·.required) then none else some (state, cursor))
        fun found => (sectionsUpTo count found.1.2 (found.1.1 state) found.2).result := by
  change ((optional (nextSection left) >>= _) cursor).result = _
  rw [result_bind, result_optional]
  cases (nextSection left cursor).result with
  | none =>
    simp only [Option.map_none, Option.none_or, Option.bind_some, Option.elim_none]
    split <;> rfl
  | some found => rfl

/-- The section in front of a text is read, whatever sections are left. -/
theorem nextSection_of_reads {left : List (Fin parts.length)} (nodup : left.Nodup)
    {place : Fin parts.length} (member : place ∈ left) {cursor behind : Cursor} {change : σ → σ}
    (read : ((parts.get place).read cursor).result = some (change, behind))
    (others : ∀ other, place ≠ other → ((parts.get other).read cursor).result = none) :
    (nextSection (left.map parts.get) cursor).result =
      some ((change, (left.erase place).map parts.get), behind) := by
  induction left with
  | nil => cases member
  | cons first left ih =>
    rw [List.map_cons, result_nextSection_cons]
    by_cases same : first = place
    · subst same
      rw [read, List.erase_cons_head]
      rfl
    · rw [others first (Ne.symm same), Option.map_none, Option.none_or,
        ih (List.nodup_cons.mp nodup).2 ((List.mem_cons.mp member).resolve_left (Ne.symm same)),
        List.erase_cons_tail (by simpa using same)]
      rfl

private theorem nextSection_of_fails {left : List (Section σ)} {cursor : Cursor}
    (fails : ∀ part ∈ left, (part.read cursor).result = none) :
    (nextSection left cursor).result = none := by
  induction left with
  | nil => rfl
  | cons head left ih =>
    obtain ⟨here, later⟩ := List.forall_mem_cons.mp fails
    rw [result_nextSection_cons, here, ih later]
    rfl

/-- The sections end where none can be read. -/
theorem sectionsUpTo_of_fails (count : Nat) {left : List (Section σ)} {cursor : Cursor}
    (fails : ∀ part ∈ left, (part.read cursor).result = none) (state : σ) :
    (sectionsUpTo count left state cursor).result =
      if left.any (·.required) then none else some (state, cursor) := by
  cases count with
  | zero =>
    rw [sectionsUpTo]
    split <;> rfl
  | succ count => rw [result_sectionsUpTo_succ, nextSection_of_fails fails, Option.elim_none]

private theorem headIn_layout {lead : List Char} (layout : IsLayout lead) {starts : Char → Prop}
    {text : List Char} : HeadIn starts (lead ++ text) ↔ HeadIn starts text := by
  rw [HeadIn, layout.ahead_append, HeadIn]

/-- The text of a section: it can be read on its own, it ends its last line, and it has no escapes. -/
structure SectionText (parts : List (Section σ)) where
  place : Fin parts.length
  chars : List Char
  readable : ReadsThrough (parts.get place).read chars
  ended : chars.getLast? = some '\n'
  plain : '\\' ∉ chars

namespace SectionText

/-- How a section changes a unit, read on its own. -/
def change (text : SectionText parts) : σ → σ :=
  ((((parts.get text.place).read ⟨text.chars, 0⟩).result).map Prod.fst).getD id

theorem reads (text : SectionText parts) : ∃ behind,
    ((parts.get text.place).read ⟨text.chars, 0⟩).result = some (text.change, behind) ∧
      IsLayout behind.rest := by
  obtain ⟨change, behind, read, layout⟩ := text.readable
  refine ⟨behind, ?_, layout⟩
  rw [SectionText.change, read]
  rfl

private theorem endsInGap (text : SectionText parts) : EndsInGap text.chars := by
  intro c last
  obtain rfl := Option.some.inj (text.ended.symm.trans last)
  rfl

/-- The text is a section of methods. -/
def IsMethods (text : SectionText parts) : Prop :=
  (Lexeme.sign "methods:" (ahead text.chars)).isSome = true

instance (text : SectionText parts) : Decidable text.IsMethods :=
  inferInstanceAs (Decidable (_ = true))

end SectionText

/-- The arguments of a type behind a colon do not end in the text. -/
def OpenType (text : List Char) : Prop :=
  ∃ rest, ':' :: rest <:+ text ∧
    ∃ arguments, (ahead rest).tail.dropWhile isTypePart = '<' :: arguments ∧ ¬ Sealed arguments

theorem unclosing_append {text more : List Char} (here : Unclosing text) (later : Unclosing more) :
    Unclosing (text ++ more) := by
  unfold Unclosing at *
  rw [List.takeWhile_append]
  split
  · rw [List.mem_append, not_or]
    rename_i all
    refine ⟨fun member => here ?_, later⟩
    rwa [(List.takeWhile_prefix _).eq_of_length all]
  · exact here

private theorem unclosing_flatMap {α : Type} {items : List α} {textOf : α → List Char}
    (each : ∀ item ∈ items, Unclosing (textOf item)) : Unclosing (items.flatMap textOf) := by
  induction items with
  | nil => exact List.not_mem_nil
  | cons item items ih =>
    obtain ⟨here, later⟩ := List.forall_mem_cons.mp each
    exact unclosing_append here (ih later)

/-- Where a methods section has a type whose arguments do not end in it, nothing else closes them. -/
def TypesEnd (texts : List (SectionText parts)) (closing : List Char) : Prop :=
  ∀ text ∈ texts, text.IsMethods → OpenType text.chars →
    (∀ other ∈ texts, other.place ≠ text.place → Unclosing other.chars) ∧ Unclosing closing

variable {closing : List Char}

theorem TypesEnd.tail {text : SectionText parts} {texts : List (SectionText parts)}
    (typesEnd : TypesEnd (text :: texts) closing) : TypesEnd texts closing := by
  intro item member methods opens
  obtain ⟨shut, closed⟩ := typesEnd item (List.mem_cons_of_mem _ member) methods opens
  exact ⟨fun other member => shut other (List.mem_cons_of_mem _ member), closed⟩

/-- A section that can be read on its own is read in front of what may follow a section. -/
theorem SectionText.reads_before (text : SectionText parts) {keyword : String}
    (part : IsPart erase keyword (parts.get text.place).read) {more lead : List Char}
    (follows : HeadIn (fun c => StartsPart c ∨ StartsEnd c) more)
    (ends : text.IsMethods → OpenType text.chars → Unclosing more) (layout : IsLayout lead)
    (offset : Nat) :
    ∃ change left behind, IsLayout left ∧
      ((parts.get text.place).read ⟨lead ++ (text.chars ++ more), offset⟩).result =
        some (change, ⟨left ++ more, behind⟩) ∧
      behind + left.length = offset + lead.length + text.chars.length ∧
      ∀ state, erase (text.change state) = erase (change state) := by
  obtain ⟨behind, read, layoutBehind⟩ := text.reads
  obtain ⟨context, rfl, tame⟩ : ∃ context : Context, context.more = more ∧
      ∀ rest, context.tame rest ↔ rest <:+ text.chars :=
    ⟨Context.within text.chars more text.endsInGap, rfl, fun _ => Iff.rfl⟩
  have plain : context.Plain := fun rest within member =>
    text.plain (((tame rest).mp within).subset member)
  have guarded : keyword = "methods:" → context.Guarded := by
    rintro rfl rest within arguments opens
    by_cases shut : Sealed arguments
    · exact .inl shut
    · exact .inr (ends (part.opens read) ⟨rest, (tame _).mp within, arguments, opens, shut⟩)
  have steady := part.steady context plain guarded
  have stops : Stops context (OneOf ",-") behind.rest := by
    refine ((headIn_layout layoutBehind).mpr follows).disjoint ?_
    intro c begins listed
    rcases (show c ∈ [',', '-'] from listed) with _ | ⟨_, _ | ⟨_, ⟨⟩⟩⟩ <;>
      exact absurd begins (by decide)
  obtain ⟨change, ⟨left, place⟩, known, rfl, same⟩ :=
    steady.keeps ((tame _).mpr List.suffix_rfl) read stops (offset + lead.length)
  have moved := (steady.moves known).offset
  refine ⟨change, behind.rest, place, layoutBehind, ?_, ?_, fun state => congrFun same state⟩
  · rw [part.skips _ _ (layout.skip_append offset (text.chars ++ context.more)), known]
  · simp only [List.length_append] at moved
    omega

/-- The texts of sections in their order. -/
def joined (texts : List (SectionText parts)) : List Char := texts.flatMap SectionText.chars

theorem joined_cons (text : SectionText parts) (texts : List (SectionText parts)) :
    joined (text :: texts) = text.chars ++ joined texts := List.flatMap_cons

theorem headIn_joined (isPart : ∀ part ∈ parts, ∃ keyword, IsPart erase keyword part.read)
    (ends : HeadIn StartsEnd closing) (texts : List (SectionText parts)) :
    HeadIn (fun c => StartsPart c ∨ StartsEnd c) (joined texts ++ closing) := by
  cases texts with
  | nil => exact ends.imp fun _ => .inr
  | cons text texts =>
    obtain ⟨keyword, part⟩ := isPart _ (List.get_mem parts text.place)
    obtain ⟨behind, read, _⟩ := text.reads
    rw [joined_cons, List.append_assoc]
    exact ((part.moves read).head.append text.endsInGap _).imp fun _ => .inl

/-- Sections are read one after the other. Each changes the unit as it does on its own. -/
theorem sectionsUpTo_joined (isPart : ∀ part ∈ parts, ∃ keyword, IsPart erase keyword part.read)
    (independent : parts.Pairwise fun one two => Independent one.read two.read)
    (ends : HeadIn StartsEnd closing) {texts : List (SectionText parts)}
    (distinct : (texts.map SectionText.place).Nodup) (typesEnd : TypesEnd texts closing)
    {left : List (Fin parts.length)} (nodup : left.Nodup)
    (within : ∀ text ∈ texts, text.place ∈ left) {count : Nat} (enough : texts.length ≤ count)
    {lead : List Char} (layout : IsLayout lead) (offset : Nat) {state other : σ}
    (same : erase state = erase other) :
    ∃ filled behind,
      (sectionsUpTo count (left.map parts.get) state
        ⟨lead ++ (joined texts ++ closing), offset⟩).result =
        (if ((left.diff (texts.map SectionText.place)).map parts.get).any (·.required) then none
          else some (filled, behind)) ∧
      behind.skip = Cursor.skip ⟨closing, offset + lead.length + (joined texts).length⟩ ∧
      erase filled = erase (texts.foldl (fun unit text => text.change unit) other) := by
  induction texts generalizing left count lead offset state other with
  | nil =>
    refine ⟨state, ⟨lead ++ closing, offset⟩, ?_, layout.skip_append offset closing, same⟩
    refine sectionsUpTo_of_fails count (fun part member => ?_) state
    obtain ⟨place, _, rfl⟩ := List.mem_map.mp member
    obtain ⟨keyword, part⟩ := isPart _ (List.get_mem parts place)
    refine part.fails (((headIn_layout layout).mpr ends).disjoint fun c begins listed => ?_)
    rcases (show c ∈ ['a', 'e', 'f'] from begins) with _ | ⟨_, _ | ⟨_, _ | ⟨_, ⟨⟩⟩⟩⟩ <;>
      exact absurd listed (by decide)
  | cons text texts ih =>
    obtain ⟨apart, distinct⟩ := List.nodup_cons.mp distinct
    obtain ⟨here, within⟩ := List.forall_mem_cons.mp within
    obtain ⟨keyword, part⟩ := isPart _ (List.get_mem parts text.place)
    have others : ∀ item ∈ texts, item.place ≠ text.place := fun item member same =>
      apart (List.mem_map.mpr ⟨item, member, same⟩)
    obtain ⟨change, gap, place, layoutBehind, read, length, alike⟩ :=
      text.reads_before part (headIn_joined isPart ends texts)
        (fun methods opens => by
          obtain ⟨shut, closed⟩ := typesEnd text List.mem_cons_self methods opens
          exact unclosing_append (unclosing_flatMap fun item member =>
            shut item (List.mem_cons_of_mem _ member) (others item member)) closed)
        layout offset
    obtain ⟨behind, readAlone, _⟩ := text.reads
    obtain ⟨count, rfl⟩ := Nat.exists_eq_add_one_of_ne_zero (Nat.ne_of_gt (Nat.lt_of_lt_of_le
      (Nat.succ_pos _) enough))
    obtain ⟨filled, last, result, skipped, changed⟩ := ih distinct typesEnd.tail
      (nodup.erase text.place)
      (fun item member => (List.mem_erase_of_ne (others item member)).mpr (within item member))
      (Nat.le_of_succ_le_succ enough) layoutBehind place
      ((alike state).symm.trans (part.respects _ _ _ readAlone state other same))
    refine ⟨filled, last, ?_, ?_, changed⟩
    · rw [joined_cons, List.append_assoc, result_sectionsUpTo_succ,
        nextSection_of_reads nodup here read fun other ne =>
          ((independent_of_ne independent ne).apart _).resolve_left (by rw [read]; nofun),
        List.map_cons, List.diff_cons]
      exact result
    · rw [skipped, joined_cons, List.length_append]
      congr 2
      omega

section Permutations

variable {texts others : List (SectionText parts)}

/-- Sections change a unit in any order. -/
theorem foldl_change_of_perm
    (independent : parts.Pairwise fun one two => Independent one.read two.read)
    (distinct : (texts.map SectionText.place).Nodup) (permuted : texts.Perm others) (state : σ) :
    texts.foldl (fun unit text => text.change unit) state =
      others.foldl (fun unit text => text.change unit) state := by
  refine permuted.foldl_eq' (fun one first two second unit => ?_) state
  by_cases same : one.place = two.place
  · obtain rfl := List.inj_on_of_nodup_map distinct first second same
    rfl
  · obtain ⟨behind, read, _⟩ := one.reads
    obtain ⟨later, readToo, _⟩ := two.reads
    exact (independent_of_ne independent same).symm.commutes readToo read unit

theorem TypesEnd.of_perm (typesEnd : TypesEnd texts closing) (permuted : texts.Perm others) :
    TypesEnd others closing := by
  intro text member methods opens
  obtain ⟨shut, closed⟩ := typesEnd text (permuted.mem_iff.mpr member) methods opens
  exact ⟨fun other listed => shut other (permuted.mem_iff.mpr listed), closed⟩

theorem length_joined_of_perm (permuted : texts.Perm others) :
    (joined texts).length = (joined others).length :=
  (permuted.flatMap_right _).length_eq

end Permutations

end Order

end Blueprint.Design.Reader
