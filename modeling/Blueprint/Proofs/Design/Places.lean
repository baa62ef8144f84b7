import Blueprint.Proofs.Design.SectionOrder

namespace Blueprint.Design

section Places

variable {text : List Char} {cursor behind : Cursor}

/-- A cursor stands where a text goes on as what is left to read. -/
def Cursor.Within (text : List Char) (cursor : Cursor) : Prop := cursor.rest = text.drop cursor.offset

theorem Cursor.Within.of_suffix (inside : cursor.Within text) (shorter : behind.rest <:+ cursor.rest)
    (offset : behind.offset + behind.rest.length = cursor.offset + cursor.rest.length) :
    behind.Within text := by
  obtain ⟨front, split⟩ := shorter
  have length := congrArg List.length split
  rw [List.length_append] at length
  have place : behind.offset = cursor.offset + front.length := by omega
  rw [Within, place, ← List.drop_drop, ← inside, ← split, List.drop_left]

theorem Cursor.Within.skip (inside : cursor.Within text) : cursor.skip.Within text := by
  refine inside.of_suffix ?_ ?_
  · rw [Cursor.rest_skip]
    exact ahead_suffix _
  · rw [Cursor.rest_skip]
    exact cursor.offset_skip

end Places

namespace Reader

section Places

variable {α β γ : Type} {text : List Char} {starts : Char → Prop}

/-- A reader that starts within a text ends within it. -/
abbrev Stays (text : List Char) (reader : Reader α) : Prop :=
  Yields (Cursor.Within text) (fun _ => True) reader

theorem stays_token (lexeme : Lexeme α) : Stays text (token lexeme) := by
  intro cursor value behind inside read
  rw [result_token] at read
  obtain ⟨found, known, same⟩ := Option.map_eq_some_iff.mp read
  obtain ⟨-, rfl⟩ := Prod.mk.inj same
  refine ⟨trivial, ?_⟩
  have skipped := inside.skip
  rw [Cursor.Within, Cursor.rest_skip] at skipped
  rw [Cursor.Within, skipped, List.drop_drop]

private theorem stays_of_moves {idle : Prop} {reader : Reader α}
    (moves : ∀ {cursor value behind}, (reader cursor).result = some (value, behind) →
      Moved starts idle cursor behind) : Stays text reader :=
  fun _ _ _ inside read => ⟨trivial, inside.of_suffix (moves read).within (moves read).offset⟩

theorem Stays.optional {reader : Reader α} (stays : Stays text reader) :
    Stays text (optional reader) :=
  (yields_optional stays).imp fun _ _ => trivial

theorem Stays.flag {reader : Reader PUnit} (stays : Stays text reader) : Stays text (flag reader) :=
  yields_bind stays.optional fun _ _ => yields_pure trivial

private theorem yields_atLeastOne {good : α → Prop} {reader : Reader α}
    (reads : Yields (Cursor.Within text) good reader) :
    Yields (Cursor.Within text) (fun values => ∀ value ∈ values, good value) (atLeastOne reader) :=
  yields_bind reads fun _ holds => yields_bind (yields_many reads) fun _ later =>
    yields_pure (List.forall_mem_cons.mpr ⟨holds, later⟩)

private theorem yields_sepBy1 {good : α → Prop} {reader : Reader α} {separator : Reader β}
    (reads : Yields (Cursor.Within text) good reader) (stays : Stays text separator) :
    Yields (Cursor.Within text) (fun values => ∀ value ∈ values, good value)
      (sepBy1 reader separator) :=
  yields_bind reads fun _ holds =>
    yields_bind (yields_many (yields_bind stays fun _ _ => reads)) fun _ later =>
      yields_pure (List.forall_mem_cons.mpr ⟨holds, later⟩)

end Places

section Properties

variable {text : List Char} {holds : WrittenOption → Prop}

private theorem stays_position : Stays text position := by
  rintro cursor _ _ inside ⟨⟩
  exact ⟨trivial, inside⟩

private theorem stays_typeRef : Stays text typeRef :=
  yields_bind (stays_token _) fun _ _ => yields_bind (stays_token _).flag fun _ _ =>
    yields_pure trivial

private theorem yields_options (each : Yields (Cursor.Within text) holds writtenOption) :
    Yields (Cursor.Within text) (fun written => ∀ option ∈ written, holds option) options :=
  yields_bind (stays_token _) fun _ _ =>
    yields_bind (yields_sepBy1 each (stays_token _)) fun _ all =>
      yields_bind (stays_token _) fun _ _ => yields_pure all

theorem yields_property (each : Yields (Cursor.Within text) holds writtenOption) :
    Yields (Cursor.Within text) (fun property => ∀ option ∈ property.written, holds option)
      property := by
  have code : Stays text (after (sign "=") markedCode) :=
    yields_bind (stays_token _) fun _ _ => yields_orElse (stays_token _) (stays_token _)
  refine yields_bind stays_position fun _ _ => yields_bind (stays_token _) fun _ _ =>
    yields_bind (stays_token _) fun _ _ => yields_bind (stays_token _).flag fun _ _ =>
    yields_bind (stays_token _) fun _ _ => yields_bind stays_typeRef fun _ _ =>
    yields_bind (yields_optional (yields_options each)) fun written all =>
    yields_bind code.optional fun _ _ =>
    yields_bind (stays_token _) fun _ _ => yields_pure ?_
  cases written with
  | none => exact nofun
  | some written => exact all written rfl

end Properties

end Reader

section Units

open Reader BlockForm

variable {text : List Char} {holds : WrittenOption → Prop} {σ : Type} {good : σ → Prop}
  {erase : σ → σ}

/-- Something holds of the options of all properties of a unit. -/
def Unit.AllOptions (holds : WrittenOption → Prop) (unit : Unit) : Prop :=
  ∀ property ∈ unit.properties, ∀ option ∈ property.written, holds option

theorem Unit.allOptions_of_bare {unit : Unit} (bare : unit.properties = []) :
    unit.AllOptions holds := by
  intro property owned
  rw [bare] at owned
  exact absurd owned List.not_mem_nil

theorem preserves_properties (each : Yields (Cursor.Within text) holds writtenOption) {start : String}
    {set : List Property → σ → σ}
    (sets : ∀ properties state, (∀ property ∈ properties, ∀ option ∈ property.written,
      holds option) → good (set properties state)) :
    Preserves (Cursor.Within text) good (entry start (atLeastOne property) set).toSection.read :=
  yields_bind (stays_token _) fun _ _ =>
    yields_bind (yields_atLeastOne (yields_property each)) fun _ all =>
      yields_pure fun state _ => sets _ state all

theorem preserves_entries {form : BlockForm} {good : form.State → Prop} (isForm : form.IsForm)
    (kept : ∀ entry ∈ form.entries, entry.Keeps good ∨
      Preserves (Cursor.Within text) good entry.toSection.read) :
    ∀ entry ∈ form.entries, Preserves (Cursor.Within text) good entry.toSection.read := by
  intro entry listed
  obtain ⟨keyword, is⟩ := isForm.isPart _ (List.mem_map_of_mem listed)
  exact (kept entry listed).elim (fun keeps => Gives.yields keeps.gives (stays_of_moves is.moves)) id

theorem yields_reader {form : BlockForm}
    (begins : ∀ offset, Yields (Cursor.Within text)
      (fun state => (form.wrap state).AllOptions holds) (form.head offset))
    (kept : ∀ entry ∈ form.entries, Preserves (Cursor.Within text)
      (fun state => (form.wrap state).AllOptions holds) entry.toSection.read)
    (ends : ∀ state, (form.wrap state).AllOptions holds → Yields (Cursor.Within text)
      (fun state => (form.wrap state).AllOptions holds) (form.tail state)) :
    Yields (Cursor.Within text) (Unit.AllOptions holds) form.reader :=
  yields_bind (yields_block (fun _ => stays_token _) begins kept ends) fun _ all => yields_pure all

theorem yields_named {start : String} {make : Nat → String → σ} {entries : List (Entry σ)}
    {wrap : σ → Unit} (isForm : (named start make entries wrap erase).IsForm)
    (bare : ∀ offset name, (wrap (make offset name)).properties = [])
    (kept : ∀ entry ∈ entries, entry.Keeps (fun state => (wrap state).AllOptions holds) ∨
      Preserves (Cursor.Within text) (fun state => (wrap state).AllOptions holds)
        entry.toSection.read) :
    Yields (Cursor.Within text) (Unit.AllOptions holds) (named start make entries wrap erase).reader :=
  yields_reader
    (fun offset => yields_bind (stays_token _) fun name _ =>
      yields_pure (Unit.allOptions_of_bare (bare offset name)))
    (preserves_entries isForm kept) fun _ filled => yields_pure filled

theorem stays_function : Stays text function := by
  have type (start : String) : Stays text (Reader.optional (after (sign start) typeRef)) :=
    Stays.optional (yields_bind (stays_token _) fun _ _ => stays_typeRef)
  have parameter : Stays text parameter :=
    yields_bind (stays_token _) fun _ _ => yields_bind (stays_token _).flag fun _ _ =>
      yields_bind (type ":") fun _ _ => yields_pure trivial
  have list : Stays text (sepBy Reader.parameter (sign ",")) :=
    yields_bind (Stays.optional ((yields_sepBy1 parameter (stays_token _)).imp fun _ _ => trivial))
      fun _ _ => yields_pure trivial
  have parameters : Stays text parameters :=
    yields_bind (stays_token _) fun _ _ => yields_bind list fun _ _ =>
      yields_bind (stays_token _) fun _ _ => yields_pure trivial
  exact yields_bind (stays_token _).flag fun _ _ => yields_bind (stays_token _) fun _ _ =>
    yields_bind (stays_token _) fun _ _ => yields_bind parameters fun _ _ =>
      yields_bind (type "->") fun _ _ => yields_bind (stays_token _) fun _ _ => yields_pure trivial

private theorem yields_behavior (isForm : behavior.IsForm) :
    Yields (Cursor.Within text) (Unit.AllOptions holds) behavior.reader := by
  have bare (unit : Behavior) : (behavior.wrap unit).AllOptions holds := Unit.allOptions_of_bare rfl
  refine yields_reader (fun _ => ?_) (preserves_entries isForm fun _ _ =>
    .inl fun _ _ _ => bare _) fun _ _ => ?_
  · exact yields_bind (stays_token _) fun _ _ => yields_bind (stays_token _) fun _ _ =>
      yields_bind (stays_token _) fun _ _ => yields_pure (bare _)
  · exact yields_bind stays_function.optional fun _ _ => yields_pure (bare _)

private theorem yields_selectorInterface (isForm : selectorInterface.IsForm) :
    Yields (Cursor.Within text) (Unit.AllOptions holds) selectorInterface.reader := by
  have bare (unit : SelectorInterface) : (selectorInterface.wrap unit).AllOptions holds :=
    Unit.allOptions_of_bare rfl
  have kind : Stays text interfaceKind :=
    yields_firstOf (List.forall_mem_map.mpr fun _ _ =>
      yields_bind (stays_token _) fun _ _ => yields_pure trivial)
  refine yields_reader (fun _ => ?_) (preserves_entries isForm fun _ _ =>
    .inl fun _ _ _ => bare _) fun _ _ => yields_pure (bare _)
  exact yields_bind (stays_token _) fun _ _ => yields_bind kind fun _ _ =>
    yields_bind (stays_token _) fun _ _ => yields_bind (stays_token _) fun _ _ =>
      yields_pure (bare _)

/-- Properties come into a unit by the section that lists them; no other section changes them. -/
theorem yields_unit (each : Yields (Cursor.Within text) holds writtenOption) :
    Yields (Cursor.Within text) (Unit.AllOptions holds) unit := by
  rw [unit_eq]
  refine yields_firstOf (List.forall_mem_map.mpr ?_)
  have forms := isForm_all
  simp only [all, List.forall_mem_cons, List.not_mem_nil, false_implies, implies_true, and_true]
    at forms ⊢
  obtain ⟨project, dataSource, entity, mixin, behavior, page, component, selectorInterface⟩ := forms
  refine ⟨yields_named project (fun _ _ => rfl) ?_, yields_named dataSource (fun _ _ => rfl) ?_,
    yields_named entity (fun _ _ => rfl) ?_, yields_named mixin (fun _ _ => rfl) ?_,
    yields_behavior behavior, yields_named page (fun _ _ => rfl) ?_,
    yields_named component (fun _ _ => rfl) ?_, yields_selectorInterface selectorInterface⟩
  all_goals
    simp only [projectSections, dataSourceSections, entitySections, mixinSections, pageSections,
      componentSections, List.forall_mem_cons, List.not_mem_nil, false_implies, implies_true, and_true]
    repeat' apply And.intro
  all_goals first
    | exact .inl fun _ _ => id
    | exact .inr (preserves_properties each fun _ _ => id)

/-- What holds of every option that is read in a text holds of all options of its properties. -/
theorem allOptions_of_readUnits (each : Yields (Cursor.Within text) holds writtenOption)
    {units : List Unit} (readable : readUnits text = .ok units) :
    ∀ unit ∈ units, unit.AllOptions holds := by
  have ended : Stays text atEnd := by
    intro cursor _ behind inside read
    simp only [atEnd] at read
    split at read
    · cases read
      exact ⟨trivial, inside.skip⟩
    · cases read
  have design : Yields (Cursor.Within text) (fun units => ∀ unit ∈ units, unit.AllOptions holds)
      design :=
    yields_bind (yields_many (yields_unit each)) fun _ all =>
      yields_bind ended fun _ _ => yields_pure all
  obtain ⟨behind, read⟩ := readUnits_eq_ok_iff.mp readable
  exact (design ⟨text, 0⟩ _ _ rfl read).1

end Units

end Blueprint.Design
