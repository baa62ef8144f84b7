import Blueprint.Registry
import Blueprint.Proofs.Design.Problems

namespace Blueprint

namespace Design

/-- A name is a word, and it is not empty. -/
def IsWordName (name : String) : Prop := name ≠ "" ∧ name.toList.all Text.isWord = true

namespace Reader

/-- From a cursor with a property a reader gives only values with a property, and the cursor that it
leaves has the first property again. -/
def Yields {α : Type} (inv : Cursor → Prop) (good : α → Prop) (reader : Reader α) : Prop :=
  ∀ cursor value behind, inv cursor → (reader cursor).result = some (value, behind) →
    good value ∧ inv behind

section Yields

variable {α β : Type} {inv : Cursor → Prop} {good : α → Prop}

theorem yields_pure {value : α} (holds : good value) : Yields inv good (pure value) := by
  intro cursor other behind kept read
  cases read
  exact ⟨holds, kept⟩

theorem Yields.imp {others : α → Prop} {reader : Reader α} (reads : Yields inv good reader)
    (weaker : ∀ value, good value → others value) : Yields inv others reader :=
  fun cursor value behind kept read =>
    (reads cursor value behind kept read).imp_left (weaker value)

/-- What is read behind a value may rely on what that value is. -/
theorem yields_bind {first : Reader β} {next : β → Reader α} {lead : β → Prop}
    (reads : Yields inv lead first) (step : ∀ value, lead value → Yields inv good (next value)) :
    Yields inv good (first >>= next) := by
  intro cursor value behind kept read
  simp only [bind, andThen] at read
  split at read
  · rename_i found
    obtain ⟨holds, passed⟩ := reads _ _ _ kept (congrArg Reading.result found)
    exact step _ holds _ _ _ passed read
  · cases read

theorem yields_never : Yields inv good (never : Reader α) := by
  intro cursor value behind kept read
  cases read

theorem yields_orElse {first second : Reader α} (one : Yields inv good first)
    (two : Yields inv good second) : Yields inv good (orElse first second) := by
  intro cursor value behind kept read
  simp only [orElse] at read
  split at read
  · exact two _ _ _ kept read
  · exact one _ _ _ kept read

theorem yields_firstOf {readers : List (Reader α)} (each : ∀ reader ∈ readers, Yields inv good reader) :
    Yields inv good (firstOf readers) := by
  induction readers with
  | nil => exact yields_never
  | cons reader readers ih =>
    obtain ⟨here, later⟩ := List.forall_mem_cons.mp each
    exact yields_orElse here (ih later)

theorem yields_optional {reader : Reader α} (reads : Yields inv good reader) :
    Yields inv (fun value => ∀ found, value = some found → good found) (optional reader) := by
  refine yields_orElse (yields_bind reads fun value holds => yields_pure ?_) (yields_pure nofun)
  rintro found ⟨⟩
  exact holds

private theorem yields_upTo {reader : Reader α} (reads : Yields inv good reader) (count : Nat) :
    Yields inv (fun values => ∀ value ∈ values, good value) (upTo reader count) := by
  induction count with
  | zero => exact yields_pure nofun
  | succ count ih =>
    refine yields_bind (yields_optional reads) fun value holds => ?_
    cases value with
    | none => exact yields_pure nofun
    | some value =>
      exact yields_bind ih fun values later =>
        yields_pure (List.forall_mem_cons.mpr ⟨holds value rfl, later⟩)

theorem yields_many {reader : Reader α} (reads : Yields inv good reader) :
    Yields inv (fun values => ∀ value ∈ values, good value) (many reader) :=
  fun cursor => yields_upTo reads cursor.rest.length cursor

end Yields

section Sections

variable {σ : Type} {inv : Cursor → Prop} {good : σ → Prop}

/-- The change that a section reads keeps a property of the unit. -/
def Preserves (inv : Cursor → Prop) (good : σ → Prop) (read : Reader (σ → σ)) : Prop :=
  Yields inv (fun change => ∀ state, good state → good (change state)) read

private theorem yields_nextSection {left : List (Section σ)}
    (kept : ∀ part ∈ left, Preserves inv good part.read) :
    Yields inv (fun found => (∀ state, good state → good (found.1 state)) ∧
      ∀ part ∈ found.2, Preserves inv good part.read) (nextSection left) := by
  induction left with
  | nil => exact yields_never
  | cons head rest ih =>
    obtain ⟨here, later⟩ := List.forall_mem_cons.mp kept
    refine yields_orElse (yields_bind here fun change holds => yields_pure ⟨holds, later⟩)
      (yields_bind (ih later) fun found holds => yields_pure ⟨holds.1, ?_⟩)
    exact List.forall_mem_cons.mpr ⟨here, holds.2⟩

theorem yields_sectionsUpTo (count : Nat) {left : List (Section σ)}
    (kept : ∀ part ∈ left, Preserves inv good part.read) {state : σ} (holds : good state) :
    Yields inv good (sectionsUpTo count left state) := by
  have stop (left : List (Section σ)) {state : σ} (holds : good state) :
      Yields inv good (if left.any (·.required) then never else done state) := by
    split
    · exact yields_never
    · exact yields_pure holds
  induction count generalizing left state with
  | zero => exact stop left holds
  | succ count ih =>
    refine yields_bind (yields_optional (yields_nextSection kept)) fun found next => ?_
    cases found with
    | none => exact stop left holds
    | some found =>
      obtain ⟨changed, later⟩ := next found rfl
      exact ih later (changed state holds)

/-- A unit has from its head what neither its sections nor its tail change. -/
theorem yields_block {start : String} {head : Nat → Reader σ} {entries : List (Entry σ)}
    {tail : σ → Reader σ} (words : ∀ text, Yields inv (fun _ => True) (word text))
    (begins : ∀ offset, Yields inv good (head offset))
    (kept : ∀ entry ∈ entries, Preserves inv good entry.toSection.read)
    (ends : ∀ state, good state → Yields inv good (tail state)) :
    Yields inv good (block start head entries tail) := by
  have position : Yields inv (fun _ => True) position := by
    rintro cursor _ _ kept ⟨⟩
    exact ⟨trivial, kept⟩
  exact yields_bind position fun offset _ => yields_bind (words start) fun _ _ =>
    yields_bind (begins offset) fun _ begun =>
      yields_bind (yields_sectionsUpTo _ (List.forall_mem_map.mpr kept) begun) fun _ filled =>
        yields_bind (ends _ filled) fun _ ended =>
          yields_bind (words "end") fun _ _ => yields_pure ended

end Sections

/-- A reader gives only values with a property. -/
def Gives {α : Type} (good : α → Prop) (reader : Reader α) : Prop :=
  ∀ cursor value behind, (reader cursor).result = some (value, behind) → good value

section Gives

variable {α β : Type} {good : α → Prop}

theorem gives_iff_yields {reader : Reader α} :
    Gives good reader ↔ Yields (fun _ => True) good reader := by
  simp only [Gives, Yields, true_implies, and_true]

theorem Gives.yields {inv : Cursor → Prop} {reader : Reader α} (gives : Gives good reader)
    (passes : Yields inv (fun _ => True) reader) : Yields inv good reader :=
  fun cursor value behind kept read =>
    ⟨gives cursor value behind read, (passes cursor value behind kept read).2⟩

theorem gives_pure {value : α} (holds : good value) : Gives good (pure value) :=
  gives_iff_yields.mpr (yields_pure holds)

theorem gives_done {value : α} (holds : good value) : Gives good (done value) := gives_pure holds

theorem gives_bind {first : Reader β} {next : β → Reader α} {lead : β → Prop}
    (reads : Gives lead first) (step : ∀ value, lead value → Gives good (next value)) :
    Gives good (first >>= next) :=
  gives_iff_yields.mpr (yields_bind (gives_iff_yields.mp reads) fun value holds =>
    gives_iff_yields.mp (step value holds))

theorem gives_any (reader : Reader α) : Gives (fun _ => True) reader := fun _ _ _ _ => trivial

theorem gives_bind_any {first : Reader β} {next : β → Reader α}
    (step : ∀ value, Gives good (next value)) : Gives good (first >>= next) :=
  gives_bind (gives_any first) fun value _ => step value

theorem gives_firstOf {readers : List (Reader α)} (each : ∀ reader ∈ readers, Gives good reader) :
    Gives good (firstOf readers) :=
  gives_iff_yields.mpr (yields_firstOf fun reader listed => gives_iff_yields.mp (each reader listed))

private theorem gives_many {reader : Reader α} (reads : Gives good reader) :
    Gives (fun values => ∀ value ∈ values, good value) (many reader) :=
  gives_iff_yields.mpr (yields_many (gives_iff_yields.mp reads))

end Gives

section Blocks

variable {σ : Type} {good : σ → Prop}

/-- What a section changes keeps a property of the unit. -/
def Entry.Keeps (good : σ → Prop) (entry : Entry σ) : Prop :=
  ∀ value state, good state → good (entry.set value state)

theorem Entry.Keeps.gives {entry : Entry σ} (keeps : entry.Keeps good) :
    Gives (fun change => ∀ state, good state → good (change state)) entry.toSection.read :=
  gives_bind_any fun _ => gives_bind_any fun value => gives_pure (keeps value)

theorem gives_block {start : String} {head : Nat → Reader σ} {entries : List (Entry σ)}
    {tail : σ → Reader σ} (begins : ∀ offset, Gives good (head offset))
    (keeps : ∀ entry ∈ entries, entry.Keeps good)
    (ends : ∀ state, good state → Gives good (tail state)) :
    Gives good (block start head entries tail) :=
  gives_iff_yields.mpr (yields_block (fun _ => gives_iff_yields.mp (gives_any _))
    (fun offset => gives_iff_yields.mp (begins offset))
    (fun entry listed => gives_iff_yields.mp (keeps entry listed).gives)
    fun state filled => gives_iff_yields.mp (ends state filled))

end Blocks

section Units

theorem gives_name : Gives IsWordName name := by
  intro cursor value behind read
  simp only [name, token] at read
  split at read
  · rename_i found given
    cases read
    unfold Lexeme.name at given
    split at given
    · rename_i c rest _
      split at given
      · rename_i starts
        cases given
        rw [Bool.and_eq_true] at starts
        refine ⟨by simp [← String.toList_inj], ?_⟩
        rw [String.toList_ofList, List.all_cons, starts.1, Bool.true_and]
        exact List.all_takeWhile
      · cases given
    · cases given
  · cases read

theorem gives_named {σ : Type} {good : σ → Prop} {make : String → σ}
    (named : ∀ name, IsWordName name → good (make name)) :
    Gives good (do return make (← name)) :=
  gives_bind gives_name fun name holds => gives_pure (named name holds)

theorem gives_unit : Gives (fun unit : Unit => IsWordName unit.name) unit := by
  have wrap {σ : Type} {good : σ → Prop} {reader : Reader σ} {make : σ → Unit}
      (reads : Gives good reader) (named : ∀ state, good state → IsWordName (make state).name) :
      Gives (fun unit : Unit => IsWordName unit.name) (make <$> reader) :=
    gives_bind reads fun state holds => gives_pure (named state holds)
  have project : Gives (fun unit => IsWordName unit.name) project :=
    gives_block (fun _ => gives_named fun _ => id) (by simp [projectSections, entry, Entry.Keeps])
      fun _ named => gives_done named
  have dataSource : Gives (fun unit => IsWordName unit.name) dataSource :=
    gives_block (fun _ => gives_named fun _ => id) (by simp [dataSourceSections, entry, Entry.Keeps])
      fun _ named => gives_done named
  have entity : Gives (fun unit => IsWordName unit.name) entity :=
    gives_block (fun _ => gives_named fun _ => id) (by simp [entitySections, entry, Entry.Keeps])
      fun _ named => gives_done named
  have mixin : Gives (fun unit => IsWordName unit.name) mixin :=
    gives_block (fun _ => gives_named fun _ => id) (by simp [mixinSections, entry, Entry.Keeps])
      fun _ named => gives_done named
  have behavior : Gives (fun unit => IsWordName unit.name) behavior :=
    gives_block
      (fun _ => gives_bind gives_name fun _ named =>
        gives_bind_any fun _ => gives_bind_any fun _ => gives_pure named)
      (by simp [behaviorSections, entry, Entry.Keeps])
      fun _ named => gives_bind_any fun _ => gives_pure named
  have page : Gives (fun unit => IsWordName unit.name) page :=
    gives_block (fun _ => gives_named fun _ => id) (by simp [pageSections, entry, Entry.Keeps])
      fun _ named => gives_done named
  have component : Gives (fun unit => IsWordName unit.name) component :=
    gives_block (fun _ => gives_named fun _ => id) (by simp [componentSections, entry, Entry.Keeps])
      fun _ named => gives_done named
  have selectorInterface : Gives (fun unit => IsWordName unit.name) selectorInterface :=
    gives_block
      (fun _ => gives_bind_any fun _ => gives_bind_any fun _ => gives_bind_any fun _ =>
        gives_named fun _ => id)
      (by simp [selectorInterfaceSections, entry, Entry.Keeps]) fun _ named => gives_done named
  refine gives_firstOf ?_
  simp only [List.forall_mem_cons, List.not_mem_nil, false_implies, implies_true, and_true]
  exact ⟨wrap project fun _ => id, wrap dataSource fun _ => id, wrap entity fun _ => id,
    wrap mixin fun _ => id, wrap behavior fun _ => id, wrap page fun _ => id,
    wrap component fun _ => id, wrap selectorInterface fun _ => id⟩

end Units

end Reader

section Checks

theorem isWordName_of_parse {text : String} {units : List Unit} (parsed : parse text = .ok units)
    {unit : Unit} (listed : unit ∈ units) : IsWordName unit.name := by
  obtain ⟨written, read, _, rfl⟩ := settled_of_parse parsed
  obtain ⟨original, member, rfl⟩ := List.mem_map.mp listed
  rw [Unit.name_settled]
  unfold readUnits at read
  split at read
  · rename_i found
    cases read
    have reads : Reader.Gives (fun units => ∀ unit ∈ units, IsWordName unit.name) Reader.design :=
      Reader.gives_bind (Reader.gives_many Reader.gives_unit) fun units named =>
        Reader.gives_bind_any fun _ => Reader.gives_pure named
    exact reads _ _ _ (congrArg Reading.result found) original member
  · cases read

/-- What is checked of an entity's own properties: their names are distinct, and one that is flagged
as the identity is the only one, and a single number or text. -/
structure Entity.Checked (entity : Entity) : Prop where
  distinct : (entity.properties.map Property.name).Nodup
  identity : ∀ property ∈ flaggedIdentities entity.properties,
    flaggedIdentities entity.properties = [property] ∧ property.type.array = false ∧
      (identityType? property.type.name).isSome = true

/-- The entities of a text that can be read are checked. -/
theorem checked_of_parse {text : String} {units : List Unit} (parsed : parse text = .ok units)
    {entity : Entity} (listed : .entity entity ∈ units) : entity.Checked := by
  obtain ⟨written, _, sound, rfl⟩ := settled_of_parse parsed
  obtain ⟨original, member, same⟩ := List.mem_map.mp listed
  cases original with
  | entity original =>
    obtain rfl := Unit.entity.inj same
    obtain ⟨single, suited⟩ := sound.identities original member
    refine ⟨?_, fun property flagged => ?_⟩
    · rw [List.map_map]
      exact (sound.members _ member).1
    · have few : (flaggedIdentities (original.properties.map Property.settled)).length ≤ 1 := by
        rw [flaggedIdentities_settled, List.length_map, length_filter_le_one_iff]
        simpa only [flagged_settled] using single
      rw [flaggedIdentities_settled] at flagged
      obtain ⟨one, marked, rfl⟩ := List.mem_map.mp flagged
      obtain ⟨owned, yes⟩ := List.mem_filter.mp marked
      obtain ⟨isSingle, scalar⟩ := suited one owned ((flagged_settled one).mp yes)
      refine ⟨?_, isSingle, ?_⟩
      · rw [← flaggedIdentities_settled] at flagged
        obtain ⟨only, is⟩ := List.length_eq_one_iff.mp (few.antisymm (List.length_pos_of_mem flagged))
        rw [is] at flagged
        rw [is, List.mem_singleton.mp flagged]
      · rw [← Bool.not_eq_false', Option.not_isSome]
        exact isNone_identityType?_iff.mpr scalar
  | _ => cases same

end Checks

end Design

/-- Names are words, and no name is empty. -/
def WellNamed (registry : Registry) : Prop :=
  ∀ declared ∈ registry.units, Design.IsWordName declared.name

theorem WellNamed.of_listed {registry : Registry} (wellNamed : WellNamed registry) {α : Type}
    {view : Design.Unit → Option α} {item : Declared α} (listed : item ∈ registry.list view)
    {name : String} (named : ∀ declared : Declared Design.Unit,
      view declared.unit = some item.unit → declared.name = name) : Design.IsWordName name := by
  obtain ⟨declared, member, shown⟩ := List.mem_filterMap.mp listed
  obtain ⟨unit, found, rfl⟩ := Option.map_eq_some_iff.mp shown
  exact named declared found ▸ wellNamed declared member

namespace Registry

/-- A registry holds what was declared, in the order of its declaration. -/
theorem units_of_ofUnits {units : List (Declared Design.Unit)} {registry : Registry}
    (made : ofUnits units = .ok registry) : registry.units = units := by
  have general {start : Registry} (units : List (Declared Design.Unit))
      (made : units.foldlM add start = .ok registry) : registry.units = start.units ++ units := by
    induction units generalizing start with
    | nil =>
      cases made
      exact (List.append_nil _).symm
    | cons declared units ih =>
      rw [List.foldlM_cons] at made
      obtain ⟨next, added, made⟩ := bind_eq_ok_iff.mp made
      rw [ih made]
      unfold add at added
      split at added
      · cases added
      · cases added
        rw [List.append_assoc]
        rfl
  exact general units made

private theorem mem_of_mem_declare {source : Option String} {inLibrary : Bool} {start : Nat}
    {units : List Design.Unit} {declared : Declared Design.Unit}
    (listed : declared ∈ declare source inLibrary start units) : declared.unit ∈ units := by
  induction units generalizing start with
  | nil => cases listed
  | cons unit units ih =>
    rcases List.mem_cons.mp listed with rfl | listed
    · exact List.mem_cons_self
    · exact List.mem_cons_of_mem _ (ih listed)

private theorem mem_of_mem_declareAll {done : List (Declared Design.Unit)} {sources : List Source}
    {declared : Declared Design.Unit} (listed : declared ∈ declareAll done sources) :
    declared ∈ done ∨ ∃ source ∈ sources, declared.unit ∈ source.units := by
  induction sources generalizing done with
  | nil => exact Or.inl listed
  | cons source sources ih =>
    rcases ih listed with earlier | ⟨other, later, mine⟩
    · rcases List.mem_append.mp earlier with old | new
      · exact Or.inl old
      · exact Or.inr ⟨source, List.mem_cons_self, mem_of_mem_declare new⟩
    · exact Or.inr ⟨other, List.mem_cons_of_mem _ later, mine⟩

end Registry

section Loading

variable (good : Design.Unit → Prop)
  (each : ∀ text units, Design.parse text = .ok units → ∀ unit ∈ units, good unit)

include each

theorem forall_of_parseSources {inLibrary : Bool} {texts : List String}
    {sources : List Registry.Source} (parsed : parseSources inLibrary texts = .ok sources) :
    ∀ source ∈ sources, ∀ unit ∈ source.units, good unit := by
  induction texts generalizing sources with
  | nil =>
    cases parsed
    exact nofun
  | cons text texts ih =>
    obtain ⟨units, read, parsed⟩ := bind_eq_ok_iff.mp parsed
    obtain ⟨others, later, parsed⟩ := bind_eq_ok_iff.mp parsed
    cases parsed
    exact List.forall_mem_cons.mpr ⟨each text units read, ih later⟩

/-- What holds of the units of every text holds of the units of a registry that is loaded. -/
theorem forall_of_loadTexts {main : String} {libraries : List String} {registry : Registry}
    (loaded : loadTexts main libraries = .ok registry) :
    ∀ declared ∈ registry.units, good declared.unit := by
  have inner {ε δ α : Type} {outcome : Except ε α} {change : ε → δ} {value : α}
      (success : outcome.mapError change = .ok value) : outcome = .ok value := by
    cases outcome with
    | error failure => cases success
    | ok value => exact congrArg Except.ok (Except.ok.inj success)
  obtain ⟨sources, parsed, made⟩ := bind_eq_ok_iff.mp loaded
  obtain ⟨fromLibraries, inLibraries, parsed⟩ := bind_eq_ok_iff.mp (inner parsed)
  obtain ⟨fromMain, inMain, parsed⟩ := bind_eq_ok_iff.mp parsed
  cases parsed
  intro declared listed
  rw [Registry.units_of_ofUnits (inner made)] at listed
  obtain ⟨source, member, mine⟩ := (Registry.mem_of_mem_declareAll listed).resolve_left
    List.not_mem_nil
  rcases List.mem_append.mp member with library | main
  · exact forall_of_parseSources good each inLibraries source library _ mine
  · exact forall_of_parseSources good each inMain source main _ mine

end Loading

section Loaded

variable {main : String} {libraries : List String} {registry : Registry}
  (loaded : loadTexts main libraries = .ok registry)

include loaded

theorem wellNamed_of_loadTexts : WellNamed registry :=
  forall_of_loadTexts _ (fun _ _ parsed _ listed => Design.isWordName_of_parse parsed listed) loaded

theorem checked_of_loadTexts {declared : Declared Design.Entity}
    (listed : declared ∈ registry.entities) : declared.unit.Checked := by
  have all := forall_of_loadTexts (fun unit => ∀ entity, unit = .entity entity → entity.Checked)
    (fun _ _ parsed _ listed _ same => Design.checked_of_parse parsed (same ▸ listed)) loaded
  obtain ⟨unit, member, shown⟩ := List.mem_filterMap.mp listed
  obtain ⟨entity, found, rfl⟩ := Option.map_eq_some_iff.mp shown
  refine all unit member entity ?_
  cases same : unit.unit with
  | entity other =>
    rw [same] at found
    rw [Option.some.inj found]
  | _ =>
    rw [same] at found
    cases found

end Loaded

/-- An entity whose own properties pass the checks: by themselves, or because it was loaded. -/
def Registry.Vets (registry : Registry) (declared : Declared Design.Entity) : Prop :=
  declared.unit.Checked ∨
    ∃ main libraries, loadTexts main libraries = .ok registry ∧ declared ∈ registry.entities

theorem Registry.Vets.checked {registry : Registry} {declared : Declared Design.Entity}
    (vetted : registry.Vets declared) : declared.unit.Checked := by
  rcases vetted with checked | ⟨main, libraries, loaded, listed⟩
  · exact checked
  · exact checked_of_loadTexts loaded listed

end Blueprint
