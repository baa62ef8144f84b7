import Blueprint.Proofs.Design.Sections

namespace Blueprint.Design

/-- How units of a kind are written. -/
structure BlockForm where
  State : Type
  start : String
  head : Nat → Reader State
  entries : List (Reader.Entry State)
  tail : State → Reader State
  wrap : State → Unit
  /-- A unit without the offsets of its parts. -/
  erase : State → State

open Reader Lexeme

namespace BlockForm

def parts (form : BlockForm) : List (Section form.State) := form.entries.map Entry.toSection

def reader (form : BlockForm) : Reader Unit :=
  form.wrap <$> block form.start form.head form.entries form.tail

/-- A unit up to its sections. -/
def heading (form : BlockForm) : Reader form.State := do
  let offset ← position
  word form.start
  form.head offset

/-- A kind of units that is written with a name and its sections. -/
def named {σ : Type} (start : String) (make : Nat → String → σ) (entries : List (Entry σ))
    (wrap : σ → Unit) (erase : σ → σ) : BlockForm where
  State := σ
  start
  head := fun offset => do return make offset (← name)
  entries
  tail := done
  wrap
  erase

def project : BlockForm :=
  named "Project" (fun offset name => { offset, name }) projectSections .project Project.unplaced

def dataSource : BlockForm :=
  named "DataSource" (fun offset name => { offset, name }) dataSourceSections .dataSource
    DataSource.unplaced

def entity : BlockForm :=
  named "Entity" (fun offset name => { offset, name }) entitySections .entity Entity.unplaced

def mixin : BlockForm :=
  named "Mixin" (fun offset name => { offset, name }) mixinSections .mixin Mixin.unplaced

def behavior : BlockForm where
  State := Behavior
  start := "Behavior"
  head := fun offset => do
    let name ← name
    word "on"
    return { offset, name, owner := ← Reader.name }
  entries := behaviorSections
  tail := fun unit => do return { unit with function := ← optional function }
  wrap := .behavior
  erase := Behavior.unplaced

def page : BlockForm :=
  named "Page" (fun offset name => { offset, name }) pageSections .page Page.unplaced

def component : BlockForm :=
  named "Component" (fun offset name => { offset, name }) componentSections .component
    Component.unplaced

def selectorInterface : BlockForm where
  State := SelectorInterface
  start := "Interface"
  head := fun offset => do
    sign "<"
    let kind ← interfaceKind
    sign ">"
    return { offset, kind, name := ← name }
  entries := selectorInterfaceSections
  tail := done
  wrap := .selectorInterface
  erase := SelectorInterface.unplaced

/-- The forms of all kinds, in the order in which they are tried. -/
def all : List BlockForm :=
  [project, dataSource, entity, mixin, behavior, page, component, selectorInterface]

theorem unit_eq : Reader.unit = firstOf (all.map reader) := rfl

section Heads

variable {σ : Type} {context : Context}

theorem steady_heading {start : String} {first : Char} (solid : IsSolid first start)
    {head : Nat → Reader σ} {erase : σ → σ} (starts : Char → Prop)
    (steady : ∀ offset place,
      Steady context starts False (fun _ => True) erase (head offset) (head place)) :
    Steady context (· = first) False (fun _ => True) erase
      (position >>= fun offset => word start >>= fun _ => head offset)
      (position >>= fun offset => word start >>= fun _ => head offset) :=
  steady_placed fun offset place => steady_then (steady_word solid) fun _ _ _ => steady offset place

private theorem steady_interfaceKind :
    Steady context (fun _ => True) False (fun _ => True) id interfaceKind interfaceKind := by
  refine steady_words ?_
  simp only [InterfaceKind.all, List.forall_mem_cons, List.not_mem_nil, false_implies, implies_true,
    and_true]
  exact ⟨⟨'E', by decide⟩, ⟨'D', by decide⟩, ⟨'P', by decide⟩⟩

end Heads

section Tails

variable {σ α : Type} {erase : σ → σ}

/-- The end of a unit: what stands behind the sections, and the last word. -/
def ended (tail : σ → Reader σ) (unit : σ) : Reader σ := do
  let unit ← tail unit
  word "end"
  return unit

/-- The end of a unit does not start as a section does; neither layout in front of it nor the offsets
in the unit matter. -/
structure IsTail (erase : σ → σ) (tail : σ → Reader σ) : Prop where
  starts : ∀ {state cursor unit behind}, (ended tail state cursor).result = some (unit, behind) →
    HeadIn StartsEnd cursor.rest
  reads : ∀ {state other cursor place unit behind}, erase state = erase other →
    cursor.skip = place.skip → (ended tail state cursor).result = some (unit, behind) →
    ∃ again, (ended tail other place).result = some (again, behind) ∧ erase unit = erase again

/-- The last word with a value in front of it. -/
def closed {β : Type} (reader : Reader β) : Reader β := do
  let value ← reader
  word "end"
  return value

private theorem solid_end : IsSolid 'e' "end" := by decide

private theorem skipsFirst_closed_done (value : σ) : SkipsFirst (closed (done value)) :=
  (skipsFirst_token _).bind _

private theorem headIn_closed_done (value : σ) {found : σ} {cursor behind : Cursor}
    (read : (closed (done value) cursor).result = some (found, behind)) :
    HeadIn StartsEnd cursor.rest := by
  have last : Steady .void (· = 'e') False (fun _ => True) id (closed (done value))
      (closed (done value)) :=
    steady_map (steady_word solid_end) fun _ _ _ => rfl
  exact (last.moves read).head.imp (by rintro _ rfl; decide)

theorem isTail_of_finish {β : Type} (reader : Reader β) (finish : β → σ → σ)
    (skips : SkipsFirst (closed reader))
    (starts : ∀ {cursor value behind}, (closed reader cursor).result = some (value, behind) →
      HeadIn StartsEnd cursor.rest)
    (respects : ∀ value state other, erase state = erase other →
      erase (finish value state) = erase (finish value other)) :
    IsTail erase fun unit => reader >>= fun value => pure (finish value unit) := by
  have result (state : σ) (cursor : Cursor) :
      (ended (fun unit => reader >>= fun value => pure (finish value unit)) state cursor).result =
        (closed reader cursor).result.map fun found => (finish found.1 state, found.2) := by
    rw [ended, closed, result_bind, result_bind, result_bind, Option.bind_assoc, Option.map_bind]
    congr 1
    funext found
    rw [Function.comp_apply, result_bind]
    change ((Reader.word "end" >>= fun _ => pure (finish found.1 state)) found.2).result = _
    rw [result_bind]
    cases (Reader.word "end" found.2).result <;> rfl
  refine ⟨?_, ?_⟩
  · intro state cursor unit behind read
    rw [result] at read
    obtain ⟨⟨value, last⟩, known, _⟩ := Option.map_eq_some_iff.mp read
    exact starts known
  · intro state other cursor place unit behind same skipped read
    rw [result] at read
    obtain ⟨⟨value, last⟩, known, alike⟩ := Option.map_eq_some_iff.mp read
    obtain ⟨rfl, rfl⟩ := Prod.mk.inj alike
    refine ⟨finish value other, ?_, respects value state other same⟩
    rw [result, ← skips cursor place skipped, known]
    rfl

private theorem isTail_done : IsTail erase done :=
  isTail_of_finish (done ()) (fun _ state => state) (skipsFirst_closed_done ())
    (headIn_closed_done ()) fun _ _ _ => id

private theorem solid_async : IsSolid 'a' "async" := by decide

private theorem solid_function : IsSolid 'f' "function" := by decide

private theorem skipsFirst_function : SkipsFirst function :=
  (skipsFirst_token _).flag fun _ => (skipsFirst_token _).bind _

private theorem headIn_function {cursor behind : Cursor} {value : Function}
    (read : (function cursor).result = some (value, behind)) : HeadIn StartsEnd cursor.rest := by
  have async : Steady .void (· = 'a') True Occupied id (flag (word "async")) (flag (word "async")) :=
    steady_flag (steady_word solid_async) (refuses_local (isLocal_word solid_async))
  have keyword : Steady .void (· = 'f') False (fun _ => True) id (word "function")
      (word "function") := steady_word solid_function
  rw [function, result_bind] at read
  obtain ⟨⟨isAsync, middle⟩, first, rest⟩ := Option.bind_eq_some_iff.mp read
  rw [result_bind] at rest
  obtain ⟨⟨_, later⟩, second, _⟩ := Option.bind_eq_some_iff.mp rest
  refine (((async.moves first).trans (keyword.moves second)).imp (fun _ => id) And.right).head.imp ?_
  rintro c (rfl | ⟨_, rfl⟩) <;> decide

theorem isTail_function : IsTail Behavior.unplaced
    fun unit => do return { unit with function := ← optional function } := by
  refine isTail_of_finish (optional function) 
    (fun value (unit : Behavior) => { unit with function := value })
    (skipsFirst_function.optional fun _ => (skipsFirst_token _).bind _) ?_ ?_
  · intro cursor value behind read
    rw [closed, result_bind, result_optional] at read
    cases found : (function cursor).result with
    | none =>
      rw [found] at read
      exact headIn_closed_done none read
    | some found => exact headIn_function ‹_›
  · exact fun value _ _ same =>
      congrArg (fun unit : Behavior => { unit with function := value }) same

end Tails

section Entries

private theorem fills_settings (keyword : String) : Fills keyword id (atLeastOne setting) :=
  fills_unplaced_items fun _ => steady_setting

private theorem fills_dependencies (keyword : String) : Fills keyword id (atLeastOne dependency) :=
  fills_unplaced_items fun _ => steady_dependency

private theorem fills_imports (keyword : String) : Fills keyword id (atLeastOne importSpec) :=
  fills_unplaced_items fun _ => steady_importSpec

private theorem fills_properties (keyword : String) :
    Fills keyword (List.map Property.unplaced) (atLeastOne property) :=
  fills_items fun _ plain _ => steady_property plain

private theorem fills_methods : Fills "methods:" (List.map Method.unplaced) (atLeastOne method) :=
  fills_items fun _ plain guarded => steady_method plain (guarded rfl)


theorem keywords_all : ∀ form ∈ all, (form.entries.map Entry.keyword).Pairwise Apart ∧
    ∀ keyword ∈ form.entries.map Entry.keyword, IsKeyword keyword := by
  -- The letters are written out first: a decision decodes every literal that it meets.
  have letters : ∀ keywords ∈ all.map fun form => form.entries.map fun entry => entry.keyword.toList,
      keywords.Pairwise (fun one two => ¬ one <+: two ∧ ¬ two <+: one) ∧
        ∀ keyword ∈ keywords, (keyword.head?.any fun c => decide (StartsPart c)) = true ∧
          ∀ c ∈ keyword, isGap c = false := by
    simp only [all, project, dataSource, entity, mixin, behavior, page, component, selectorInterface,
      named, projectSections, dataSourceSections, entitySections, mixinSections, behaviorSections,
      pageSections, componentSections, selectorInterfaceSections, entry, List.map_cons, List.map_nil]
    simp (disch := rfl) only [Text.toList_of_eq]
    decide
  intro form listed
  obtain ⟨apart, keywords⟩ := List.forall_mem_map.mp letters form listed
  rw [List.pairwise_map] at apart
  refine ⟨List.pairwise_map.mpr apart, List.forall_mem_map.mpr fun entry member => ?_⟩
  obtain ⟨starts, solid⟩ := List.forall_mem_map.mp keywords entry member
  exact ⟨starts, solid⟩

theorem commutes_all : ∀ form ∈ all, form.entries.Pairwise Entry.Commutes := by
  simp only [all, List.forall_mem_cons, List.not_mem_nil, false_implies, implies_true, and_true]
  refine ⟨?_, ?_, ?_, ?_, ?_, ?_, ?_, ?_⟩
  all_goals
    simp only [project, dataSource, entity, mixin, behavior, page, component, selectorInterface, named,
      projectSections, dataSourceSections, entitySections, mixinSections, behaviorSections,
      pageSections, componentSections, selectorInterfaceSections, List.pairwise_cons,
      List.forall_mem_cons, List.not_mem_nil, false_implies, implies_true, and_true,
      List.Pairwise.nil]
    repeat' apply And.intro
    all_goals exact fun _ _ _ => rfl

/-- The offsets in a unit are in its properties and methods. -/
theorem fits_all : ∀ form ∈ all, ∀ entry ∈ form.entries, entry.Fits form.erase := by
  simp only [all, List.forall_mem_cons, List.not_mem_nil, false_implies, implies_true, and_true]
  change (∀ entry ∈ projectSections, entry.Fits Project.unplaced) ∧
    (∀ entry ∈ dataSourceSections, entry.Fits DataSource.unplaced) ∧
    (∀ entry ∈ entitySections, entry.Fits Entity.unplaced) ∧
    (∀ entry ∈ mixinSections, entry.Fits Mixin.unplaced) ∧
    (∀ entry ∈ behaviorSections, entry.Fits Behavior.unplaced) ∧
    (∀ entry ∈ pageSections, entry.Fits Page.unplaced) ∧
    (∀ entry ∈ componentSections, entry.Fits Component.unplaced) ∧
    ∀ entry ∈ selectorInterfaceSections, entry.Fits SelectorInterface.unplaced
  simp only [projectSections, dataSourceSections, entitySections, mixinSections, behaviorSections,
    pageSections, componentSections, selectorInterfaceSections, entry, behaviorType,
    List.forall_mem_cons, List.not_mem_nil, false_implies, implies_true, and_true]
  repeat' apply And.intro
  all_goals with_reducible first
    | refine (fills_quoted _).fits ?_
    | refine (fills_name _).fits ?_
    | refine (fills_names _).fits ?_
    | refine (fills_boolean _).fits ?_
    | refine (fills_rawBlock _).fits ?_
    | refine (fills_settings _).fits ?_
    | refine (fills_dependencies _).fits ?_
    | refine (fills_imports _).fits ?_
    | refine (fills_properties _).fits ?_
    | refine fills_methods.fits ?_
    | refine (fills_key _).fits ?_
    | refine (fills_httpMethod _).fits ?_
  all_goals exact fun _ _ => rfl

end Entries

/-- What the order of sections rests on. -/
structure IsForm (form : BlockForm) : Prop where
  heading : ∀ context, ∃ starts,
    Steady context starts False (fun _ => True) form.erase form.heading form.heading
  isPart : ∀ part ∈ form.parts, ∃ keyword, IsPart form.erase keyword part.read
  independent : form.parts.Pairwise fun one two => Independent one.read two.read
  isTail : IsTail form.erase form.tail
  wraps : ∀ state, (form.wrap state).unplaced = form.wrap (form.erase state)

theorem isForm_of_mem {form : BlockForm} (listed : form ∈ all)
    (heading : ∀ context, ∃ starts,
      Steady context starts False (fun _ => True) form.erase form.heading form.heading)
    (isTail : IsTail form.erase form.tail)
    (wraps : ∀ state, (form.wrap state).unplaced = form.wrap (form.erase state)) : form.IsForm where
  heading
  isPart := List.forall_mem_map.mpr fun entry member =>
    ⟨_, (fits_all form listed entry member).isPart
      ((keywords_all form listed).2 _ (List.mem_map_of_mem member))⟩
  independent := pairwise_independent (keywords_all form listed).1 (commutes_all form listed)
  isTail
  wraps

theorem isForm_named {σ : Type} {start : String} {make : Nat → String → σ}
    {entries : List (Entry σ)} {wrap : σ → Unit} {erase : σ → σ}
    (listed : named start make entries wrap erase ∈ all) (solid : ∃ first, IsSolid first start)
    (made : ∀ offset place name, erase (make offset name) = erase (make place name))
    (wraps : ∀ state, (wrap state).unplaced = wrap (erase state)) :
    IsForm (named start make entries wrap erase) := by
  obtain ⟨first, solid⟩ := solid
  refine isForm_of_mem listed
    (fun context => ⟨_, steady_heading solid StartsName fun offset place => ?_⟩) isTail_done wraps
  refine steady_map steady_name fun name found same => ?_
  rw [show name = found from same]
  exact made offset place found

theorem isForm_behavior (listed : behavior ∈ all) : IsForm behavior := by
  have solid : IsSolid 'B' "Behavior" := by decide
  have on : IsSolid 'o' "on" := by decide
  refine isForm_of_mem listed
    (fun context => ⟨_, steady_heading solid StartsName fun offset place => ?_⟩) isTail_function
    fun _ => rfl
  apply steady_then steady_name
  rintro name _ rfl
  apply steady_then (steady_word on)
  intro _ _ _
  refine steady_map steady_name fun owner found same => ?_
  rw [show owner = found from same]
  rfl

theorem isForm_selectorInterface (listed : selectorInterface ∈ all) : IsForm selectorInterface := by
  have solid : IsSolid 'I' "Interface" := by decide
  have opens : IsSolid '<' "<" := by decide
  have closes : IsSolid '>' ">" := by decide
  refine isForm_of_mem listed
    (fun context => ⟨_, steady_heading solid (· = '<') fun offset place => ?_⟩) isTail_done fun _ => rfl
  apply steady_then (steady_sign opens)
  intro _ _ _
  apply steady_then steady_interfaceKind
  rintro kind _ rfl
  apply steady_then (steady_sign closes)
  intro _ _ _
  refine steady_map steady_name fun name found same => ?_
  rw [show name = found from same]
  rfl

theorem isForm_all : ∀ form ∈ all, IsForm form := by
  have listed : ∀ form ∈ all, form ∈ all := fun _ => id
  simp only [all, List.forall_mem_cons, List.not_mem_nil, false_implies, implies_true, and_true]
    at listed ⊢
  obtain ⟨project, dataSource, entity, mixin, behavior, page, component, selectorInterface⟩ := listed
  exact ⟨isForm_named project ⟨'P', by decide⟩ (fun _ _ _ => rfl) fun _ => rfl,
    isForm_named dataSource ⟨'D', by decide⟩ (fun _ _ _ => rfl) fun _ => rfl,
    isForm_named entity ⟨'E', by decide⟩ (fun _ _ _ => rfl) fun _ => rfl,
    isForm_named mixin ⟨'M', by decide⟩ (fun _ _ _ => rfl) fun _ => rfl,
    isForm_behavior behavior,
    isForm_named page ⟨'P', by decide⟩ (fun _ _ _ => rfl) fun _ => rfl,
    isForm_named component ⟨'C', by decide⟩ (fun _ _ _ => rfl) fun _ => rfl,
    isForm_selectorInterface selectorInterface⟩

/-- No two kinds start with the same word. -/
theorem apart_all : all.Pairwise fun one two => Apart one.start two.start := by
  have letters : (all.map fun form => form.start.toList).Pairwise fun one two =>
      ¬ one <+: two ∧ ¬ two <+: one := by
    simp only [all, project, dataSource, entity, mixin, behavior, page, component, selectorInterface,
      named, List.map_cons, List.map_nil]
    simp (disch := rfl) only [Text.toList_of_eq]
    decide
  rwa [List.pairwise_map] at letters

end BlockForm

end Blueprint.Design
