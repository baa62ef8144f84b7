import Blueprint.Proofs.ServerCode.ImportEdits

/-!
Calls that ask a module for imports, one after another. None of them loses what is bound or adds what
nobody asked for. Each request is bound once exactly if every edit of the way finds a request present
just when it is bound; so it is for imports under their own names. A call that was made is a no-op
ever after exactly if it binds nothing to another name.
-/

namespace Blueprint.ServerCode

open Blueprint.Text Blueprint.ServerCode.Module

/-- A blank name of a module under no other name. -/
def Binding.isBlank : Binding → Bool
  | ofName _ _ imported => imported == .plain ""
  | ofModule _ => false

/-- A call that asks a module for imports. -/
inductive ImportCall where
  | names (source : String) (wanted : List String)
  | whole (source : String)
  | block (text : String)

namespace ImportCall

/-- The module after a call that succeeds. -/
def run (module : Module) : ImportCall → Except Failure Module
  | names source wanted => .ok (module.mergeImport source wanted)
  | whole source => .ok (module.addImport source)
  | block text => (module.addImportSource text).result

/-- The statements of a block of imports. -/
def statements (text : String) : List Statement :=
  if isBlankString text then [] else (readBlock text).toOption.getD []

/-- What a call asks for; a blank name is nothing to bind. -/
def requests (call : ImportCall) : List Binding :=
  let bindings : List Binding := match call with
    | names source wanted => wanted.map fun name => .ofName source 0 (.plain name)
    | whole source => [.ofModule { name := source }]
    | block text => (statements text).flatMap Statement.bindings
  bindings.filter (!·.isBlank)

end ImportCall

/-- The edits for an import statement. -/
def Statement.importEdits : Statement → List ImportEdit
  | importFrom source names 0 =>
    .names (source.getD "") ((names.filter (·.asName.isNone)).map Alias.name) ::
      (names.filter (·.asName.isSome)).map fun renamed => .alone (.importFrom source [renamed] 0)
  | importModules names => names.map fun imported =>
    if imported.asName.isNone then .whole imported.name else .alone (.importModules [imported])
  | _ => []

/-- A statement that may stand in a block of imports. -/
def Statement.asksImports : Statement → Bool
  | importFrom _ _ 0 | importModules _ => true
  | _ => false

/-- A call does not fail: what it gives is blank, or it is read and holds imports only. -/
def ImportCall.Readable : ImportCall → Prop
  | block text => isBlankString text = true ∨ ∃ statements, readBlock text = .ok statements ∧
      ∀ statement ∈ statements, statement.asksImports = true
  | _ => True

/-- The edits of a call. -/
def ImportCall.edits : ImportCall → List ImportEdit
  | names source wanted => [.names source wanted]
  | whole source => [.whole source]
  | block text => (statements text).flatMap Statement.importEdits

/-- The module after some edits. -/
def Module.applyAll (module : Module) (edits : List ImportEdit) : Module :=
  edits.foldl ImportEdit.apply module

section Calls

variable {module changed other : Module} {call : ImportCall} {statement : Statement}

/-- A statement may be asked for exactly if it is an import, and then its edits are made. -/
theorem addImportStatement_iff : module.addImportStatement statement = .ok changed ↔
    statement.asksImports = true ∧ changed = module.applyAll statement.importEdits := by
  have stands (imported : Alias) (module : Module) :
      (if imported.asName.isNone = true then module.addImport imported.name
        else module.insertImport (.importModules [imported])) =
      ImportEdit.apply module (if imported.asName.isNone = true then .whole imported.name
        else .alone (.importModules [imported])) := by
    split <;> rfl
  cases statement with
  | importFrom source names level =>
    cases level with
    | zero =>
      simp only [addImportStatement, Statement.asksImports, Statement.importEdits, applyAll,
        Except.ok.injEq, true_and, List.foldl_cons, List.foldl_map]
      exact eq_comm
    | succ level => simp [addImportStatement, Statement.asksImports]
  | importModules names =>
    simp only [addImportStatement, Statement.asksImports, Statement.importEdits, applyAll,
      Except.ok.injEq, true_and, List.foldl_map, stands]
    exact eq_comm
  | _ => simp [addImportStatement, Statement.asksImports]

theorem applyAll_append (edits more : List ImportEdit) :
    module.applyAll (edits ++ more) = (module.applyAll edits).applyAll more :=
  List.foldl_append

theorem addImportStatements_iff {statements : List Statement} :
    (module.addImportStatements statements).result = .ok changed ↔
      (∀ statement ∈ statements, statement.asksImports = true) ∧
        changed = module.applyAll (statements.flatMap Statement.importEdits) := by
  induction statements generalizing module with
  | nil =>
    simp only [addImportStatements, Edited.result, Except.ok.injEq, List.flatMap_nil, applyAll,
      List.foldl_nil, List.not_mem_nil, false_implies, implies_true, true_and]
    exact eq_comm
  | cons statement statements ih =>
    rw [List.flatMap_cons, applyAll_append, List.forall_mem_cons]
    unfold addImportStatements
    cases step : module.addImportStatement statement with
    | ok next =>
      obtain ⟨asks, rfl⟩ := addImportStatement_iff.mp step
      simp only [ih, asks, true_and]
    | error failure =>
      have refused : statement.asksImports ≠ true := fun asks => by
        have done : module.addImportStatement statement = .ok _ :=
          addImportStatement_iff.mpr ⟨asks, rfl⟩
        rw [step] at done
        cases done
      simp [Edited.result, refused]

/-- A call succeeds on every module or on none, and then its edits are made. -/
theorem ImportCall.run_iff :
    call.run module = .ok changed ↔ call.Readable ∧ changed = module.applyAll call.edits := by
  cases call with
  | names source wanted | whole source =>
    simp only [run, Readable, edits, applyAll, Except.ok.injEq, true_and, List.foldl_cons,
      List.foldl_nil]
    exact eq_comm
  | block text =>
    simp only [run, Readable, edits, statements, addImportSource]
    split
    · rename_i blank
      simp only [Edited.result, Except.ok.injEq, blank, true_or, true_and, List.flatMap_nil]
      exact eq_comm
    · rename_i written
      cases read : readBlock text with
      | ok statements => simp [addImportStatements_iff, written, Except.toOption]
      | error failure => simp [Edited.result, written]

theorem plain_eq_of_isNone {imported : Alias} (unnamed : imported.asName.isNone = true) :
    Alias.plain imported.name = imported := by
  cases imported
  cases Option.isNone_iff_eq_none.mp unnamed
  rfl

theorem mem_requests_names {source : String} {wanted : List String} {binding : Binding} :
    binding ∈ (ImportEdit.names source wanted).requests ↔
      ∃ name ∈ wanted, name ≠ "" ∧ .ofName source 0 (.plain name) = binding := by
  simp only [ImportEdit.requests, List.mem_map, distinct, List.mem_eraseDups, written,
    List.mem_filter]
  simp [and_assoc]

private theorem requests_importModule (imported : Alias) :
    (if imported.asName.isNone then ImportEdit.whole imported.name
      else .alone (.importModules [imported])).requests = [.ofModule imported] := by
  split
  · rename_i unnamed
    rw [← plain_eq_of_isNone unnamed]
    rfl
  · rfl

/-- A statement asks for what its edits ask for, blank names apart. -/
theorem mem_importEdits_requests (asks : statement.asksImports = true) {binding : Binding} :
    (∃ edit ∈ statement.importEdits, binding ∈ edit.requests) ↔
      binding ∈ statement.bindings ∧ binding.isBlank = false := by
  cases statement with
  | importFrom source names level =>
    cases level with
    | zero =>
      simp only [Statement.importEdits, List.exists_mem_cons_iff, Statement.bindings, List.mem_map,
        mem_requests_names]
      constructor
      · rintro (⟨_, ⟨imported, chosen, rfl⟩, written, rfl⟩ | ⟨_, ⟨renamed, chosen, rfl⟩, asked⟩)
        · obtain ⟨listed, unnamed⟩ := List.mem_filter.mp chosen
          rw [plain_eq_of_isNone unnamed]
          exact ⟨⟨imported, listed, rfl⟩, beq_false_of_ne fun blank => written (by rw [blank]; rfl)⟩
        · obtain ⟨listed, other⟩ := List.mem_filter.mp chosen
          rw [List.mem_singleton.mp asked]
          refine ⟨⟨renamed, listed, rfl⟩, beq_false_of_ne ?_⟩
          rintro rfl
          cases other
      · rintro ⟨⟨imported, listed, rfl⟩, written⟩
        cases unnamed : imported.asName.isNone with
        | true =>
          have plain := plain_eq_of_isNone unnamed
          refine Or.inl ⟨imported.name, ⟨imported, List.mem_filter.mpr ⟨listed, unnamed⟩, rfl⟩, ?_,
            by rw [plain]⟩
          intro blank
          rw [← plain, blank] at written
          cases written
        | false =>
          have renamed : imported.asName.isSome = true := by simpa using unnamed
          exact Or.inr ⟨_, ⟨imported, List.mem_filter.mpr ⟨listed, renamed⟩, rfl⟩,
            List.mem_singleton_self _⟩
    | succ level => cases asks
  | importModules names =>
    simp only [Statement.importEdits, Statement.bindings, List.mem_map]
    constructor
    · rintro ⟨_, ⟨imported, listed, rfl⟩, asked⟩
      rw [requests_importModule, List.mem_singleton] at asked
      exact ⟨⟨imported, listed, asked.symm⟩, by rw [asked]; rfl⟩
    · rintro ⟨⟨imported, listed, rfl⟩, _⟩
      refine ⟨_, ⟨imported, listed, rfl⟩, ?_⟩
      rw [requests_importModule]
      exact List.mem_singleton_self _
  | _ => cases asks

theorem proper_importEdits {edit : ImportEdit} (member : edit ∈ statement.importEdits) :
    edit.Proper := by
  unfold Statement.importEdits at member
  split at member
  · rename_i source names
    rcases List.mem_cons.mp member with rfl | member
    · trivial
    · obtain ⟨renamed, listed, rfl⟩ := List.mem_map.mp member
      exact ⟨rfl, _, rfl, (List.mem_filter.mp listed).2⟩
  · rename_i names
    obtain ⟨imported, _, rfl⟩ := List.mem_map.mp member
    split
    · trivial
    · rename_i renamed
      exact ⟨rfl, _, rfl, by simpa [Binding.renamed, Option.isSome_iff_ne_none] using renamed⟩
  · cases member

theorem ImportCall.proper_edits {edit : ImportEdit} (member : edit ∈ call.edits) :
    edit.Proper := by
  cases call with
  | names source wanted | whole source =>
    obtain rfl := List.mem_singleton.mp member
    trivial
  | block text =>
    obtain ⟨statement, _, own⟩ := List.mem_flatMap.mp member
    exact proper_importEdits own

/-- A call that succeeds asks for what its edits ask for. -/
theorem ImportCall.mem_requests_iff (readable : call.Readable) {binding : Binding} :
    binding ∈ call.requests ↔ ∃ edit ∈ call.edits, binding ∈ edit.requests := by
  cases call with
  | names source wanted =>
    simp only [requests, edits, List.mem_singleton, exists_eq_left, mem_requests_names,
      List.mem_filter, List.mem_map]
    constructor
    · rintro ⟨⟨name, listed, rfl⟩, written⟩
      refine ⟨name, listed, ?_, rfl⟩
      rintro rfl
      cases written
    · rintro ⟨name, listed, written, rfl⟩
      have blank : (Binding.ofName source 0 (.plain name)).isBlank = false :=
        beq_false_of_ne fun same => written (congrArg Alias.name same)
      exact ⟨⟨name, listed, rfl⟩, by rw [blank]; rfl⟩
  | whole source => simp [requests, edits, ImportEdit.requests, Binding.isBlank]
  | block text =>
    have asks : ∀ statement ∈ statements text, statement.asksImports = true := by
      intro statement listed
      unfold statements at listed
      split at listed
      · cases listed
      · rename_i written
        obtain ⟨parsed, read, asks⟩ := readable.resolve_left written
        rw [read] at listed
        exact asks statement listed
    simp only [requests, edits, List.mem_filter, List.mem_flatMap]
    constructor
    · rintro ⟨⟨statement, listed, bound⟩, written⟩
      obtain ⟨edit, own, asked⟩ := (mem_importEdits_requests (asks statement listed)).mpr
        ⟨bound, by simpa using written⟩
      exact ⟨edit, ⟨statement, listed, own⟩, asked⟩
    · rintro ⟨edit, ⟨statement, listed, own⟩, asked⟩
      obtain ⟨bound, written⟩ := (mem_importEdits_requests (asks statement listed)).mp
        ⟨edit, own, asked⟩
      exact ⟨⟨statement, listed, bound⟩, by simpa using written⟩

end Calls

section Runs

variable {module : Module} {edits : List ImportEdit} {binding : Binding}

theorem count_le_applyAll (proper : ∀ edit ∈ edits, edit.Proper) (binding : Binding) :
    module.bindings.count binding ≤ (module.applyAll edits).bindings.count binding := by
  induction edits generalizing module with
  | nil => exact Nat.le_refl _
  | cons edit edits ih =>
    have here : (edit.apply module).bindings.count binding = _ :=
      (bindings_apply (proper edit List.mem_cons_self)).count_eq binding
    have later : (edit.apply module).bindings.count binding ≤
        ((edit.apply module).applyAll edits).bindings.count binding :=
      ih fun other listed => proper other (List.mem_cons_of_mem edit listed)
    rw [List.count_append] at here
    exact Nat.le_trans (by omega) later

theorem mem_applyAll (proper : ∀ edit ∈ edits, edit.Proper) (bound : binding ∈ module.bindings) :
    binding ∈ (module.applyAll edits).bindings :=
  List.count_pos_iff.mp
    (Nat.lt_of_lt_of_le (List.count_pos_iff.mpr bound) (count_le_applyAll proper binding))

theorem asked_of_mem_applyAll (proper : ∀ edit ∈ edits, edit.Proper)
    (bound : binding ∈ (module.applyAll edits).bindings) :
    binding ∈ module.bindings ∨ ∃ edit ∈ edits, binding ∈ edit.requests := by
  induction edits generalizing module with
  | nil => exact Or.inl bound
  | cons edit edits ih =>
    rcases ih (fun other listed => proper other (List.mem_cons_of_mem edit listed)) bound with
      earlier | ⟨other, listed, asked⟩
    · rcases List.mem_append.mp ((bindings_apply (proper edit List.mem_cons_self)).mem_iff.mp
        earlier) with old | new
      · exact Or.inl old
      · exact Or.inr ⟨edit, List.mem_cons_self, (List.mem_filter.mp new).1⟩
    · exact Or.inr ⟨other, List.mem_cons_of_mem edit listed, asked⟩

private theorem shows_applyAll (edits : List ImportEdit) (shown : module.shows binding = true) :
    (module.applyAll edits).shows binding = true := by
  induction edits generalizing module with
  | nil => exact shown
  | cons edit edits ih => exact ih (shows_apply edit shown)

private theorem applyAll_eq_self (proper : ∀ edit ∈ edits, edit.Proper)
    (present : ∀ edit ∈ edits, ∀ binding ∈ edit.requests, module.shows binding = true) :
    module.applyAll edits = module := by
  induction edits with
  | nil => rfl
  | cons edit edits ih =>
    have still : edit.apply module = module :=
      apply_eq_self (proper edit List.mem_cons_self) (present edit List.mem_cons_self)
    change (edit.apply module).applyAll edits = module
    rw [still]
    exact ih (fun other listed => proper other (List.mem_cons_of_mem edit listed))
      (fun other listed => present other (List.mem_cons_of_mem edit listed))

theorem mem_of_shows (proper : ∀ edit ∈ edits, edit.Proper) (shown : module.shows binding = true)
    (bound : binding ∈ (module.applyAll edits).bindings) : binding ∈ module.bindings := by
  induction edits generalizing module with
  | nil => exact bound
  | cons edit edits ih =>
    have earlier := ih (fun other listed => proper other (List.mem_cons_of_mem edit listed))
      (shows_apply edit shown) bound
    rcases List.mem_append.mp ((bindings_apply (proper edit List.mem_cons_self)).mem_iff.mp
      earlier) with old | new
    · exact old
    · have hidden := (List.mem_filter.mp new).2
      rw [shown] at hidden
      cases hidden

private theorem shows_of_asked (proper : ∀ edit ∈ edits, edit.Proper) {edit : ImportEdit}
    (listed : edit ∈ edits) (asked : binding ∈ edit.requests) (plain : binding.renamed = false) :
    (module.applyAll edits).shows binding = true := by
  obtain ⟨before, after, rfl⟩ := List.append_of_mem listed
  rw [applyAll_append]
  exact shows_applyAll after (shows_requests (proper edit listed) asked plain)

/-- What is bound to another name is bound once more. -/
theorem count_lt_of_renamed (proper : ∀ edit ∈ edits, edit.Proper) {edit : ImportEdit}
    (listed : edit ∈ edits) (asked : binding ∈ edit.requests) (renamed : binding.renamed = true) :
    module.bindings.count binding < (module.applyAll edits).bindings.count binding := by
  obtain ⟨before, after, rfl⟩ := List.append_of_mem listed
  rw [applyAll_append]
  have added : binding ∈ edit.requests.filter
      fun binding => !(module.applyAll before).shows binding := by
    refine List.mem_filter.mpr ⟨asked, ?_⟩
    rw [shows_eq_false_of_renamed renamed]
    rfl
  have here : (edit.apply (module.applyAll before)).bindings.count binding = _ :=
    (bindings_apply (proper edit listed)).count_eq binding
  have earlier : module.bindings.count binding ≤
      (module.applyAll before).bindings.count binding :=
    count_le_applyAll (fun other member => proper other (by simp [member])) binding
  have later : (edit.apply (module.applyAll before)).bindings.count binding ≤
      ((module.applyAll before).applyAll (edit :: after)).bindings.count binding :=
    count_le_applyAll (fun other member => proper other (by simp [member])) binding
  rw [List.count_append] at here
  have positive := List.count_pos_iff.mpr added
  omega

end Runs

section Faithfulness

variable {module : Module} {edit : ImportEdit} {edits : List ImportEdit}

/-- An edit finds a request present just when it is bound. -/
def ImportEdit.Faithful (module : Module) (edit : ImportEdit) : Prop :=
  ∀ binding ∈ edit.requests, module.shows binding = true ↔ binding ∈ module.bindings

/-- Every edit of a run is faithful where it is made. -/
def Module.FaithfulRun : Module → List ImportEdit → Prop
  | _, [] => True
  | module, edit :: rest => edit.Faithful module ∧ FaithfulRun (edit.apply module) rest

private theorem nodup_requests (proper : edit.Proper) : edit.requests.Nodup := by
  cases edit with
  | names source wanted =>
    refine (nodup_distinct _).map fun name other same => ?_
    injection same with _ _ plain
    exact congrArg Alias.name plain
  | whole source => exact List.nodup_singleton _
  | alone statement =>
    obtain ⟨_, binding, only, _⟩ := proper
    rw [ImportEdit.requests, only]
    exact List.nodup_singleton _

theorem nodup_apply_iff (proper : edit.Proper) :
    (edit.apply module).bindings.Nodup ↔ module.bindings.Nodup ∧
      ∀ binding ∈ edit.requests, binding ∈ module.bindings → module.shows binding = true := by
  rw [(bindings_apply proper).nodup_iff, List.nodup_append]
  refine and_congr_right fun _ => ?_
  constructor
  · rintro ⟨_, apart⟩ binding asked bound
    by_contra hidden
    exact apart binding bound binding (List.mem_filter.mpr ⟨asked, by simpa using hidden⟩) rfl
  · intro found
    refine ⟨(nodup_requests proper).filter _, ?_⟩
    rintro binding bound _ added rfl
    obtain ⟨asked, hidden⟩ := List.mem_filter.mp added
    rw [found binding asked bound] at hidden
    cases hidden

/-- A run of edits binds each request and all that was bound once exactly if it starts without
repetitions and every edit is faithful. -/
theorem binds_each_once_iff (proper : ∀ edit ∈ edits, edit.Proper) :
    (module.applyAll edits).bindings.Nodup ∧
        (∀ edit ∈ edits, ∀ binding ∈ edit.requests, binding ∈ (module.applyAll edits).bindings) ↔
      module.bindings.Nodup ∧ module.FaithfulRun edits := by
  induction edits generalizing module with
  | nil => simp [applyAll, FaithfulRun]
  | cons edit edits ih =>
    have own := proper edit List.mem_cons_self
    have rest : ∀ edit ∈ edits, edit.Proper := fun other listed =>
      proper other (List.mem_cons_of_mem edit listed)
    have later : _ ↔ (edit.apply module).bindings.Nodup ∧ FaithfulRun (edit.apply module) edits :=
      ih rest
    change ((edit.apply module).applyAll edits).bindings.Nodup ∧ _ ↔
      _ ∧ edit.Faithful module ∧ FaithfulRun (edit.apply module) edits
    constructor
    · rintro ⟨once, bound⟩
      obtain ⟨onceHere, faithful⟩ := later.mp
        ⟨once, fun other listed => bound other (List.mem_cons_of_mem edit listed)⟩
      obtain ⟨start, found⟩ := (nodup_apply_iff own).mp onceHere
      refine ⟨start, fun binding asked => ⟨fun shown => ?_, found binding asked⟩, faithful⟩
      exact mem_of_shows proper shown (bound edit List.mem_cons_self binding asked)
    · rintro ⟨start, here, faithful⟩
      obtain ⟨once, bound⟩ := later.mpr ⟨(nodup_apply_iff own).mpr
        ⟨start, fun binding asked => (here binding asked).mpr⟩, faithful⟩
      refine ⟨once, fun other listed binding asked => ?_⟩
      rcases List.mem_cons.mp listed with rfl | listed
      · have now : binding ∈ (other.apply module).bindings := by
          refine (bindings_apply own).mem_iff.mpr (List.mem_append.mpr ?_)
          by_cases shown : module.shows binding = true
          · exact Or.inl ((here binding asked).mp shown)
          · exact Or.inr (List.mem_filter.mpr ⟨asked, by simpa using shown⟩)
        exact (mem_applyAll rest now : binding ∈ ((other.apply module).applyAll edits).bindings)
      · exact bound other listed binding asked

/-- All imports of a module are under their own names, and the presence test finds them. -/
structure Module.ImportsPlainly (module : Module) : Prop where
  unrenamed : ∀ binding ∈ module.bindings, binding.renamed = false
  found : ∀ source imported, .ofName source 0 imported ∈ module.bindings →
    module.shows (.ofName source 0 imported) = true

theorem importsPlainly_apply (plain : module.ImportsPlainly) (proper : edit.Proper)
    (unrenamed : ∀ binding ∈ edit.requests, binding.renamed = false) :
    (edit.apply module).ImportsPlainly where
  unrenamed binding bound := by
    rcases List.mem_append.mp ((bindings_apply proper).mem_iff.mp bound) with old | new
    · exact plain.unrenamed binding old
    · exact unrenamed binding (List.mem_filter.mp new).1
  found source imported bound := by
    rcases List.mem_append.mp ((bindings_apply proper).mem_iff.mp bound) with old | new
    · exact shows_apply edit (plain.found source imported old)
    · have asked := (List.mem_filter.mp new).1
      exact shows_requests proper asked (unrenamed _ asked)

/-- In a plain module the presence test is right about own names. -/
theorem faithful_of_importsPlainly (plain : module.ImportsPlainly) (proper : edit.Proper)
    (unrenamed : ∀ binding ∈ edit.requests, binding.renamed = false) : edit.Faithful module := by
  intro binding asked
  cases edit with
  | names source wanted =>
    obtain ⟨name, _, _, rfl⟩ := mem_requests_names.mp asked
    refine ⟨fun shown => ?_, plain.found source (.plain name)⟩
    rcases shows_cases shown with ⟨_, ⟨_, _, _, first, same, found, listed⟩ | ⟨_, same, _⟩⟩
    · cases same
      obtain ⟨names, rfl⟩ := importsFrom_iff.mp (List.find?_some found)
      obtain ⟨imported, member, rfl⟩ := List.mem_map.mp listed
      have bound : .ofName source 0 imported ∈ module.bindings :=
        List.mem_flatMap.mpr ⟨_, List.mem_of_find?_eq_some found, List.mem_map_of_mem member⟩
      have own := plain.unrenamed _ bound
      rwa [plain_eq_of_isNone (Option.isNone_iff_eq_none.mpr (by simpa [Binding.renamed] using own))]
    · cases same
  | whole source =>
    obtain rfl := List.mem_singleton.mp asked
    constructor
    · intro shown
      obtain ⟨statement, listed, whole⟩ := List.any_eq_true.mp shown
      obtain ⟨names, rfl, imported, member, rfl⟩ := importsWhole_iff.mp whole
      have bound : .ofModule imported ∈ module.bindings :=
        List.mem_flatMap.mpr ⟨_, listed, List.mem_map_of_mem member⟩
      have own := plain.unrenamed _ bound
      have same : Alias.plain imported.name = imported :=
        plain_eq_of_isNone (Option.isNone_iff_eq_none.mpr (by simpa [Binding.renamed] using own))
      change Binding.ofModule (.plain imported.name) ∈ module.bindings
      rwa [same]
    · intro bound
      obtain ⟨statement, listed, own⟩ := List.mem_flatMap.mp bound
      refine List.any_eq_true.mpr ⟨statement, listed, importsWhole_iff.mpr ?_⟩
      cases statement with
      | importModules names =>
        obtain ⟨imported, member, same⟩ := List.mem_map.mp own
        cases same
        exact ⟨names, rfl, _, member, rfl⟩
      | importFrom owner names level => simp [Statement.bindings] at own
      | _ => cases own
  | alone statement =>
    obtain ⟨_, other, only, renamed⟩ := proper
    rw [ImportEdit.requests, only] at unrenamed
    rw [unrenamed other (List.mem_singleton_self _)] at renamed
    cases renamed

theorem faithfulRun_of_importsPlainly (plain : module.ImportsPlainly)
    (proper : ∀ edit ∈ edits, edit.Proper)
    (unrenamed : ∀ edit ∈ edits, ∀ binding ∈ edit.requests, binding.renamed = false) :
    module.FaithfulRun edits := by
  induction edits generalizing module with
  | nil => trivial
  | cons edit edits ih =>
    have own := proper edit List.mem_cons_self
    have names := unrenamed edit List.mem_cons_self
    exact ⟨faithful_of_importsPlainly plain own names,
      ih (importsPlainly_apply plain own names)
        (fun other listed => proper other (List.mem_cons_of_mem edit listed))
        (fun other listed => unrenamed other (List.mem_cons_of_mem edit listed))⟩

end Faithfulness

/-- What some calls make of a module, if none fails. -/
def Module.runCalls (module : Module) (calls : List ImportCall) : Except Failure Module :=
  calls.foldlM ImportCall.run module

/-- Calls succeed if each is readable, and then all their edits are made. -/
theorem runCalls_iff {module changed : Module} {calls : List ImportCall} :
    module.runCalls calls = .ok changed ↔ (∀ call ∈ calls, call.Readable) ∧
      changed = module.applyAll (calls.flatMap ImportCall.edits) := by
  unfold runCalls
  induction calls generalizing module with
  | nil =>
    simp only [List.foldlM_nil, List.flatMap_nil, applyAll, List.foldl_nil, List.not_mem_nil,
      false_implies, implies_true, true_and]
    exact ⟨fun done => (Except.ok.inj done).symm, fun same => by rw [same]; rfl⟩
  | cons call calls ih =>
    rw [List.foldlM_cons, bind_eq_ok_iff, List.flatMap_cons, applyAll_append,
      List.forall_mem_cons]
    constructor
    · rintro ⟨next, step, later⟩
      obtain ⟨readable, rfl⟩ := ImportCall.run_iff.mp step
      obtain ⟨others, rfl⟩ := ih.mp later
      exact ⟨⟨readable, others⟩, rfl⟩
    · rintro ⟨⟨readable, others⟩, rfl⟩
      exact ⟨_, ImportCall.run_iff.mpr ⟨readable, rfl⟩, ih.mpr ⟨others, rfl⟩⟩

/-- After some calls a module binds what it bound and what they ask for, each once, and no more. -/
structure Module.BindsExactly (before after : Module) (calls : List ImportCall) : Prop where
  once : after.bindings.Nodup
  mem_iff : ∀ binding, binding ∈ after.bindings ↔
    binding ∈ before.bindings ∨ ∃ call ∈ calls, binding ∈ call.requests

section Calls

variable {module : Module} {calls : List ImportCall}

theorem proper_of_calls : ∀ edit ∈ calls.flatMap ImportCall.edits, edit.Proper := by
  intro edit member
  obtain ⟨call, _, own⟩ := List.mem_flatMap.mp member
  exact ImportCall.proper_edits own

theorem asked_iff (readable : ∀ call ∈ calls, call.Readable) {binding : Binding} :
    (∃ edit ∈ calls.flatMap ImportCall.edits, binding ∈ edit.requests) ↔
      ∃ call ∈ calls, binding ∈ call.requests := by
  constructor
  · rintro ⟨edit, member, own⟩
    obtain ⟨call, listed, made⟩ := List.mem_flatMap.mp member
    exact ⟨call, listed, (call.mem_requests_iff (readable call listed)).mpr ⟨edit, made, own⟩⟩
  · rintro ⟨call, listed, requested⟩
    obtain ⟨edit, made, own⟩ := (call.mem_requests_iff (readable call listed)).mp requested
    exact ⟨edit, List.mem_flatMap.mpr ⟨call, listed, made⟩, own⟩

theorem bindsExactly_iff (readable : ∀ call ∈ calls, call.Readable) :
    module.BindsExactly (module.applyAll (calls.flatMap ImportCall.edits)) calls ↔
      module.bindings.Nodup ∧ module.FaithfulRun (calls.flatMap ImportCall.edits) := by
  rw [← binds_each_once_iff proper_of_calls]
  constructor
  · intro exactly
    refine ⟨exactly.once, fun edit member binding own => ?_⟩
    exact (exactly.mem_iff binding).mpr (Or.inr ((asked_iff readable).mp ⟨edit, member, own⟩))
  · rintro ⟨once, bound⟩
    refine ⟨once, fun binding => ⟨fun now => ?_, ?_⟩⟩
    · exact (asked_of_mem_applyAll proper_of_calls now).imp_right (asked_iff readable).mp
    · rintro (old | new)
      · exact mem_applyAll proper_of_calls old
      · obtain ⟨edit, member, own⟩ := (asked_iff readable).mpr new
        exact bound edit member binding own

/-- Where the presence test finds what a call asks for under own names, the call changes nothing
exactly if it asks for nothing else. -/
theorem ImportCall.run_eq_self_iff {call : ImportCall} (readable : call.Readable)
    (found : ∀ binding ∈ call.requests, binding.renamed = false → module.shows binding = true) :
    call.run module = .ok module ↔ ∀ binding ∈ call.requests, binding.renamed = false := by
  have proper : ∀ edit ∈ call.edits, edit.Proper := fun edit => ImportCall.proper_edits
  rw [ImportCall.run_iff, and_iff_right readable]
  constructor
  · intro same binding requested
    by_contra renamed
    obtain ⟨edit, made, own⟩ := (call.mem_requests_iff readable).mp requested
    have more : module.bindings.count binding < _ :=
      count_lt_of_renamed proper made own (by simpa using renamed)
    rw [← same] at more
    exact Nat.lt_irrefl _ more
  · intro unrenamed
    refine (applyAll_eq_self proper fun edit made binding own => ?_).symm
    have requested := (call.mem_requests_iff readable).mpr ⟨edit, made, own⟩
    exact found binding requested (unrenamed binding requested)

end Calls

/-- Calls that succeed lose nothing that is bound and add only what they ask for. They bind all of it
exactly once if and only if the module starts without repetitions and every edit finds its requests
present just when they are bound, which holds for imports under own names. To repeat one of the
calls changes nothing if and only if it binds nothing to another name. -/
theorem import_calls_bind_exactly_iff (module changed : Module) (calls : List ImportCall)
    (success : module.runCalls calls = .ok changed) :
    (∀ binding ∈ module.bindings, binding ∈ changed.bindings) ∧
    (∀ binding ∈ changed.bindings,
      binding ∈ module.bindings ∨ ∃ call ∈ calls, binding ∈ call.requests) ∧
    (module.BindsExactly changed calls ↔
      module.bindings.Nodup ∧ module.FaithfulRun (calls.flatMap ImportCall.edits)) ∧
    (module.bindings.Nodup → module.ImportsPlainly →
      (∀ call ∈ calls, ∀ binding ∈ call.requests, binding.renamed = false) →
      module.BindsExactly changed calls) ∧
    ∀ call ∈ calls, call.run changed = .ok changed ↔
      ∀ binding ∈ call.requests, binding.renamed = false := by
  obtain ⟨readable, rfl⟩ := runCalls_iff.mp success
  have exactly : module.BindsExactly (module.applyAll (calls.flatMap ImportCall.edits)) calls ↔ _ :=
    bindsExactly_iff readable
  refine ⟨fun binding bound => mem_applyAll proper_of_calls bound, fun binding bound => ?_, exactly,
    fun once plain unrenamed => exactly.mpr ⟨once, ?_⟩,
    fun call listed => ImportCall.run_eq_self_iff (readable call listed) ?_⟩
  · exact (asked_of_mem_applyAll proper_of_calls bound).imp_right (asked_iff readable).mp
  · refine faithfulRun_of_importsPlainly plain proper_of_calls fun edit member binding own => ?_
    obtain ⟨call, listed, requested⟩ := (asked_iff readable).mp ⟨edit, member, own⟩
    exact unrenamed call listed binding requested
  · intro binding requested own
    obtain ⟨edit, made, asked⟩ := (call.mem_requests_iff (readable call listed)).mp requested
    exact shows_of_asked proper_of_calls (List.mem_flatMap.mpr ⟨call, listed, made⟩) asked own

/-- A module of orders that imports its base. -/
def orders : Module where
  name := "orders"
  body := [.importFrom (some "app.core.base") [.plain "BusinessObject"] 0]

/-- Author's imports under their own names, one of them twice. -/
def authorImports : List ImportCall :=
  [.names "typing" ["Any"], .block "import json\nfrom decimal import Decimal\n", .whole "json"]

theorem readBlock_of_eq {text : String} {letters : List Char} (same : text = String.ofList letters) :
    readBlock text =
      let chars := dedent letters
      let depth := chars.length + 1
      match (tokens? chars).bind (Rule.moduleBody (Rules.ofDepth depth) depth) with
      | some (value, []) => if chars.contains '\x00' then .error .unreadableCode else .ok value
      | _ => .error .unreadableCode := by
  rw [same, readBlock, readModule, readWhole, dedentString, String.toList_ofList, String.toList_ofList]
  dsimp only
  generalize (tokens? (dedent letters)).bind (Rule.moduleBody
    (Rules.ofDepth ((dedent letters).length + 1)) ((dedent letters).length + 1)) = read
  rcases read with _ | ⟨value, _ | _⟩ <;> rfl

private theorem readable_of_asks {text : String}
    (asks : (readBlock text).toOption.any (·.all Statement.asksImports) = true) :
    (ImportCall.block text).Readable := by
  refine Or.inr ?_
  cases read : readBlock text with
  | ok statements =>
    rw [read] at asks
    exact ⟨statements, rfl, List.all_eq_true.mp asks⟩
  | error failure =>
    rw [read] at asks
    cases asks

theorem import_calls_bind_exactly_iff_orders :
    orders.runCalls authorImports =
      .ok (orders.applyAll (authorImports.flatMap ImportCall.edits)) ∧
    orders.BindsExactly (orders.applyAll (authorImports.flatMap ImportCall.edits)) authorImports := by
  have success : orders.runCalls authorImports =
      .ok (orders.applyAll (authorImports.flatMap ImportCall.edits)) := by
    refine runCalls_iff.mpr ⟨?_, rfl⟩
    simp only [authorImports, List.forall_mem_cons, List.not_mem_nil, false_implies, implies_true,
      and_true]
    refine ⟨trivial, readable_of_asks ?_, trivial⟩
    simp (disch := rfl) only [readBlock_of_eq]
    decide +kernel
  have unrenamed : ∀ call ∈ authorImports, ∀ binding ∈ call.requests, binding.renamed = false := by
    simp (disch := rfl) only [authorImports, List.forall_mem_cons, ImportCall.requests,
      ImportCall.statements, readBlock_of_eq]
    decide +kernel
  have plain : orders.ImportsPlainly := by
    refine ⟨by decide, fun source imported bound => ?_⟩
    cases List.mem_singleton.mp bound
    decide
  obtain ⟨_, _, _, exact, _⟩ := import_calls_bind_exactly_iff orders _ authorImports success
  exact ⟨success, exact (by decide) plain unrenamed⟩

/-- An import under another name, as an author writes it. -/
def shortDecimal : ImportCall := .block "from decimal import Decimal as D\n"

/-- Asked for again, a name bound to another is imported twice; asked for under its own name as well,
it is not bound to that. -/
theorem renamed_import_repeated :
    ∃ changed, orders.runCalls [shortDecimal, shortDecimal, .names "decimal" ["Decimal"]] =
        .ok changed ∧
      changed.bindings.count (.ofName "decimal" 0 ⟨"Decimal", some "D"⟩) = 2 ∧
      .ofName "decimal" 0 (.plain "Decimal") ∉ changed.bindings ∧
      shortDecimal.run changed ≠ .ok changed := by
  have readable : shortDecimal.Readable := by
    refine readable_of_asks ?_
    simp (disch := rfl) only [readBlock_of_eq]
    decide +kernel
  refine ⟨_, runCalls_iff.mpr ⟨?_, rfl⟩, ?_⟩
  · simp only [List.forall_mem_cons, List.not_mem_nil, false_implies, implies_true, and_true]
    exact ⟨readable, readable, trivial⟩
  · rw [ne_eq, ImportCall.run_iff]
    simp (disch := rfl) only [shortDecimal, List.flatMap_cons, List.flatMap_nil, ImportCall.edits,
      ImportCall.statements, readBlock_of_eq]
    refine ⟨by decide +kernel, by decide +kernel, fun same => ?_⟩
    have repeated := congrArg (fun module => module.bindings.length) same.2
    exact absurd repeated (by decide +kernel)

end Blueprint.ServerCode
