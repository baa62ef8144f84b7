import Mathlib.Data.List.Basic
import Mathlib.Data.List.InsertIdx
import Blueprint.Proofs.ServerCode.Editing
import Blueprint.Step

namespace Blueprint.ServerCode

/-- A name that an import binds: one of a module, or a module as a whole. -/
inductive Binding where
  | ofName (source : String) (level : Nat) (imported : Alias)
  | ofModule (imported : Alias)
  deriving DecidableEq

/-- The name that is bound. A module within packages is bound through the outermost of them. -/
def Binding.name : Binding → String
  | ofName _ _ imported => imported.asName.getD imported.name
  | ofModule imported =>
    imported.asName.getD (String.ofList (imported.name.toList.takeWhile (· != '.')))

/-- The names that a statement imports. -/
def Statement.bindings : Statement → List Binding
  | importFrom source names level => names.map (.ofName (source.getD "") level)
  | importModules names => names.map .ofModule
  | _ => []

namespace Module

/-- The names that the imports of a module bind. -/
def bindings (module : Module) : List Binding := module.body.flatMap Statement.bindings

/-- An import of the module binds a name. -/
def Binds (module : Module) (name : String) : Prop := name ∈ module.bindings.map Binding.name

/-- An edit keeps all bindings, and those it adds are allowed. -/
structure ImportGrowth (before after : Module) (allowed : Binding → Prop) : Prop where
  retains : ∀ binding ∈ before.bindings, binding ∈ after.bindings
  introduced : ∀ binding ∈ after.bindings, binding ∈ before.bindings ∨ allowed binding

namespace ImportGrowth

variable {before middle after : Module} {allowed larger : Binding → Prop}

theorem refl (module : Module) (allowed : Binding → Prop) : ImportGrowth module module allowed :=
  ⟨fun _ bound => bound, fun _ bound => Or.inl bound⟩

theorem of_eq (same : after.bindings = before.bindings) : ImportGrowth before after allowed := by
  refine ⟨fun _ bound => ?_, fun _ bound => Or.inl ?_⟩
  · rwa [same]
  · rwa [← same]

theorem trans (first : ImportGrowth before middle allowed)
    (second : ImportGrowth middle after allowed) : ImportGrowth before after allowed := by
  refine ⟨fun binding bound => second.retains binding (first.retains binding bound), ?_⟩
  intro binding bound
  rcases second.introduced binding bound with earlier | new
  · exact first.introduced binding earlier
  · exact Or.inr new

theorem weaken (growth : ImportGrowth before after allowed)
    (subset : ∀ binding, allowed binding → larger binding) : ImportGrowth before after larger :=
  ⟨growth.retains, fun binding bound => (growth.introduced binding bound).imp_right (subset binding)⟩

theorem foldl {α : Type} {edit : Module → α → Module} (items : List α)
    (step : ∀ item ∈ items, ∀ module, ImportGrowth module (edit module item) allowed)
    (module : Module) : ImportGrowth module (items.foldl edit module) allowed := by
  induction items generalizing module with
  | nil => exact refl module allowed
  | cons item items ih =>
    exact (step item List.mem_cons_self module).trans
      (ih (fun other listed => step other (List.mem_cons_of_mem _ listed)) (edit module item))

end ImportGrowth

section Edits

variable {module changed : Module}

theorem importIndex_le (body : List Statement) : importIndex body ≤ body.length := by
  unfold importIndex
  split
  · omega
  · split
    · rename_i documented
      cases body with
      | nil => simp at documented
      | cons => simp
    · omega

private theorem mem_bindings_insertImport {statement : Statement} {binding : Binding} :
    binding ∈ (module.insertImport statement).bindings ↔
      binding ∈ statement.bindings ∨ binding ∈ module.bindings := by
  simp only [bindings, insertImport, List.mem_flatMap,
    List.mem_insertIdx (importIndex_le module.body)]
  constructor
  · rintro ⟨other, rfl | listed, bound⟩
    · exact Or.inl bound
    · exact Or.inr ⟨other, listed, bound⟩
  · rintro (bound | ⟨other, listed, bound⟩)
    · exact ⟨statement, Or.inl rfl, bound⟩
    · exact ⟨other, Or.inr listed, bound⟩

theorem insertImport_growth (module : Module) (statement : Statement) :
    ImportGrowth module (module.insertImport statement) (· ∈ statement.bindings) where
  retains := fun _ bound => mem_bindings_insertImport.mpr (Or.inr bound)
  introduced := fun _ bound => (mem_bindings_insertImport.mp bound).symm

/-- Names of a module as they are. -/
def FromModule (source : String) (names : List String) (binding : Binding) : Prop :=
  ∃ name ∈ names, binding = .ofName source 0 (.plain name)

/-- Adding names to an import keeps the others. -/
theorem mem_bindings_withNames {source : String} {names : List String} {statement : Statement}
    (found : importsFrom source statement = true) {binding : Binding} :
    (binding ∈ statement.bindings → binding ∈ (withNames names statement).bindings) ∧
      (binding ∈ (withNames names statement).bindings →
        binding ∈ statement.bindings ∨ FromModule source names binding) := by
  unfold importsFrom at found
  split at found
  · rename_i owner present
    obtain rfl : owner = source := by simpa using found
    simp only [withNames]
    split
    · exact ⟨id, Or.inl⟩
    · simp only [Statement.bindings, List.mem_map, List.mem_mergeSort, List.mem_append, distinct,
        List.mem_eraseDups, List.mem_filter]
      constructor
      · rintro ⟨imported, listed, rfl⟩
        exact ⟨imported, Or.inl listed, rfl⟩
      · rintro ⟨imported, listed | ⟨name, ⟨asked, _⟩, rfl⟩, rfl⟩
        · exact Or.inl ⟨imported, listed, rfl⟩
        · exact Or.inr ⟨name, asked, rfl⟩
  · cases found

theorem mem_flatMap_changeFirst {accepts : Statement → Bool} {change : Statement → Statement}
    {allowed : Binding → Prop}
    (step : ∀ statement, accepts statement = true → ∀ binding,
      (binding ∈ statement.bindings → binding ∈ (change statement).bindings) ∧
        (binding ∈ (change statement).bindings → binding ∈ statement.bindings ∨ allowed binding))
    (body : List Statement) (binding : Binding) :
    (binding ∈ body.flatMap Statement.bindings →
        binding ∈ (changeFirst accepts change body).flatMap Statement.bindings) ∧
      (binding ∈ (changeFirst accepts change body).flatMap Statement.bindings →
        binding ∈ body.flatMap Statement.bindings ∨ allowed binding) := by
  induction body with
  | nil => exact ⟨id, Or.inl⟩
  | cons statement body ih =>
    rw [changeFirst]
    split
    · rename_i taken
      obtain ⟨keeps, adds⟩ := step statement taken binding
      simp only [List.flatMap_cons, List.mem_append]
      exact ⟨Or.imp_left keeps, fun bound => bound.elim
        (fun here => (adds here).imp_left Or.inl) (fun later => Or.inl (Or.inr later))⟩
    · simp only [List.flatMap_cons, List.mem_append]
      exact ⟨Or.imp_right ih.1, fun bound => bound.elim (fun here => Or.inl (Or.inl here))
        (fun later => (ih.2 later).imp_left Or.inr)⟩

/-- Importing names from a module adds only these. -/
theorem mergeImport_growth (module : Module) (source : String) (names : List String) :
    ImportGrowth module (module.mergeImport source names) (FromModule source names) := by
  simp only [mergeImport]
  split
  · exact .refl module _
  · split
    · have step (statement : Statement) (taken : importsFrom source statement = true)
          (binding : Binding) :
          (binding ∈ statement.bindings →
            binding ∈ (withNames (names.filter (!·.isEmpty)) statement).bindings) ∧
          (binding ∈ (withNames (names.filter (!·.isEmpty)) statement).bindings →
            binding ∈ statement.bindings ∨ FromModule source names binding) := by
        obtain ⟨keeps, adds⟩ := mem_bindings_withNames taken
        refine ⟨keeps, fun bound => (adds bound).imp_right ?_⟩
        rintro ⟨name, asked, same⟩
        exact ⟨name, (List.mem_filter.mp asked).1, same⟩
      have merged := mem_flatMap_changeFirst step module.body
      exact ⟨fun binding => (merged binding).1, fun binding => (merged binding).2⟩
    · refine (insertImport_growth module _).weaken ?_
      intro binding bound
      simp only [Statement.bindings, List.map_map, List.mem_map, List.mem_mergeSort, distinct,
        List.mem_eraseDups, List.mem_filter] at bound
      obtain ⟨name, ⟨asked, _⟩, rfl⟩ := bound
      exact ⟨name, asked, rfl⟩

private theorem addImport_growth (module : Module) (source : String) :
    ImportGrowth module (module.addImport source) (· = .ofModule { name := source }) := by
  unfold addImport
  split
  · exact .refl module _
  · refine (insertImport_growth module _).weaken ?_
    intro binding bound
    exact List.mem_singleton.mp bound

/-- A statement that asks for imports adds only what it binds itself. -/
theorem addImportStatement_growth {statement : Statement}
    (success : module.addImportStatement statement = .ok changed) :
    ImportGrowth module changed (· ∈ statement.bindings) := by
  unfold addImportStatement at success
  split at success
  · rename_i source names
    cases success
    refine ((mergeImport_growth module (source.getD "") _).weaken ?_).trans
      (ImportGrowth.foldl _ ?_ _)
    · rintro binding ⟨name, asked, rfl⟩
      obtain ⟨imported, chosen, rfl⟩ := List.mem_map.mp asked
      obtain ⟨listed, unnamed⟩ := List.mem_filter.mp chosen
      have plain : Alias.plain imported.name = imported := by
        cases imported
        cases Option.isNone_iff_eq_none.mp unnamed
        rfl
      rw [plain]
      exact List.mem_map_of_mem listed
    · intro renamed chosen module
      refine (insertImport_growth module _).weaken ?_
      intro binding bound
      rw [List.mem_singleton.mp bound]
      exact List.mem_map_of_mem (List.mem_filter.mp chosen).1
  · rename_i names
    cases success
    refine ImportGrowth.foldl _ ?_ _
    intro imported listed module
    have own : Binding.ofModule imported ∈ (Statement.importModules names).bindings :=
      List.mem_map_of_mem listed
    split
    · rename_i unnamed
      refine (addImport_growth module imported.name).weaken ?_
      rintro binding rfl
      have plain : ({ name := imported.name } : Alias) = imported := by
        cases imported
        cases Option.isNone_iff_eq_none.mp unnamed
        rfl
      rwa [plain]
    · refine (insertImport_growth module _).weaken ?_
      intro binding bound
      rwa [List.mem_singleton.mp bound]
  · cases success

/-- The imports of some statements add only what these bind. -/
theorem addImportStatements_growth {statements : List Statement}
    (success : (module.addImportStatements statements).result = .ok changed) :
    ImportGrowth module changed fun binding => ∃ statement ∈ statements,
      binding ∈ statement.bindings := by
  induction statements generalizing module with
  | nil =>
    cases success
    exact .refl module _
  | cons statement statements ih =>
    unfold addImportStatements at success
    split at success
    · rename_i edited step
      refine ((addImportStatement_growth step).weaken ?_).trans ((ih success).weaken ?_)
      · exact fun binding bound => ⟨statement, List.mem_cons_self, bound⟩
      · rintro binding ⟨other, listed, bound⟩
        exact ⟨other, List.mem_cons_of_mem _ listed, bound⟩
    · cases success

/-- Changing a class leaves the imports alone. -/
theorem bindings_changeClass (module : Module) (name : String)
    (change : List Statement → List Statement) :
    (module.changeClass name change).bindings = module.bindings := by
  unfold bindings changeClass
  simp only
  generalize module.body = body
  induction body with
  | nil => rfl
  | cons statement body ih =>
    rw [changeFirst]
    split
    · rename_i found
      rw [List.flatMap_cons, List.flatMap_cons]
      cases statement with
      | classDef => rfl
      | _ => simp [Statement.className?] at found
    · rw [List.flatMap_cons, List.flatMap_cons, ih]

theorem bindings_spliceStatements {className method body : String} {position : SplicePosition}
    {lead : List Statement}
    (success : module.spliceStatements className method position lead body = .ok changed) :
    changed.bindings = module.bindings := by
  unfold spliceStatements at success
  obtain ⟨anchor, _, success⟩ := bind_eq_ok_iff.mp success
  cases success
  exact bindings_changeClass _ className _

end Edits

section Code

variable {module changed : Module}

/-- The statements of a module that are no imports. -/
def code (module : Module) : List Statement := module.body.filter (!·.isImport)

private theorem filter_insertIdx_of_unseen {α : Type} {looked : α → Bool} {item : α}
    (unseen : looked item = false) (index : Nat) (items : List α) :
    (items.insertIdx index item).filter looked = items.filter looked := by
  induction items generalizing index with
  | nil => cases index <;> simp [unseen]
  | cons first items ih =>
    cases index with
    | zero => simp [unseen]
    | succ index => simp only [List.insertIdx_succ_cons, List.filter_cons, ih]

theorem filter_changeFirst_of_unseen {α : Type} {accepts looked : α → Bool} {change : α → α}
    (unseen : ∀ item, accepts item = true → looked item = false ∧ looked (change item) = false)
    (items : List α) :
    (changeFirst accepts change items).filter looked = items.filter looked := by
  induction items with
  | nil => rfl
  | cons item items ih =>
    rw [changeFirst]
    split
    · rename_i taken
      obtain ⟨before, after⟩ := unseen item taken
      simp [before, after]
    · simp only [List.filter_cons, ih]

theorem code_insertImport (module : Module) {statement : Statement}
    (isImport : statement.isImport = true) : (module.insertImport statement).code = module.code :=
  filter_insertIdx_of_unseen (by simp [isImport]) _ _

theorem code_mergeImport (module : Module) (source : String) (names : List String) :
    (module.mergeImport source names).code = module.code := by
  simp only [mergeImport]
  split
  · rfl
  · split
    · apply filter_changeFirst_of_unseen
      intro statement found
      cases statement with
      | importFrom owner present level =>
        refine ⟨rfl, ?_⟩
        simp only [withNames]
        split <;> rfl
      | _ => simp [importsFrom] at found
    · exact code_insertImport module rfl

private theorem code_addImport (module : Module) (source : String) :
    (module.addImport source).code = module.code := by
  unfold addImport
  split
  · rfl
  · exact code_insertImport module rfl

private theorem code_foldl {α : Type} {edit : Module → α → Module}
    (step : ∀ module item, (edit module item).code = module.code) (items : List α)
    (module : Module) : (items.foldl edit module).code = module.code := by
  induction items generalizing module with
  | nil => rfl
  | cons item items ih => exact (ih (edit module item)).trans (step module item)

/-- Imports leave the code of a module alone. -/
theorem code_addImportStatements {statements : List Statement}
    (success : (module.addImportStatements statements).result = .ok changed) :
    changed.code = module.code := by
  induction statements generalizing module with
  | nil =>
    cases success
    rfl
  | cons statement statements ih =>
    unfold addImportStatements at success
    split at success
    · rename_i edited step
      refine (ih success).trans ?_
      unfold addImportStatement at step
      split at step
      · cases step
        exact (code_foldl (fun module renamed => code_insertImport module rfl) _ _).trans
          (code_mergeImport module _ _)
      · cases step
        apply code_foldl
        intro module imported
        split
        · exact code_addImport module imported.name
        · exact code_insertImport module rfl
      · cases step
    · cases success

end Code

end Module

end Blueprint.ServerCode
