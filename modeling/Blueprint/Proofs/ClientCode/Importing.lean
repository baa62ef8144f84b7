import Mathlib.Data.List.Basic
import Blueprint.ClientCode.Source

namespace Blueprint.ClientCode

namespace Import

@[simp] theorem module_add (imported : Import) (names : List String) :
    (imported.add names).module = imported.module := by
  unfold add
  induction names generalizing imported with
  | nil => rfl
  | cons name names ih =>
    rw [List.foldl_cons, ih]
    split <;> rfl

theorem mem_names_add {imported : Import} {names : List String} {name : String} :
    name ∈ (imported.add names).names ↔ name ∈ imported.names ∨ name ∈ names ∧ name ≠ "" := by
  unfold add
  induction names generalizing imported with
  | nil => simp
  | cons first names ih =>
    rw [List.foldl_cons, ih, List.mem_cons]
    split
    · rename_i passed
      have known : first = "" ∨ first ∈ imported.names := by simpa using passed
      constructor
      · exact Or.imp_right fun given => ⟨.inr given.1, given.2⟩
      · rintro (own | ⟨rfl | listed, visible⟩)
        · exact .inl own
        · exact .inl (known.resolve_left visible)
        · exact .inr ⟨listed, visible⟩
    · rename_i taken
      have fresh : first ≠ "" ∧ first ∉ imported.names := by simpa using taken
      rw [List.mem_append, List.mem_singleton]
      constructor
      · rintro ((own | rfl) | ⟨listed, visible⟩)
        · exact .inl own
        · exact .inr ⟨.inl rfl, fresh.1⟩
        · exact .inr ⟨.inr listed, visible⟩
      · rintro (own | ⟨rfl | listed, visible⟩)
        · exact .inl (.inl own)
        · exact .inl (.inr rfl)
        · exact .inr ⟨listed, visible⟩

@[simp] theorem module_addDefault (imported : Import) (default : Option String) :
    (imported.addDefault default).module = imported.module := by
  unfold addDefault
  split
  · split <;> rfl
  · rfl

end Import

namespace Source

/-- A file imports a name from a module. -/
def ImportsFrom (source : Source) (module name : String) : Prop :=
  ∃ imported ∈ source.imports, imported.module = module ∧ name ∈ imported.names

variable {source : Source} {module other name : String} {names : List String}

@[simp] theorem imports_addStatement (source : Source) (text : String) :
    (source.addStatement text).imports = source.imports := by
  unfold addStatement
  split <;> rfl

/-- Changing the import of a module changes it where it is, or makes it where it is missing. -/
theorem mem_changeImport {change : Import → Import} {imports : List Import} {imported : Import} :
    imported ∈ changeImport module change imports ↔
      imported ∈ imports ∧ imported.module ≠ module ∨
        (∃ old ∈ imports, old.module = module ∧ change old = imported) ∨
        (∀ old ∈ imports, old.module ≠ module) ∧ imported = change { module } := by
  unfold changeImport
  split
  · rename_i there
    obtain ⟨old, member, same⟩ : ∃ old ∈ imports, old.module = module := by simpa using there
    rw [List.mem_map]
    constructor
    · rintro ⟨kept, listed, rfl⟩
      split
      · rename_i mine
        exact Or.inr (Or.inl ⟨kept, listed, by simpa using mine, rfl⟩)
      · rename_i apart
        exact Or.inl ⟨listed, by simpa using apart⟩
    · rintro (⟨listed, apart⟩ | ⟨kept, listed, mine, rfl⟩ | ⟨missing, _⟩)
      · exact ⟨imported, listed, if_neg (by simpa using apart)⟩
      · exact ⟨kept, listed, if_pos (by simpa using mine)⟩
      · exact absurd same (missing old member)
  · rename_i absent
    have missing : ∀ old ∈ imports, old.module ≠ module := by simpa using absent
    have made : imported ∈ imports ∨ imported = change { module } ↔
        imported ∈ imports ∧ imported.module ≠ module ∨
          (∃ old ∈ imports, old.module = module ∧ change old = imported) ∨
          (∀ old ∈ imports, old.module ≠ module) ∧ imported = change { module } := by
      constructor
      · rintro (listed | new)
        · exact Or.inl ⟨listed, missing imported listed⟩
        · exact Or.inr (Or.inr ⟨missing, new⟩)
      · rintro (⟨listed, _⟩ | ⟨old, listed, mine, _⟩ | ⟨_, new⟩)
        · exact Or.inl listed
        · exact absurd mine (missing old listed)
        · exact Or.inr new
    -- The import of the core module comes first, any other one last.
    split
    · rw [List.mem_cons, or_comm, made]
    · rw [List.mem_append, List.mem_singleton, made]

/-- The modules from which a file imports. -/
def modules (source : Source) : List String := source.imports.map Import.module

theorem mem_modules_changeImport {change : Import → Import} {imports : List Import}
    (keeps : ∀ imported, (change imported).module = imported.module) :
    other ∈ (changeImport module change imports).map Import.module ↔
      other ∈ imports.map Import.module ∨ other = module := by
  simp only [List.mem_map, mem_changeImport]
  constructor
  · rintro ⟨imported, ⟨listed, _⟩ | ⟨old, listed, _, rfl⟩ | ⟨_, rfl⟩, rfl⟩
    · exact Or.inl ⟨imported, listed, rfl⟩
    · exact Or.inl ⟨old, listed, (keeps old).symm⟩
    · exact Or.inr (keeps _)
  · rintro (⟨old, listed, rfl⟩ | rfl)
    · by_cases mine : old.module = module
      · exact ⟨change old, Or.inr (Or.inl ⟨old, listed, mine, rfl⟩), keeps old⟩
      · exact ⟨old, Or.inl ⟨listed, mine⟩, rfl⟩
    · by_cases there : ∃ old ∈ imports, old.module = other
      · obtain ⟨old, listed, mine⟩ := there
        exact ⟨change old, Or.inr (Or.inl ⟨old, listed, mine, rfl⟩), (keeps old).trans mine⟩
      · refine ⟨change { module := other }, Or.inr (Or.inr ⟨?_, rfl⟩), keeps _⟩
        exact fun old listed mine => there ⟨old, listed, mine⟩

@[simp] theorem mem_modules_addImport :
    other ∈ (source.addImport module names).modules ↔ other ∈ source.modules ∨ other = module :=
  mem_modules_changeImport fun imported => Import.module_add imported names

@[simp] theorem mem_modules_addDefaultImport {default : Option String} :
    other ∈ (source.addDefaultImport module default).modules ↔
      other ∈ source.modules ∨ other = module :=
  mem_modules_changeImport fun imported => Import.module_addDefault imported default

theorem mem_modules_foldl {α : Type} (moduleOf : α → String) (namesOf : α → List String)
    (items : List α) : other ∈ (items.foldl (fun source item =>
        source.addImport (moduleOf item) (namesOf item)) source).modules ↔
      other ∈ source.modules ∨ other ∈ items.map moduleOf := by
  induction items generalizing source with
  | nil => simp
  | cons item items ih =>
    rw [List.foldl_cons, ih, mem_modules_addImport, List.map_cons, List.mem_cons, or_assoc]

@[simp] theorem modules_addStatement (text : String) :
    (source.addStatement text).modules = source.modules := by
  rw [modules, imports_addStatement, modules]

/-- Importing names from a module adds those that are not empty. -/
theorem importsFrom_addImport :
    (source.addImport module names).ImportsFrom other name ↔
      source.ImportsFrom other name ∨ other = module ∧ name ∈ names ∧ name ≠ "" := by
  simp only [ImportsFrom, addImport, mem_changeImport]
  constructor
  · rintro ⟨imported, ⟨listed, _⟩ | ⟨old, listed, mine, rfl⟩ | ⟨_, rfl⟩, rfl, member⟩
    · exact Or.inl ⟨imported, listed, rfl, member⟩
    · rw [Import.module_add]
      rcases Import.mem_names_add.mp member with kept | new
      · exact Or.inl ⟨old, listed, rfl, kept⟩
      · exact Or.inr ⟨mine, new⟩
    · rw [Import.module_add]
      rcases Import.mem_names_add.mp member with kept | new
      · cases kept
      · exact Or.inr ⟨rfl, new⟩
  · rintro (⟨imported, listed, rfl, member⟩ | ⟨rfl, new⟩)
    · by_cases mine : imported.module = module
      · exact ⟨imported.add names, Or.inr (Or.inl ⟨imported, listed, mine, rfl⟩),
          Import.module_add imported names, Import.mem_names_add.mpr (Or.inl member)⟩
      · exact ⟨imported, Or.inl ⟨listed, mine⟩, rfl, member⟩
    · by_cases there : ∃ old ∈ source.imports, old.module = other
      · obtain ⟨old, listed, mine⟩ := there
        exact ⟨old.add names, Or.inr (Or.inl ⟨old, listed, mine, rfl⟩),
          (Import.module_add old names).trans mine, Import.mem_names_add.mpr (Or.inr new)⟩
      · refine ⟨Import.add { module := other } names, Or.inr (Or.inr ⟨?_, rfl⟩),
          Import.module_add _ names, Import.mem_names_add.mpr (Or.inr new)⟩
        exact fun old listed mine => there ⟨old, listed, mine⟩

/-- A file imports a name from one of some modules after importing from all of them. -/
theorem importsFrom_foldl {α : Type} (moduleOf : α → String) (nameOf : α → String) (items : List α) :
    (items.foldl (fun source item => source.addImport (moduleOf item) [nameOf item])
        source).ImportsFrom other name ↔
      source.ImportsFrom other name ∨
        ∃ item ∈ items, other = moduleOf item ∧ name = nameOf item ∧ name ≠ "" := by
  induction items generalizing source with
  | nil => simp
  | cons item items ih =>
    rw [List.foldl_cons, ih, importsFrom_addImport, List.mem_singleton,
      List.exists_mem_cons_iff, or_assoc]

end Source

end Blueprint.ClientCode
