import Mathlib.Data.List.Perm.Basic
import Mathlib.Data.List.Perm.Lattice
import Mathlib.Data.List.Nodup
import Blueprint.Proofs.ServerCode.Imports
import Blueprint.Proofs.Text

namespace Blueprint.ServerCode

/-- What is imported is bound to another name. -/
def Binding.renamed : Binding → Bool
  | ofName _ _ imported | ofModule imported => imported.asName.isSome

/-- The names that an import lists, whatever they are bound to. -/
def Statement.listed : Statement → List String
  | importFrom _ names _ | importModules names => names.map Alias.name
  | _ => []

namespace Module

/-- The presence test finds a binding: the first import of its module lists the name, or an import
lists the module. What is bound to another name is not looked for. -/
def shows (module : Module) (binding : Binding) : Bool :=
  !binding.renamed && match binding with
    | .ofName source _ imported =>
      (module.body.find? (importsFrom source)).any (·.listed.contains imported.name)
    | .ofModule imported => module.body.any (importsWhole imported.name)

end Module

/-- The names that are not blank. -/
def written (names : List String) : List String := names.filter (!·.isEmpty)

/-- A change of the imports of a module. -/
inductive ImportEdit where
  /-- Names of a module, merged into its first import. -/
  | names (source : String) (wanted : List String)
  /-- A module as a whole. -/
  | whole (source : String)
  /-- A statement of its own. -/
  | alone (statement : Statement)

namespace ImportEdit

open Blueprint.ServerCode.Module

/-- The module after an edit. -/
def apply (module : Module) : ImportEdit → Module
  | names source wanted => module.mergeImport source wanted
  | whole source => module.addImport source
  | alone statement => module.insertImport statement

/-- What an edit is to bind, each once. -/
def requests : ImportEdit → List Binding
  | names source wanted =>
    (distinct (written wanted)).map fun name => .ofName source 0 (.plain name)
  | whole source => [.ofModule { name := source }]
  | alone statement => statement.bindings

/-- A statement stands alone only for one thing that is bound to another name. -/
def Proper : ImportEdit → Prop
  | alone statement =>
    statement.isImport = true ∧ ∃ binding, statement.bindings = [binding] ∧ binding.renamed = true
  | _ => True

end ImportEdit

namespace Module

section Places

variable {module : Module} {statement : Statement}

theorem nodup_distinct (names : List String) : (distinct names).Nodup :=
  nodup_eraseDups names

private theorem insertIdx_eq_append {α : Type} {index : Nat} {items : List α}
    (within : index ≤ items.length) (item : α) :
    items.insertIdx index item = items.take index ++ item :: items.drop index := by
  induction items generalizing index with
  | nil =>
    obtain rfl := Nat.le_zero.mp within
    rfl
  | cons first items ih =>
    cases index with
    | zero => rfl
    | succ index => simp [ih (Nat.le_of_succ_le_succ within)]

theorem no_import_behind {body : List Statement} (behind : statement ∈ body.drop (importIndex body)) :
    statement.isImport = false := by
  unfold importIndex at behind
  cases last : body.reverse.findIdx? Statement.isImport with
  | some fromEnd =>
    rw [last] at behind
    rw [← List.mem_reverse, ← List.take_reverse] at behind
    obtain ⟨place, within, rfl⟩ := List.mem_take_iff_getElem.mp behind
    obtain ⟨_, _, before⟩ := List.findIdx?_eq_some_iff_getElem.mp last
    simpa using before place (Nat.lt_of_lt_of_le within (Nat.min_le_left _ _))
  | none =>
    exact List.findIdx?_eq_none_iff.mp last statement
      (List.mem_reverse.mpr (List.mem_of_mem_drop behind))

theorem find?_insertImport {looked : Statement → Bool}
    (imports : ∀ other, looked other = true → other.isImport = true) :
    (module.insertImport statement).body.find? looked =
      (module.body.find? looked).or (if looked statement then some statement else none) := by
  have behind : (module.body.drop (importIndex module.body)).find? looked = none :=
    List.find?_eq_none.mpr fun other listed found =>
      Bool.false_ne_true ((no_import_behind listed).symm.trans (imports other found))
  have ahead : module.body.find? looked =
      (module.body.take (importIndex module.body)).find? looked := by
    conv_lhs => rw [← List.take_append_drop (importIndex module.body) module.body]
    rw [List.find?_append, behind, Option.or_none]
  unfold insertImport
  rw [ahead, insertIdx_eq_append (importIndex_le _), List.find?_append, List.find?_cons, behind]
  cases looked statement <;> rfl

theorem isImport_of_importsFrom {source : String} (found : importsFrom source statement = true) :
    statement.isImport = true := by
  cases statement <;> first | rfl | cases found

/-- An import of names from a module, in the form in which it is looked for. -/
theorem importsFrom_iff {source : String} :
    importsFrom source statement = true ↔ ∃ names, statement = .importFrom (some source) names 0 := by
  constructor
  · intro found
    unfold importsFrom at found
    split at found
    · rename_i names
      exact ⟨names, by rw [eq_of_beq found]⟩
    · cases found
  · rintro ⟨names, rfl⟩
    exact beq_self_eq_true source

theorem importsWhole_iff {source : String} :
    importsWhole source statement = true ↔
      ∃ names, statement = .importModules names ∧ ∃ imported ∈ names, imported.name = source := by
  cases statement with
  | importModules names => simp [importsWhole]
  | _ => simp [importsWhole]

theorem exists_split_of_find? {source : String} {first : Statement}
    (found : module.body.find? (importsFrom source) = some first) :
    ∃ front names back, first = .importFrom (some source) names 0 ∧
      module.body = front ++ first :: back ∧
      (∀ other ∈ front, importsFrom source other = false) ∧
      ∀ change, changeFirst (importsFrom source) change module.body =
        front ++ change first :: back := by
  obtain ⟨taken, front, back, split, skipped⟩ := List.find?_eq_some_iff_append.mp found
  obtain ⟨names, rfl⟩ := importsFrom_iff.mp taken
  have passed : ∀ other ∈ front, importsFrom source other = false := by simpa using skipped
  refine ⟨front, names, back, rfl, split, passed, fun change => ?_⟩
  rw [split]
  exact changeFirst_append_cons passed taken

end Places

section Merging

variable {module : Module} {source : String} {wanted : List String}

/-- The names that an import lacks, each once. -/
def lacking (wanted : List String) (present : List Alias) : List String :=
  distinct (wanted.filter fun name => !(present.map Alias.name).contains name)

theorem mem_lacking {present : List Alias} {name : String} :
    name ∈ lacking wanted present ↔ name ∈ wanted ∧ name ∉ present.map Alias.name := by
  unfold lacking distinct
  rw [List.mem_eraseDups, List.mem_filter]
  simp

private theorem lacking_perm (wanted : List String) (present : List Alias) :
    (lacking wanted present).Perm
      ((distinct wanted).filter fun name => !(present.map Alias.name).contains name) := by
  refine (List.perm_ext_iff_of_nodup (nodup_distinct _) ((nodup_distinct _).filter _)).mpr
    fun name => ?_
  change name ∈ lacking wanted present ↔ _
  rw [mem_lacking, List.mem_filter, distinct, List.mem_eraseDups]
  simp

/-- Names that are merged into an import stand beside those that it has. -/
theorem withNames_importFrom (source : String) (wanted : List String) (present : List Alias) :
    ∃ names, withNames wanted (.importFrom (some source) present 0) =
        .importFrom (some source) names 0 ∧
      names.Perm (present ++ (lacking wanted present).map Alias.plain) ∧
      (lacking wanted present = [] → names = present) := by
  unfold withNames lacking
  simp only
  split
  · rename_i none
    refine ⟨present, rfl, ?_, fun _ => rfl⟩
    rw [List.isEmpty_iff.mp none]
    simp [distinct]
  · rename_i some
    refine ⟨_, rfl, List.mergeSort_perm _ _, fun none => absurd ?_ some⟩
    refine List.isEmpty_iff.mpr (List.eq_nil_iff_forall_not_mem.mpr fun name listed => ?_)
    have lacked : name ∈ distinct _ := List.mem_eraseDups.mpr listed
    rw [none] at lacked
    exact List.not_mem_nil lacked

theorem importsFrom_withNames (other : String) (wanted : List String) (statement : Statement) :
    importsFrom other (withNames wanted statement) = importsFrom other statement := by
  cases statement with
  | importFrom owner present level =>
    simp only [withNames]
    split
    · rfl
    · cases owner <;> cases level <;> rfl
  | _ => rfl

theorem importsWhole_withNames (other : String) (wanted : List String) (statement : Statement) :
    importsWhole other (withNames wanted statement) = importsWhole other statement := by
  cases statement with
  | importFrom owner present level =>
    simp only [withNames]
    split <;> rfl
  | _ => rfl

theorem mem_listed_withNames {wanted : List String} {present : List Alias} {name : String} :
    name ∈ (withNames wanted (.importFrom (some source) present 0)).listed ↔
      name ∈ present.map Alias.name ∨ name ∈ wanted := by
  obtain ⟨names, merged, perm, _⟩ := withNames_importFrom source wanted present
  rw [merged]
  have plain : ((lacking wanted present).map Alias.plain).map Alias.name =
      lacking wanted present := by
    rw [List.map_map]
    exact List.map_id' _
  change name ∈ names.map Alias.name ↔ _
  rw [(perm.map Alias.name).mem_iff, List.map_append, plain, List.mem_append, mem_lacking]
  tauto

/-- Names are asked of a module that has no import of it, or merged into the first. -/
theorem mergeImport_cases (module : Module) (source : String) (wanted : List String) :
    (written wanted = [] ∧ module.mergeImport source wanted = module) ∨
    (written wanted ≠ [] ∧ module.body.find? (importsFrom source) = none ∧
      module.mergeImport source wanted = module.insertImport (.importFrom (some source)
        (((distinct (written wanted)).mergeSort (· ≤ ·)).map Alias.plain) 0)) ∨
    (∃ first, module.body.find? (importsFrom source) = some first ∧
      module.mergeImport source wanted =
        { module with
          body := changeFirst (importsFrom source) (withNames (written wanted))
            module.body }) := by
  unfold mergeImport
  simp only
  split
  · rename_i nothing
    exact Or.inl ⟨List.isEmpty_iff.mp nothing, rfl⟩
  · rename_i asked
    split
    · rename_i imported
      obtain ⟨first, found⟩ : ∃ first, module.body.find? (importsFrom source) = some first := by
        rw [← Option.isSome_iff_exists, List.find?_isSome]
        simpa using imported
      exact Or.inr (Or.inr ⟨first, found, rfl⟩)
    · rename_i absent
      refine Or.inr (Or.inl ⟨fun none => asked (List.isEmpty_iff.mpr none),
        List.find?_eq_none.mpr fun other listed taken => ?_, rfl⟩)
      exact absent (List.any_eq_true.mpr ⟨other, listed, taken⟩)

end Merging

section Accounting

variable {module : Module} {edit : ImportEdit} {binding : Binding}

theorem shows_eq_false_of_renamed (renamed : binding.renamed = true) :
    module.shows binding = false := by
  simp [shows, renamed]

theorem shows_ofName {source name : String} :
    module.shows (.ofName source 0 (.plain name)) =
      (module.body.find? (importsFrom source)).any (·.listed.contains name) := rfl

private theorem shows_ofModule {source : String} :
    module.shows (.ofModule { name := source }) = module.body.any (importsWhole source) := rfl

theorem bindings_insertImport (module : Module) (statement : Statement) :
    (module.insertImport statement).bindings.Perm (module.bindings ++ statement.bindings) :=
  ((List.perm_insertIdx statement module.body (importIndex_le _)).flatMap_right
    Statement.bindings).trans List.perm_append_comm

/-- Names that a module has no import of are all put in. -/
theorem bindings_names_of_absent {source : String} {wanted : List String}
    (absent : module.body.find? (importsFrom source) = none)
    (inserted : module.mergeImport source wanted = module.insertImport (.importFrom (some source)
      (((distinct (written wanted)).mergeSort (· ≤ ·)).map Alias.plain) 0)) :
    ((ImportEdit.names source wanted).apply module).bindings.Perm (module.bindings ++
      (ImportEdit.names source wanted).requests.filter fun binding => !module.shows binding) := by
  have hidden : (ImportEdit.names source wanted).requests.filter
      (fun binding => !module.shows binding) = (ImportEdit.names source wanted).requests := by
    refine List.filter_eq_self.mpr fun binding listed => ?_
    obtain ⟨name, _, rfl⟩ := List.mem_map.mp listed
    rw [shows_ofName, absent]
    rfl
  rw [hidden]
  refine (inserted ▸ bindings_insertImport module _).trans (List.Perm.append_left _ ?_)
  simp only [Statement.bindings, List.map_map]
  exact (List.mergeSort_perm _ _).map _

/-- Of names that are merged into an import, those that the import lacks are put in. -/
theorem bindings_names_of_found {source : String} {wanted : List String} {first : Statement}
    (found : module.body.find? (importsFrom source) = some first)
    (merged : module.mergeImport source wanted =
      { module with
        body := changeFirst (importsFrom source) (withNames (written wanted)) module.body }) :
    ((ImportEdit.names source wanted).apply module).bindings.Perm (module.bindings ++
      (ImportEdit.names source wanted).requests.filter fun binding => !module.shows binding) := by
  obtain ⟨front, present, back, rfl, split, _, changed⟩ := exists_split_of_find? found
  obtain ⟨names, joined, perm, _⟩ := withNames_importFrom source (written wanted) present
  have added : (ImportEdit.names source wanted).requests.filter
      (fun binding => !module.shows binding) =
        ((distinct (written wanted)).filter fun name =>
          !(present.map Alias.name).contains name).map
            fun name => Binding.ofName source 0 (.plain name) := by
    rw [ImportEdit.requests, List.filter_map]
    refine congrArg _ (List.filter_congr fun name _ => ?_)
    simp only [Function.comp, shows_ofName, found]
    rfl
  have here : (names.map (Binding.ofName source 0)).Perm
      (present.map (Binding.ofName source 0) ++ (ImportEdit.names source wanted).requests.filter
        fun binding => !module.shows binding) := by
    rw [added]
    refine (perm.map _).trans ?_
    rw [List.map_append, List.map_map]
    exact List.Perm.append_left _ ((lacking_perm _ present).map _)
  rw [ImportEdit.apply, merged]
  simp only [bindings, changed, joined]
  rw [split, List.flatMap_append, List.flatMap_append, List.flatMap_cons, List.flatMap_cons]
  refine ((here.append_right _).append_left _).trans (List.perm_iff_count.mpr fun binding => ?_)
  simp only [List.count_append, Statement.bindings, Option.getD_some]
  omega

private theorem bindings_whole (source : String) :
    ((ImportEdit.whole source).apply module).bindings.Perm (module.bindings ++
      (ImportEdit.whole source).requests.filter fun binding => !module.shows binding) := by
  simp only [ImportEdit.apply, ImportEdit.requests, addImport]
  split
  · rename_i imported
    have shown : module.shows (.ofModule { name := source }) = true := imported
    simp [shown]
  · rename_i absent
    have hidden : module.shows (.ofModule { name := source }) = false := Bool.eq_false_iff.mpr absent
    simp only [List.filter_cons, hidden, Bool.not_false, List.filter_nil]
    exact bindings_insertImport module (.importModules [{ name := source }])

theorem bindings_alone {statement : Statement} (proper : (ImportEdit.alone statement).Proper) :
    ((ImportEdit.alone statement).apply module).bindings.Perm (module.bindings ++
      (ImportEdit.alone statement).requests.filter fun binding => !module.shows binding) := by
  obtain ⟨_, binding, only, renamed⟩ := proper
  have hidden : statement.bindings.filter (fun binding => !module.shows binding) =
      statement.bindings := by
    rw [only, List.filter_eq_self]
    intro other listed
    rw [List.mem_singleton.mp listed, shows_eq_false_of_renamed renamed]
    rfl
  rw [ImportEdit.requests, hidden]
  exact bindings_insertImport module statement

/-- An edit adds exactly those of its requests that the presence test does not find. -/
theorem bindings_apply (proper : edit.Proper) :
    (edit.apply module).bindings.Perm
      (module.bindings ++ edit.requests.filter fun binding => !module.shows binding) := by
  cases edit with
  | names source wanted =>
    rcases mergeImport_cases module source wanted with
      ⟨nothing, same⟩ | ⟨_, absent, inserted⟩ | ⟨first, found, merged⟩
    · simp [ImportEdit.apply, ImportEdit.requests, nothing, same, distinct]
    · exact bindings_names_of_absent absent inserted
    · exact bindings_names_of_found found merged
  | whole source => exact bindings_whole source
  | alone statement => exact bindings_alone proper

end Accounting

section Presence

variable {module : Module} {edit : ImportEdit} {binding : Binding}

/-- A binding is found under its own name only. -/
theorem shows_cases (shown : module.shows binding = true) :
    binding.renamed = false ∧
      ((∃ source level imported first, binding = .ofName source level imported ∧
          module.body.find? (importsFrom source) = some first ∧ imported.name ∈ first.listed) ∨
        ∃ imported, binding = .ofModule imported ∧
          ∃ statement ∈ module.body, importsWhole imported.name statement = true) := by
  unfold shows at shown
  rw [Bool.and_eq_true, Bool.not_eq_true'] at shown
  refine ⟨shown.1, ?_⟩
  cases binding with
  | ofName source level imported =>
    cases found : module.body.find? (importsFrom source) with
    | some first =>
      simp only [found, Option.any_some, List.contains_iff_mem] at shown
      exact Or.inl ⟨source, level, imported, first, rfl, found, shown.2⟩
    | none => simp [found] at shown
  | ofModule imported => exact Or.inr ⟨imported, rfl, List.any_eq_true.mp shown.2⟩

theorem shows_insertImport (statement : Statement) (shown : module.shows binding = true) :
    (module.insertImport statement).shows binding = true := by
  obtain ⟨plain, ⟨source, level, imported, first, rfl, found, listed⟩ |
    ⟨imported, rfl, other, member, taken⟩⟩ := shows_cases shown
  · have still : (module.insertImport statement).body.find? (importsFrom source) = some first := by
      rw [find?_insertImport fun _ => isImport_of_importsFrom, found]
      rfl
    simp [shows, plain, still, listed]
  · have member : other ∈ (module.insertImport statement).body :=
      (List.mem_insertIdx (importIndex_le _)).mpr (Or.inr member)
    simp only [shows, plain, Bool.not_false, Bool.true_and]
    exact List.any_eq_true.mpr ⟨other, member, taken⟩

/-- What the presence test finds it finds after an edit too. -/
theorem shows_apply (edit : ImportEdit) (shown : module.shows binding = true) :
    (edit.apply module).shows binding = true := by
  cases edit with
  | names source wanted =>
    rcases mergeImport_cases module source wanted with
      ⟨_, same⟩ | ⟨_, _, inserted⟩ | ⟨first, found, merged⟩
    · rwa [ImportEdit.apply, same]
    · rw [ImportEdit.apply, inserted]
      exact shows_insertImport _ shown
    · rw [ImportEdit.apply, merged]
      obtain ⟨plain, ⟨owner, level, imported, other, rfl, seen, listed⟩ |
        ⟨imported, rfl, other, member, taken⟩⟩ := shows_cases shown
      · by_cases same : owner = source
        · subst same
          obtain rfl : other = first := Option.some.inj (seen.symm.trans found)
          obtain ⟨present, rfl⟩ := importsFrom_iff.mp (List.find?_some found)
          have still : (changeFirst (importsFrom owner) (withNames (written wanted))
              module.body).find? (importsFrom owner) = _ :=
            find?_changeFirst (fun item taken => (importsFrom_withNames owner _ item).trans taken) _
          have kept : imported.name ∈ (withNames (written wanted)
              (.importFrom (some owner) present 0)).listed :=
            mem_listed_withNames.mpr (Or.inl listed)
          simp [shows, plain, still, found, kept]
        · have still : (changeFirst (importsFrom source) (withNames (written wanted))
              module.body).find? (importsFrom owner) = some other := by
            rw [find?_changeFirst_of_unseen, seen]
            intro item taken
            obtain ⟨present, rfl⟩ := importsFrom_iff.mp taken
            rw [importsFrom_withNames]
            exact ⟨beq_false_of_ne (Ne.symm same), beq_false_of_ne (Ne.symm same)⟩
          simp [shows, plain, still, listed]
      · have still : (changeFirst (importsFrom source) (withNames (written wanted))
            module.body).find? (importsWhole imported.name) =
              module.body.find? (importsWhole imported.name) := by
          refine find?_changeFirst_of_unseen (fun item taken => ?_) _
          obtain ⟨present, rfl⟩ := importsFrom_iff.mp taken
          exact ⟨rfl, importsWhole_withNames imported.name _ _⟩
        have found : (module.body.find? (importsWhole imported.name)).isSome = true :=
          List.find?_isSome.mpr ⟨other, member, taken⟩
        rw [← still] at found
        simp only [shows, plain, Bool.not_false, Bool.true_and]
        exact List.any_eq_true.mpr (List.find?_isSome.mp found)
  | whole source =>
    simp only [ImportEdit.apply, addImport]
    split
    · exact shown
    · exact shows_insertImport _ shown
  | alone statement => exact shows_insertImport statement shown

/-- What an edit asks for under its own name is found afterwards. -/
theorem shows_requests (proper : edit.Proper) (asked : binding ∈ edit.requests)
    (plain : binding.renamed = false) : (edit.apply module).shows binding = true := by
  cases edit with
  | names source wanted =>
    obtain ⟨name, listed, rfl⟩ := List.mem_map.mp asked
    have member : name ∈ written wanted := List.mem_eraseDups.mp listed
    rw [shows_ofName, ImportEdit.apply]
    rcases mergeImport_cases module source wanted with
      ⟨nothing, _⟩ | ⟨_, absent, inserted⟩ | ⟨first, found, merged⟩
    · rw [nothing] at member
      cases member
    · rw [inserted, find?_insertImport fun _ => isImport_of_importsFrom, absent]
      have kept : name ∈ (distinct (written wanted)).mergeSort (· ≤ ·) :=
        List.mem_mergeSort.mpr listed
      simpa [importsFrom, Statement.listed, Alias.plain] using kept
    · obtain ⟨present, rfl⟩ := importsFrom_iff.mp (List.find?_some found)
      have kept : name ∈ (withNames (written wanted)
          (.importFrom (some source) present 0)).listed :=
        mem_listed_withNames.mpr (Or.inr member)
      rw [merged, find?_changeFirst (fun item taken =>
        (importsFrom_withNames source _ item).trans taken), found]
      simp [kept]
  | whole source =>
    rw [List.mem_singleton.mp asked, shows_ofModule]
    simp only [ImportEdit.apply, addImport]
    split
    · assumption
    · refine List.any_eq_true.mpr ⟨.importModules [{ name := source }], ?_, by simp [importsWhole]⟩
      exact (List.mem_insertIdx (importIndex_le _)).mpr (Or.inl rfl)
  | alone statement =>
    obtain ⟨_, only, same, renamed⟩ := proper
    rw [ImportEdit.requests, same, List.mem_singleton] at asked
    rw [asked, renamed] at plain
    cases plain

/-- An edit changes nothing where all that it asks for is found. -/
theorem apply_eq_self (proper : edit.Proper)
    (present : ∀ binding ∈ edit.requests, module.shows binding = true) :
    edit.apply module = module := by
  cases edit with
  | names source wanted =>
    have listed : ∀ name ∈ written wanted,
        (module.body.find? (importsFrom source)).any (·.listed.contains name) = true :=
      fun name member => present _ (List.mem_map.mpr ⟨name, List.mem_eraseDups.mpr member, rfl⟩)
    rcases mergeImport_cases module source wanted with
      ⟨_, same⟩ | ⟨asked, absent, _⟩ | ⟨first, found, merged⟩
    · exact same
    · obtain ⟨name, member⟩ := List.exists_mem_of_ne_nil _ asked
      have here := listed name member
      rw [absent] at here
      cases here
    · obtain ⟨front, names, back, rfl, split, _, changed⟩ := exists_split_of_find? found
      have nothing : lacking (written wanted) names = [] := by
        refine List.eq_nil_iff_forall_not_mem.mpr fun name lacked => ?_
        obtain ⟨member, missing⟩ := mem_lacking.mp lacked
        have here := listed name member
        rw [found] at here
        exact missing (by simpa [Statement.listed] using here)
      obtain ⟨joined, same, _, kept⟩ :=
        withNames_importFrom source (written wanted) names
      rw [ImportEdit.apply, merged, changed, same, kept nothing, ← split]
  | whole source =>
    exact if_pos (present _ (List.mem_singleton_self _))
  | alone statement =>
    obtain ⟨_, binding, only, renamed⟩ := proper
    have shown := present binding (by rw [ImportEdit.requests, only]; exact List.mem_singleton_self _)
    rw [shows_eq_false_of_renamed renamed] at shown
    cases shown

end Presence

end Module

end Blueprint.ServerCode
