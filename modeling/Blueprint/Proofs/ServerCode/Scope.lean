import Mathlib.Data.List.TakeWhile
import Blueprint.Proofs.OrderedMap
import Blueprint.Proofs.Server.ModuleImports
import Blueprint.Text.Replace

/-!
The names of a module while it runs. Its statements run one after another, and each gives a meaning to
the names that it imports or defines; a name has the meaning that it was given last. The body of a
function runs later: its names have the meanings of the whole module.
-/

namespace Blueprint.ServerCode

/-- What a name of a module stands for: what an import binds to it, or what another statement makes of
it. -/
inductive Meaning where
  | imported (binding : Binding)
  | defined (statement : Statement)

/-- The module and the name in it that a meaning was imported from. -/
def Meaning.origin? : Meaning → Option (String × String)
  | imported (.ofName source 0 name) => some (source, name.name)
  | _ => none

/-- The module of a package that an import loads. The package has it under its own name from then on. -/
def Binding.loaded? (package : String) (binding : Binding) : Option Binding :=
  (Text.after? (package ++ ".").toList binding.module.toList).map fun rest =>
    let own := String.ofList (rest.takeWhile (· != '.'))
    .ofModule ⟨package ++ "." ++ own, some own⟩

theorem Binding.module_ofName (source : String) (name : Alias) :
    (Binding.ofName source 0 name).module = source := by
  rw [Binding.module, List.replicate_zero, String.ofList_nil, String.empty_append]

/-- An import from a module of a package binds this module in the package. -/
theorem Binding.loaded?_ofName {package module : String} (plain : '.' ∉ module.toList)
    (name : Alias) : Binding.loaded? package (.ofName (package ++ "." ++ module) 0 name) =
      some (.ofModule ⟨package ++ "." ++ module, some module⟩) := by
  have source : (Binding.ofName (package ++ "." ++ module) 0 name).module.toList =
      (package ++ ".").toList ++ module.toList := by
    rw [Binding.module_ofName, String.toList_append]
  have whole : module.toList.takeWhile (· != '.') = module.toList :=
    List.takeWhile_eq_self_iff.mpr fun c inside =>
      bne_iff_ne.mpr fun dot => plain (dot ▸ inside)
  rw [loaded?, source, Text.after?_append, Option.map_some, whole, String.ofList_toList]

/-- The names that an import gives a meaning to, in the code of a package or of another module. -/
def Binding.scope (package : Option String) (binding : Binding) : List (String × Meaning) :=
  ((package.bind binding.loaded?).toList ++ [binding]).map fun bound => (bound.name, .imported bound)

namespace Statement

/-- The names that a statement outside of blocks defines. -/
def definedNames : Statement → List String
  | function _ name _ _ _ _ | classDef name _ _ _ _ => [name]
  | assign targets _ => targets.filterMap fun
    | .name name => some name
    | _ => none
  | annotate (.name name) _ _ (some _) => [name]
  | _ => []

/-- The names that a statement outside of blocks gives a meaning to. -/
def scope (package : Option String) (statement : Statement) : List (String × Meaning) :=
  statement.bindings.flatMap (Binding.scope package) ++
    statement.definedNames.map fun name => (name, Meaning.defined statement)

theorem scope_of_definedNames {statement : Statement} (quiet : statement.definedNames = []) :
    statement.scope none = statement.bindings.map fun binding =>
      (binding.name, .imported binding) := by
  rw [scope, quiet, List.map_nil, List.append_nil, List.map_eq_flatMap]
  rfl

@[simp] theorem scope_importing (source : String) (names : List String) :
    (importing source names).scope none = names.map fun name =>
      (name, .imported (.ofName source 0 (.plain name))) := by
  rw [scope_of_definedNames rfl, importing, bindings, List.map_map, List.map_map]
  rfl

/-- In a package the module that is imported from may be bound as well. -/
theorem scope_importingAs_of_package (package source name bound : String) :
    (importingAs source name bound).scope (some package) =
      ((Binding.loaded? package (.ofName source 0 ⟨name, some bound⟩)).toList.map fun loaded =>
        (loaded.name, Meaning.imported loaded)) ++
      [(bound, Meaning.imported (.ofName source 0 ⟨name, some bound⟩))] := by
  have quiet : (importingAs source name bound).definedNames = [] := rfl
  have binds : (importingAs source name bound).bindings = [.ofName source 0 ⟨name, some bound⟩] := rfl
  rw [scope, quiet, binds, List.map_nil, List.append_nil, List.flatMap_singleton, Binding.scope,
    List.map_append]
  rfl

end Statement

section LastWith

variable {α β γ : Type} [DecidableEq β] {key : α → β} {items : List α} {item : α} {wanted : β}

/-- The last of some items with a key. -/
def lastWith (key : α → β) (items : List α) (wanted : β) : Option α :=
  items.reverse.find? fun item => key item == wanted

private theorem lastWith_cons : lastWith key (item :: items) wanted =
    (lastWith key items wanted).or (if key item = wanted then some item else none) := by
  rw [lastWith, List.reverse_cons, List.find?_append, List.find?_singleton]
  simp only [beq_iff_eq]
  rfl

theorem lastWith_eq_none_iff :
    lastWith key items wanted = none ↔ ∀ item ∈ items, key item ≠ wanted := by
  simp [lastWith]

theorem of_lastWith (found : lastWith key items wanted = some item) :
    item ∈ items ∧ key item = wanted := by
  have fits := List.find?_some found
  exact ⟨List.mem_reverse.mp (List.mem_of_find?_eq_some found), eq_of_beq fits⟩

theorem exists_lastWith (listed : item ∈ items) : ∃ last, lastWith key items (key item) = some last :=
  Option.ne_none_iff_exists'.mp fun none => lastWith_eq_none_iff.mp none item listed rfl

theorem lastWith_of_nodup (distinct : (items.map key).Nodup) (listed : item ∈ items) :
    lastWith key items (key item) = some item := by
  obtain ⟨last, found⟩ : ∃ last, lastWith key items (key item) = some last := exists_lastWith listed
  obtain ⟨inside, same⟩ := of_lastWith found
  rw [found, List.inj_on_of_nodup_map distinct inside listed same]

theorem nodup_of_lastWith {value : α → γ}
    (distinct : (items.map fun item => (lastWith key items (key item)).map value).Nodup) :
    (items.map key).Nodup := by
  have told : (items.map key).map (fun wanted => (lastWith key items wanted).map value) =
      items.map fun item => (lastWith key items (key item)).map value := List.map_map
  exact .of_map _ (told ▸ distinct)

end LastWith

/-- What a name stands for when some statements have run. -/
def meaning? (package : Option String) (body : List Statement) (name : String) : Option Meaning :=
  OrderedMap.last? name (body.flatMap (Statement.scope package))

section Meanings

variable {package : Option String} {name : String} {body front back : List Statement}

theorem meaning?_append (package : Option String) (front back : List Statement) (name : String) :
    meaning? package (front ++ back) name =
      (meaning? package back name).or (meaning? package front name) := by
  rw [meaning?, List.flatMap_append, OrderedMap.last?_append]
  rfl

theorem meaning?_eq_none_iff : meaning? package body name = none ↔
    ∀ statement ∈ body, name ∉ (statement.scope package).map Prod.fst := by
  rw [meaning?, OrderedMap.last?_eq_none_iff, List.map_flatMap]
  simp

theorem meaning?_singleton {statement : Statement} {own : String} {meaning : Meaning}
    (only : statement.scope package = [(own, meaning)]) :
    meaning? package [statement] name = if own = name then some meaning else none := by
  rw [meaning?, List.flatMap_singleton, only, OrderedMap.last?_singleton]

/-- Where statements that are made of items give a name a meaning each for a key of its own, the last
item with this key decides. -/
theorem meaning?_map {α : Type} {items : List α} {make : α → Statement} {key : α → String}
    {value : α → Meaning}
    (each : ∀ item ∈ items, meaning? package [make item] name =
      if key item = name then some (value item) else none) :
    meaning? package (items.map make) name = (lastWith key items name).map value := by
  induction items with
  | nil => rfl
  | cons item items ih =>
    rw [List.forall_mem_cons] at each
    rw [List.map_cons, ← List.singleton_append, meaning?_append, ih each.2, each.1, lastWith_cons,
      Option.map_or]
    split <;> rfl

end Meanings

end Blueprint.ServerCode
