import Blueprint.Generators
import Blueprint.Proofs.Naming

namespace Blueprint.Generation

/-- A dotted name as a path. -/
def dotsToSlashes (module : List Char) : List Char := module.map fun c => if c = '.' then '/' else c

/-- The files that a module of the server may be: a module itself, or a package. -/
def serverFiles (module : String) : List String :=
  let path := "server/" ++ String.ofList (dotsToSlashes module.toList)
  [path ++ ".py", path ++ "/__init__.py"]

/-- The directory of a path. -/
def parent (path : List Char) : List Char := ((path.reverse.dropWhile (· != '/')).drop 1).reverse

/-- Follows a relative specifier from a directory. -/
def follow (directory : List Char) : List Char → List Char
  | '.' :: '/' :: rest => follow directory rest
  | '.' :: '.' :: '/' :: rest => follow (parent directory) rest
  | ['.', '.'] => parent directory
  | rest => directory ++ '/' :: rest

/-- The files that a specifier may be in the file at a path: a module itself, or an index. -/
def clientFiles (path specifier : String) : List String :=
  let followed := String.ofList (follow (parent path.toList) specifier.toList)
  [followed ++ ".ts", followed ++ "/index.ts"]

private theorem parent_append {name : List Char} (single : '/' ∉ name) (directory : List Char) :
    parent (directory ++ '/' :: name) = directory := by
  have apart : ∀ c ∈ name.reverse, (c != '/') = true := by
    intro c listed
    rw [bne_iff_ne]
    exact fun same => single (same ▸ List.mem_reverse.mp listed)
  rw [parent, List.reverse_append, List.reverse_cons, List.append_assoc,
    List.dropWhile_append_of_pos apart]
  simp

theorem follow_of_head {name : List Char} (undotted : name.head? ≠ some '.')
    (directory : List Char) : follow directory name = directory ++ '/' :: name := by
  unfold follow
  split
  · exact absurd rfl undotted
  · exact absurd rfl undotted
  · exact absurd rfl undotted
  · rfl

theorem follow_up (directory rest : List Char) :
    follow directory ("../".toList ++ rest) = follow (parent directory) rest := rfl

section Names

variable (name : String)

private theorem dot_not_mem_joined {joint : Char} (other : '.' ≠ joint) :
    '.' ∉ [joint].intercalate (Naming.lowerWords name.toList) := by
  intro inside
  rcases Naming.mem_of_mem_joined (by decide) inside with between | ⟨_, apart⟩
  · exact other between
  · revert apart
    decide

theorem dot_not_mem_snakeCase : '.' ∉ (snakeCase name).toList := by
  rw [snakeCase, String.toList_ofList]
  exact dot_not_mem_joined name (by decide)

theorem dot_not_mem_kebabCase : '.' ∉ (kebabCase name).toList := by
  rw [kebabCase, String.toList_ofList]
  exact dot_not_mem_joined name (by decide)

theorem blank_not_mem_snakeCase : ' ' ∉ (snakeCase name).toList := by
  intro inside
  rw [snakeCase, String.toList_ofList] at inside
  rcases Naming.mem_of_mem_joined (by decide) inside with between | ⟨_, apart⟩
  · exact absurd between (by decide)
  · revert apart
    decide

theorem head?_kebabCase : (kebabCase name).toList.head? ≠ some '.' :=
  fun dotted => dot_not_mem_kebabCase name (List.mem_of_head? dotted)

private theorem dotsToSlashes_of_not_mem {module : List Char} (undotted : '.' ∉ module) :
    dotsToSlashes module = module := by
  have kept : ∀ c ∈ module, (if c = '.' then '/' else c) = id c := by
    intro c listed
    have apart : c ≠ '.' := fun dot => undotted (dot ▸ listed)
    exact if_neg apart
  rw [dotsToSlashes, List.map_congr_left kept, List.map_id]

end Names

section Stems

theorem not_mem_joined {sign joint : Char} (isSign : Text.IsSign sign) (apart : sign ≠ joint)
    (other : Text.isWord sign = false) {name : String}
    (worded : name.toList.all Text.isWord = true) :
    sign ∉ [joint].intercalate (Naming.lowerWords name.toList) := by
  intro inside
  rcases Naming.mem_of_mem_joined isSign inside with between | ⟨own, _⟩
  · exact apart between
  · exact Bool.false_ne_true (other.symm.trans (List.all_eq_true.mp worded sign own))

theorem all_withoutEnding {accepts : Char → Bool} {name : String}
    (all : name.toList.all accepts = true) (ending : String) :
    (ViewName.withoutEnding ending name).toList.all accepts = true := by
  unfold ViewName.withoutEnding
  simp only
  split
  · rw [String.toList_ofList, List.all_eq_true]
    exact fun c listed => List.all_eq_true.mp all c (List.mem_of_mem_take listed)
  · exact all

variable {name : String} (worded : name.toList.all Text.isWord = true)

include worded

theorem slash_not_mem_snakeCase : '/' ∉ (snakeCase name).toList := by
  rw [snakeCase, String.toList_ofList]
  exact not_mem_joined (by decide) (by decide) (by decide) worded

theorem slash_not_mem_kebabCase : '/' ∉ (kebabCase name).toList := by
  rw [kebabCase, String.toList_ofList]
  exact not_mem_joined (by decide) (by decide) (by decide) worded

theorem slash_not_mem_pageStem : '/' ∉ (ViewName.pageStem name).toList :=
  slash_not_mem_kebabCase (all_withoutEnding worded "Page")

theorem slash_not_mem_componentStem : '/' ∉ (ViewName.componentStem name).toList :=
  slash_not_mem_kebabCase (all_withoutEnding worded "Component")

theorem quote_not_mem_pageStem : '\'' ∉ (ViewName.pageStem name).toList := by
  rw [ViewName.pageStem, kebabCase, String.toList_ofList]
  exact not_mem_joined (by decide) (by decide) (by decide) (all_withoutEnding worded "Page")

/-- The plural of a name is a word if the name is. -/
theorem all_pluralize : (pluralize name).toList.all Text.isWord = true := by
  have append {ending : List Char} (letters : ending.all Text.isWord = true) :
      (name.toList ++ ending).all Text.isWord = true := by
    rw [List.all_append, worded, letters]
    rfl
  rw [pluralize, String.toList_ofList]
  unfold Naming.plural
  split
  · exact worded
  · split
    · split
      · exact append (by decide)
      · rw [List.all_append, Bool.and_eq_true]
        refine ⟨List.all_eq_true.mpr fun c listed => ?_, by decide⟩
        exact List.all_eq_true.mp worded c (List.dropLast_subset _ listed)
    all_goals exact append (by decide)

end Stems

/-- A module in a package of the server is a file in the directory of the package. -/
theorem mem_serverFiles {package directory : String}
    (same : "server/" ++ String.ofList (dotsToSlashes package.toList) = directory) (name : String) :
    directory ++ snakeCase name ++ ".py" ∈ serverFiles (package ++ snakeCase name) := by
  have parts : dotsToSlashes (package ++ snakeCase name).toList =
      dotsToSlashes package.toList ++ (snakeCase name).toList := by
    have kept := dotsToSlashes_of_not_mem (dot_not_mem_snakeCase name)
    rw [String.toList_append, dotsToSlashes, List.map_append, ← dotsToSlashes, ← dotsToSlashes, kept]
  rw [serverFiles, parts, String.ofList_append, String.ofList_toList, ← String.append_assoc, same]
  exact List.mem_cons_self

section Specifiers

variable {directory file : String}

theorem parent_path (single : '/' ∉ file.toList) (directory : String) :
    parent (directory ++ "/" ++ file).toList = directory.toList := by
  have parts : (directory ++ "/" ++ file).toList = directory.toList ++ '/' :: file.toList := by
    simp
  rw [parts, parent_append single]

private theorem clientFiles_eq (single : '/' ∉ file.toList) (specifier : String) :
    clientFiles (directory ++ "/" ++ file) specifier =
      [String.ofList (follow directory.toList specifier.toList) ++ ".ts",
        String.ofList (follow directory.toList specifier.toList) ++ "/index.ts"] := by
  rw [clientFiles, parent_path single]

/-- A specifier that starts with a lead is followed to what lies there. -/
def Leads (directory lead target : String) : Prop :=
  ∀ rest : List Char, rest.head? ≠ some '.' →
    follow directory.toList (lead.toList ++ rest) = target.toList ++ rest

theorem Leads.mem_clientFiles {lead target rest : String} (leads : Leads directory lead target)
    (single : '/' ∉ file.toList) (undotted : rest.toList.head? ≠ some '.') :
    target ++ rest ++ ".ts" ∈ clientFiles (directory ++ "/" ++ file) (lead ++ rest) := by
  rw [clientFiles_eq single, String.toList_append, leads rest.toList undotted,
    String.ofList_append, String.ofList_toList, String.ofList_toList]
  exact List.mem_cons_self

theorem leads_beside (directory : String) : Leads directory "./" (directory ++ "/") := by
  intro rest undotted
  have step : follow directory.toList ("./".toList ++ rest) = follow directory.toList rest := rfl
  rw [step, follow_of_head undotted]
  simp

private theorem leads_above {stem : String} (single : '/' ∉ stem.toList) (directory : String) :
    Leads (directory ++ "/" ++ stem) "../" (directory ++ "/") := by
  intro rest undotted
  rw [follow_up, parent_path single, follow_of_head undotted]
  simp

private theorem leads_twice_above {stem folder : String} (single : '/' ∉ stem.toList)
    (alone : '/' ∉ folder.toList) (directory : String) :
    Leads (directory ++ "/" ++ folder ++ "/" ++ stem) "../../" (directory ++ "/") := by
  intro rest undotted
  have parts : "../../".toList ++ rest = "../".toList ++ ("../".toList ++ rest) := rfl
  rw [parts, follow_up, follow_up, parent_path single, parent_path alone, follow_of_head undotted]
  simp

/-- A lead may go on into a directory. -/
theorem Leads.below {lead target way place : String} (leads : Leads directory lead target)
    (folder : String) (named : folder.toList.head?.isSome ∧ folder.toList.head? ≠ some '.')
    (further : lead ++ folder = way) (there : target ++ folder = place) :
    Leads directory way place := by
  intro rest _
  have front : (folder.toList ++ rest).head? ≠ some '.' := by
    have some : folder.toList ≠ [] := List.isSome_head?.mp named.1
    rw [List.head?_append_of_ne_nil _ some]
    exact named.2
  rw [← further, ← there, String.toList_append, List.append_assoc, leads _ front,
    String.toList_append, List.append_assoc]

end Specifiers

/-- The part of a component's module behind the name of all components. -/
def componentPart (name : String) : String :=
  ViewName.componentStem name ++ "/" ++ ViewName.componentStem name ++ ".component"

/-- The file of a component that is not the root of the application. -/
def componentFile (name : String) : String :=
  "client/src/app/components/" ++ componentPart name ++ ".ts"

theorem module_componentModule (place : ClientCode.Place) (name : String) :
    place.module (Markup.componentModule name) = place.components ++ componentPart name := by
  have parts : (Markup.componentModule name).toList =
      ClientCode.componentsAlias.toList ++ (componentPart name).toList := by
    delta Markup.componentModule
    simp only [componentPart, ClientCode.componentsAlias, toString, String.toList_append,
      List.append_assoc]
  rw [ClientCode.Place.module, parts, Text.after?_append]
  exact congrArg (place.components ++ ·) String.ofList_toList

/-- A name in front keeps what follows from starting with a dot. -/
theorem head?_kebabCase_append (name : String) {rest : String} (undotted : rest.toList.head? ≠ some '.') :
    (kebabCase name ++ rest).toList.head? ≠ some '.' := by
  have stem := head?_kebabCase name
  rw [String.toList_append]
  cases chars : (kebabCase name).toList with
  | nil => simpa using undotted
  | cons first others =>
    rw [chars] at stem
    simpa using stem

theorem head?_componentPart (name : String) : (componentPart name).toList.head? ≠ some '.' := by
  rw [componentPart, String.append_assoc, String.append_assoc]
  apply head?_kebabCase_append
  simp

/-- The file of a view reaches business objects, components and pages through its ways to them. -/
structure Reaches (path lead : String) (place : ClientCode.Place) : Prop where
  objects : ∀ name, Client.businessObjectPath name ∈ clientFiles path (lead ++ kebabCase name)
  components : ∀ name, componentFile name ∈
    clientFiles path (place.module (Markup.componentModule name))
  pages : "client/src/app/pages/index.ts" ∈ clientFiles path place.pages

theorem reaches_of_leads {directory file lead : String} {place : ClientCode.Place}
    (single : '/' ∉ file.toList)
    (objects : Leads directory lead (Client.businessObjectsDirectory ++ "/"))
    (components : Leads directory place.components "client/src/app/components/")
    (pages : follow directory.toList place.pages.toList = "client/src/app/pages".toList) :
    Reaches (directory ++ "/" ++ file) lead place where
  objects := fun name => objects.mem_clientFiles single (head?_kebabCase name)
  components := by
    intro name
    rw [module_componentModule]
    exact components.mem_clientFiles single (head?_componentPart name)
  pages := by
    rw [clientFiles_eq single, pages, String.ofList_toList]
    exact List.mem_cons_of_mem _ (List.mem_singleton.mpr (by decide))

section Views

open Client ViewName

/-- The file of a page lies two directories below the application. -/
theorem reaches_page {name : String} (single : '/' ∉ (pageStem name).toList) :
    Reaches (Client.pageBase name ++ ".ts") pageLead pagePlace := by
  have place : Client.pageBase name ++ ".ts" = "client/src/app" ++ "/" ++ "pages" ++ "/" ++
      pageStem name ++ "/" ++ (pageStem name ++ ".page.ts") := by
    delta Client.pageBase
    simp [String.append_assoc]
  have up := leads_twice_above single (by decide : '/' ∉ "pages".toList) "client/src/app"
  rw [place]
  apply reaches_of_leads
  · simpa using single
  · exact up.below "business-objects/" (by decide) (by decide) (by decide)
  · exact up.below "components/" (by decide) (by decide) (by decide)
  · have above := parent_path single ("client/src/app" ++ "/" ++ "pages")
    exact above.trans (by decide)

/-- The root of the application lies beside the directories of the others. -/
theorem reaches_root {name : String} (isRoot : isAppComponent name = true) :
    Reaches (Client.componentBase name ++ ".ts") (componentLead true) (componentPlace true) := by
  have place : Client.componentBase name ++ ".ts" = "client/src/app" ++ "/" ++ "app.component.ts" := by
    rw [Client.componentBase, if_pos isRoot]
    decide
  have beside := leads_beside "client/src/app"
  rw [place]
  apply reaches_of_leads
  · decide
  · exact beside.below "business-objects/" (by decide) (by decide) (by decide)
  · exact beside.below "components/" (by decide) (by decide) (by decide)
  · decide

/-- Any other component lies two directories below it. -/
theorem reaches_component {name : String} (single : '/' ∉ (componentStem name).toList)
    (other : isAppComponent name = false) :
    Reaches (Client.componentBase name ++ ".ts") (componentLead false) (componentPlace false) := by
  have place : Client.componentBase name ++ ".ts" = "client/src/app" ++ "/" ++ "components" ++ "/" ++
      componentStem name ++ "/" ++ (componentStem name ++ ".component.ts") := by
    rw [Client.componentBase, other, if_neg Bool.false_ne_true]
    simp [String.append_assoc]
  have up := leads_twice_above single (by decide : '/' ∉ "components".toList)
    "client/src/app"
  rw [place]
  apply reaches_of_leads
  · simpa using single
  · exact up.below "business-objects/" (by decide) (by decide) (by decide)
  · exact leads_above single ("client/src/app" ++ "/" ++ "components")
  · exact (up "pages".toList (by decide)).trans (by decide)

end Views

end Blueprint.Generation
