import Blueprint.Proofs.Server.BehaviorMethods
import Blueprint.Proofs.Server.Tables
import Blueprint.Proofs.ServerCode.Editing
import Blueprint.Server.AppBehavior

namespace Blueprint.ServerCode

/-- The builtin types that hints use. -/
def builtinTypes : List String := ["str", "int", "float", "bool", "dict", "list"]

mutual

/-- The names in a type hint; a quoted reference has none. -/
def Expr.typeNames : Expr → List String
  | .name id => [id]
  | .attribute value _ => value.typeNames
  | .subscript value index => value.typeNames ++ index.typeNames
  | .binary left _ right => left.typeNames ++ right.typeNames
  | .tuple items => Expr.allTypeNames items
  | .list items => Expr.allTypeNames items
  | _ => []

def Expr.allTypeNames : List Expr → List String
  | [] => []
  | item :: items => item.typeNames ++ Expr.allTypeNames items

end

namespace Statement

/-- The type hints of a function: those of its parameters and that of its result. -/
def hints : Statement → List Expr
  | function _ _ params returns _ _ => params.all.filterMap Param.hint? ++ returns.toList
  | _ => []

/-- The names in the type hints of a function. -/
def hintNames (statement : Statement) : List String := statement.hints.flatMap Expr.typeNames

end Statement

/-- A function of a module or a method of one of its classes. -/
def Module.Defines (module : Module) (function : Statement) : Prop :=
  function ∈ module.body ∨ ∃ owner ∈ module.body, function ∈ Module.classBody owner

end Blueprint.ServerCode

namespace Blueprint.Server

open Design ServerCode Generation BusinessObject

section Types

/-- A type has to import those of its names that are not builtin, and nothing else. -/
def NeedsNames (type : ServerType) : Prop :=
  ∀ name, name ∈ (Expr.ofType type).typeNames ∧ name ∉ builtinTypes ↔
    ∃ source, type.requiredImport? = some (source, name)

private theorem needsNames_ofScalar (scalar : Scalar) : NeedsNames (ServerType.ofScalar scalar) := by
  intro name
  cases scalar <;>
    simp [ServerType.ofScalar, ServerType.any, ServerType.requiredImport?, ServerType.item,
      Expr.ofType, Expr.nothing, Expr.typeNames, Expr.allTypeNames, builtinTypes] <;> grind

private theorem needsNames_forward (entity : String) : NeedsNames (.forward entity) := by
  intro name
  simp [ServerType.requiredImport?, ServerType.item, Expr.ofType, Expr.str, Expr.typeNames]

/-- A list has the needs of its items, which are no lists themselves. -/
theorem NeedsNames.list {item : ServerType} (needs : NeedsNames item) (flat : item.item = item) :
    NeedsNames (.list item) := by
  intro name
  have same : (ServerType.list item).requiredImport? = item.requiredImport? := by
    rw [ServerType.requiredImport?, ServerType.requiredImport?, flat]
    rfl
  rw [same, ← needs name]
  simp only [Expr.ofType, Expr.listOf, Expr.typeNames, List.singleton_append, List.mem_cons]
  constructor
  · rintro ⟨rfl | inside, needed⟩
    · exact absurd (by decide) needed
    · exact ⟨inside, needed⟩
  · rintro ⟨inside, needed⟩
    exact ⟨Or.inr inside, needed⟩

theorem needsNames_ofName (entities : List String) (type : String) (array : Bool) :
    NeedsNames (ServerType.ofName entities type array) := by
  have item : ∃ item, ServerType.ofName entities type array =
      (if array then .list item else item) ∧ item.item = item ∧ NeedsNames item := by
    refine ⟨_, rfl, ?_⟩
    cases Scalar.ofName? type with
    | some scalar => exact ⟨by cases scalar <;> rfl, needsNames_ofScalar scalar⟩
    | none =>
      simp only
      split
      · exact ⟨rfl, needsNames_forward type⟩
      · exact ⟨rfl, needsNames_ofScalar .any⟩
  obtain ⟨item, same, flat, needs⟩ := item
  rw [same]
  cases array with
  | true => exact needs.list flat
  | false => exact needs

end Types

/-- The types in the signature of a behavior: those of the parameters that callers give, and that of
its result. -/
def signatureTypes (entities : List String) (behavior : ActiveBehavior) : List ServerType :=
  (behavior.given.filterMap Parameter.type ++ behavior.returnType?.toList).map fun type =>
    ServerType.ofName entities type.name type.array

section Signature

variable {entities : List String} {behavior : ActiveBehavior} {params : List Param}

theorem hints_of_params (receiver : List Param) (bare : receiver.filterMap Param.hint? = [])
    (success : behaviorParams behavior.name entities false behavior.given = .ok params)
    (isAsync : Bool) (name : String) (decorators : List Expr) (body : List Statement) :
    (Statement.function isAsync name (.of (receiver ++ params)) (returnsOf behavior entities)
      decorators body).hints = (signatureTypes entities behavior).map Expr.ofType := by
  rw [Statement.hints, Params.all_of, List.filterMap_append, bare, (behaviorParams_eq_ok success).2,
    signatureTypes, List.map_append, List.map_append, List.map_map, List.nil_append, returnsOf]
  cases behavior.returnType? with
  | none => rfl
  | some type => rfl

/-- A name of a signature that is not builtin is one that its types have to import. -/
theorem mem_hintNames_iff {function : Statement}
    (hints : function.hints = (signatureTypes entities behavior).map Expr.ofType) (name : String) :
    name ∈ function.hintNames ∧ name ∉ builtinTypes ↔
      ∃ type ∈ signatureTypes entities behavior, ∃ source,
        type.requiredImport? = some (source, name) := by
  have needs (type : ServerType) (listed : type ∈ signatureTypes entities behavior) :
      NeedsNames type := by
    obtain ⟨written, _, rfl⟩ := List.mem_map.mp listed
    exact needsNames_ofName entities written.name written.array
  rw [Statement.hintNames, hints, List.flatMap_map, List.mem_flatMap]
  constructor
  · rintro ⟨⟨type, listed, inside⟩, needed⟩
    exact ⟨type, listed, (needs type listed name).mp ⟨inside, needed⟩⟩
  · rintro ⟨type, listed, required⟩
    obtain ⟨inside, needed⟩ := (needs type listed name).mpr required
    exact ⟨⟨type, listed, inside⟩, needed⟩

end Signature

/-- A behavior is generated: it becomes a method of its entity's business object, or a module of its
own. The authors are those whose imports the module takes over. -/
inductive Generates (registry : Registry) (behavior : ActiveBehavior) (produced : Produced) :
    (authors : List ActiveBehavior) → Prop where
  | object {declared : Declared Entity} {behaviors : List ActiveBehavior}
      (success : (generateBusinessObject declared registry).outcome = .ok produced)
      (attached : (ActiveBehavior.ofEntity registry declared.unit).outcome = .ok behaviors)
      (member : behavior ∈ behaviors) (callable : behavior.type.isMethod = true) :
      Generates registry behavior produced behaviors
  | app {declared : Declared Behavior} {type : BehaviorType} {function : Function}
      (success : (generateAppBehavior declared registry).outcome = .ok produced)
      (typed : declared.unit.type? = some type)
      (written : declared.unit.function = some function) (ofProject : type.isOfProject = true)
      (same : behavior = declared.unit.active type function) :
      Generates registry behavior produced [behavior]

/-- An author asks for a name, by an import or as a business object. -/
def AsksFor (authors : List ActiveBehavior) (name : String) : Prop :=
  (∃ binding, ByAuthor authors binding ∧ binding.name = name) ∨
    ∃ author ∈ authors, ∃ used, usedBusinessObjects author none = .ok used ∧
      ∃ object ∈ used, identifier object = name

/-- The names that types have to import. -/
def importedTypes : List String := ["date", "datetime", "Any"]

section Object

variable {registry : Registry} {behavior : ActiveBehavior} {entity : Entity}
  {dataSource : String} {module : Module} {behaviors : List ActiveBehavior}

theorem businessObject_defines
    (success : (businessObject registry entity dataSource).outcome = .ok module)
    (attached : (ActiveBehavior.ofEntity registry entity).outcome = .ok behaviors)
    (member : behavior ∈ behaviors) (callable : behavior.type.isMethod = true) :
    ∃ function, module.Defines function ∧
      function.functionName? = some (identifier behavior.function.name) ∧
      function.hints = (signatureTypes registry.entityNames behavior).map Expr.ofType := by
  obtain ⟨others, splices, added, again, ended, _⟩ := businessObject_methods success
  obtain rfl := Except.ok.inj (attached.symm.trans again)
  obtain ⟨function, inside, make, number, built, rfl⟩ := ended.exists_method member callable
  obtain ⟨params, lead, read, _, shape⟩ := behaviorMethod_function built
  refine ⟨make [Module.placeholder number], Or.inr ⟨_, List.mem_of_find?_eq_some ended.found, ?_⟩,
    ?_, ?_⟩
  · exact List.mem_append_right _ inside
  · rw [shape]
    rfl
  · rw [shape]
    exact hints_of_params [_] rfl read _ _ _ _

/-- A business object imports anything of its own accord, but neither dates nor times. -/
theorem businessObject_binds
    (success : (businessObject registry entity dataSource).outcome = .ok module)
    (attached : (ActiveBehavior.ofEntity registry entity).outcome = .ok behaviors) {name : String}
    (needed : name ∈ importedTypes) (unasked : ¬ AsksFor behaviors name) :
    module.Binds name ↔ name = "Any" := by
  obtain ⟨others, _, _, again, _, growth⟩ := businessObject_methods success
  obtain rfl := Except.ok.inj (attached.symm.trans again)
  have own : (skeleton entity.name (.name (Identity.of entity).type.serverName)
      (Identity.of entity).name (snakeCase dataSource)).bindings.map Binding.name =
      ["Any", "Optional", "NotFoundError", "_data_source"] := rfl
  constructor
  · intro bound
    obtain ⟨binding, listed, rfl⟩ := List.mem_map.mp bound
    rcases growth.introduced binding listed with early | authored
    · have common : ∀ name ∈ importedTypes,
          name ∈ ["Any", "Optional", "NotFoundError", "_data_source"] → name = "Any" := by decide
      exact common _ needed (own ▸ List.mem_map_of_mem early)
    · exact absurd (Or.inl ⟨binding, authored, rfl⟩) unasked
  · rintro rfl
    have early : "Any" ∈ ["Any", "Optional", "NotFoundError", "_data_source"] :=
      List.mem_cons_self
    obtain ⟨binding, early, same⟩ := List.mem_map.mp (own ▸ early)
    exact List.mem_map.mpr ⟨binding, growth.retains binding early, same⟩

end Object

section App

variable {registry : Registry} {behavior : ActiveBehavior} {module : Module}

/-- What the module of a project's behavior may import beyond its own imports. -/
def AppImport (behavior : ActiveBehavior) (binding : Binding) : Prop :=
  ByAuthor [behavior] binding ∨
    (∃ used, usedBusinessObjects behavior none = .ok used ∧ ∃ name ∈ used,
      binding = .ofName (businessObjectModule name) 0 (.plain (identifier name))) ∨
    binding = .ofName "fastapi" 0 (.plain "Body")

/-- The module of a project's behavior holds the function of the behavior, and an endpoint if clients
may call it. Its imports are its own, those of its author and the business objects it uses. -/
theorem appBehavior_module (success : (appBehavior registry behavior).outcome = .ok module) :
    ∃ params, behaviorParams behavior.name registry.entityNames false behavior.function.params =
        .ok params ∧
      module.code = (AppBehavior.skeleton behavior params
        (returnsOf behavior registry.entityNames)).code ++
          (if behavior.type == .app then [AppBehavior.endpoint behavior] else []) ∧
      (AppBehavior.skeleton behavior params (returnsOf behavior registry.entityNames)).ImportGrowth
        module (AppImport behavior) := by
  unfold appBehavior at success
  obtain ⟨params, read, success⟩ := Step.bind_eq_ok_iff.mp success
  obtain ⟨_, _, success⟩ := Step.bind_eq_ok_iff.mp success
  obtain ⟨_, _, success⟩ := Step.bind_eq_ok_iff.mp success
  obtain ⟨statements, asked, success⟩ := Step.bind_eq_ok_iff.mp success
  obtain ⟨authored, merged, success⟩ := Step.bind_eq_ok_iff.mp success
  obtain ⟨used, uses, success⟩ := Step.bind_eq_ok_iff.mp success
  obtain ⟨imports, built, success⟩ := Step.bind_eq_ok_iff.mp success
  obtain ⟨linked, added, success⟩ := Step.bind_eq_ok_iff.mp success
  have code := (Module.code_addImportStatements added).trans (Module.code_addImportStatements merged)
  have growth : (AppBehavior.skeleton behavior params
      (returnsOf behavior registry.entityNames)).ImportGrowth linked (AppImport behavior) := by
    refine ((Module.addImportStatements_growth merged).weaken ?_).trans
      ((Module.addImportStatements_growth added).weaken ?_)
    · exact fun binding bound => Or.inl ⟨behavior, List.mem_cons_self, statements, asked, bound⟩
    · rintro binding ⟨statement, listed, bound⟩
      obtain ⟨name, member, made⟩ := exists_of_mem_mapM built listed
      obtain ⟨_, _, made⟩ := bind_eq_ok_iff.mp made
      cases made
      exact Or.inr (Or.inl ⟨used, uses, name, member, List.mem_singleton.mp bound⟩)
  refine ⟨params, read, ?_⟩
  split at success
  · rename_i isApp
    obtain ⟨ended, endpoint, success⟩ := Step.bind_eq_ok_iff.mp success
    obtain ⟨_, _, success⟩ := Step.bind_eq_ok_iff.mp success
    cases success
    obtain ⟨_, _, endpoint⟩ := bind_eq_ok_iff.mp endpoint
    cases endpoint
    rw [if_pos isApp]
    constructor
    · rw [Module.code, Module.body_insertFunction_none, List.filter_append, ← Module.code,
        Module.code_mergeImport, code]
      rfl
    · refine (growth.trans ((Module.mergeImport_growth linked "fastapi" ["Body"]).weaken ?_)).trans
        (.of_eq ?_)
      · rintro binding ⟨name, listed, rfl⟩
        rw [List.mem_singleton.mp listed]
        exact Or.inr (Or.inr rfl)
      · simp [Module.bindings, AppBehavior.endpoint, Statement.bindings]
  · rename_i notApp
    cases success
    rw [if_neg notApp, List.append_nil]
    exact ⟨code, growth⟩

/-- The function of a project's behavior with its hints. -/
theorem appBehavior_defines (success : (appBehavior registry behavior).outcome = .ok module)
    (whole : behavior.given = behavior.function.params) :
    ∃ function, module.Defines function ∧
      function.functionName? = some (identifier behavior.function.name) ∧
      function.hints = (signatureTypes registry.entityNames behavior).map Expr.ofType := by
  obtain ⟨params, read, code, _⟩ := appBehavior_module success
  rw [← whole] at read
  refine ⟨.function behavior.function.async (identifier behavior.function.name) (.of params)
    (returnsOf behavior registry.entityNames) [] [Module.placeholder 0], Or.inl ?_, rfl, ?_⟩
  · have listed : Statement.function behavior.function.async (identifier behavior.function.name)
        (.of params) (returnsOf behavior registry.entityNames) [] [Module.placeholder 0] ∈
          module.code := by
      rw [code]
      apply List.mem_append_left
      exact List.mem_filter.mpr ⟨List.mem_append_right _ List.mem_cons_self, rfl⟩
    exact (List.mem_filter.mp listed).1
  · exact hints_of_params [] rfl read _ _ _ _

theorem mem_bindings_appSkeleton {params : List Param} {returns : Option Expr} {binding : Binding}
    (bound : binding ∈ (AppBehavior.skeleton behavior params returns).bindings) :
    binding = .ofModule (.plain "logging") ∨ binding = .ofName "fastapi" 0 (.plain "APIRouter") := by
  simp only [Module.bindings, AppBehavior.skeleton, AppBehavior.preamble, List.flatMap_append] at bound
  cases isApp : behavior.type == .app with
  | true =>
    simpa [isApp, AppBehavior.loggerStatement, AppBehavior.routerStatement, Statement.bindings,
      Statement.documentation, Statement.importingModule, Statement.importing,
      Statement.bind] using bound
  | false =>
    left
    simpa [isApp, AppBehavior.loggerStatement, Statement.bindings, Statement.documentation,
      Statement.importingModule, Statement.bind] using bound

/-- Neither dates nor times nor anything are among the names that a project's behavior imports of its
own accord. -/
theorem appBehavior_binds (success : (appBehavior registry behavior).outcome = .ok module)
    {name : String} (needed : name ∈ importedTypes) (unasked : ¬ AsksFor [behavior] name) :
    ¬ module.Binds name := by
  obtain ⟨params, _, _, growth⟩ := appBehavior_module success
  intro bound
  obtain ⟨binding, listed, rfl⟩ := List.mem_map.mp bound
  rcases growth.introduced binding listed with own | authored | ⟨used, uses, name, member, rfl⟩ | rfl
  · rcases mem_bindings_appSkeleton own with rfl | rfl
    · revert needed
      decide
    · revert needed
      decide
  · exact unasked (Or.inl ⟨binding, authored, rfl⟩)
  · exact unasked (Or.inr ⟨behavior, List.mem_cons_self, used, uses, name, member, rfl⟩)
  · revert needed
    decide

end App

/-- A generator has printed this module, in which a behavior has become this function. -/
structure Writes (registry : Registry) (behavior : ActiveBehavior) (produced : Produced)
    (module : Module) (function : Statement) : Prop where
  printed : ∃ text, module.render generatedHeader = .ok text ∧ produced = .text text
  defined : module.Defines function
  named : function.functionName? = some (identifier behavior.function.name)
  hints : function.hints = (signatureTypes registry.entityNames behavior).map Expr.ofType

theorem uncallable_of_isOfProject {type : BehaviorType} (ofProject : type.isOfProject = true) :
    type.isMethod = false ∧ type ≠ .ofInstance := by
  cases type with
  | afterStart | app => exact ⟨rfl, nofun⟩
  | _ => cases ofProject

section Signatures

variable {registry : Registry} {behavior : ActiveBehavior} {produced : Produced}
  {authors : List ActiveBehavior}

/-- Both generators write a function with the hints of the behavior. Of its own accord the module binds
the type of anything only, and only in a business object. -/
theorem Generates.writes (generated : Generates registry behavior produced authors) :
    ∃ module function, Writes registry behavior produced module function ∧
      ∀ name ∈ importedTypes, ¬ AsksFor authors name →
        (module.Binds name ↔ name = "Any" ∧ behavior.type.isMethod = true) := by
  cases generated with
  | object success attached member callable =>
    obtain ⟨dataSource, module, _, built, printed⟩ := exists_businessObject_of_generate success
    obtain ⟨function, defined, named, hints⟩ :=
      businessObject_defines built attached member callable
    refine ⟨module, function, ⟨printed, defined, named, hints⟩, ?_⟩
    intro name needed unasked
    rw [businessObject_binds built attached needed unasked, and_iff_left callable]
  | @app declared type function success typed given ofProject same =>
    simp only [generateAppBehavior, typed, given, ← same] at success
    obtain ⟨module, built, success⟩ := Step.bind_eq_ok_iff.mp success
    obtain ⟨text, printed, success⟩ := Step.bind_eq_ok_iff.mp success
    cases success
    have kind : behavior.type.isMethod = false ∧ behavior.type ≠ .ofInstance := by
      rw [same]
      exact uncallable_of_isOfProject ofProject
    have whole : behavior.given = behavior.function.params := by
      rw [ActiveBehavior.given, if_neg (by simpa using kind.2)]
    obtain ⟨function, defined, named, hints⟩ := appBehavior_defines built whole
    refine ⟨module, function, ⟨⟨text, printed, rfl⟩, defined, named, hints⟩, ?_⟩
    intro name needed unasked
    rw [kind.1]
    exact iff_of_false (appBehavior_binds built needed unasked) (by simp)

/-- The signature of a behavior that is generated. Its names are builtin or have to be imported for
its types, so all of them are known exactly if the module binds those. Of its own accord a module
binds one of them only, the type of anything, and only in a business object: dates and times are
bound where an author asks for them. -/
theorem signature_bound_iff (generated : Generates registry behavior produced authors) :
    ∃ module function, Writes registry behavior produced module function ∧
      (∀ name, name ∈ function.hintNames ∧ name ∉ builtinTypes ↔
        ∃ type ∈ signatureTypes registry.entityNames behavior, ∃ source,
          type.requiredImport? = some (source, name)) ∧
      ((∀ name ∈ function.hintNames, name ∈ builtinTypes ∨ module.Binds name) ↔
        ∀ type ∈ signatureTypes registry.entityNames behavior, ∀ source name,
          type.requiredImport? = some (source, name) → module.Binds name) ∧
      ∀ name ∈ importedTypes, ¬ AsksFor authors name →
        (module.Binds name ↔ name = "Any" ∧ behavior.type.isMethod = true) := by
  obtain ⟨module, function, writes, binds⟩ := generated.writes
  have needs := mem_hintNames_iff writes.hints
  refine ⟨module, function, writes, needs, ?_, binds⟩
  constructor
  · intro known type listed source name required
    obtain ⟨inside, needed⟩ := (needs name).mpr ⟨type, listed, source, required⟩
    exact (known name inside).resolve_left needed
  · intro bound name inside
    by_cases builtin : name ∈ builtinTypes
    · exact Or.inl builtin
    · obtain ⟨type, listed, source, required⟩ := (needs name).mp ⟨inside, builtin⟩
      exact Or.inr (bound type listed source name required)

end Signatures

theorem exists_app_of_isPrintable {registry : Registry} {declared : Declared Behavior}
    {type : BehaviorType} {function : Function} (typed : declared.unit.type? = some type)
    (written : declared.unit.function = some function)
    (checked : Module.isPrintable
      (appBehavior registry (declared.unit.active type function)).outcome = true) :
    ∃ produced, (generateAppBehavior declared registry).outcome = .ok produced := by
  obtain ⟨module, text, built, printed⟩ := Module.exists_text_of_isPrintable generatedHeader checked
  refine ⟨.text text, ?_⟩
  simp only [generateAppBehavior, typed, written, Step.outcome_bind, built, ok_bind,
    Step.outcome_ofExcept, printed, Step.outcome_pure]

theorem not_asksFor {authors : List ActiveBehavior} (name : String)
    (silent : ∀ author ∈ authors, author.imports = "" ∧ author.uses = []) :
    ¬ AsksFor authors name := by
  have none : importStatements "" = .ok [] := if_pos (by decide +kernel)
  rintro (⟨binding, ⟨author, listed, statements, asked, _, member, _⟩, _⟩ |
    ⟨author, listed, used, uses, _, member, _⟩)
  · rw [(silent author listed).1, otherImports, none] at asked
    cases asked
    cases member
  · rw [usedBusinessObjects, (silent author listed).1, (silent author listed).2,
      importedBusinessObjects, none] at uses
    cases uses
    cases member

/-- A visit is put off to another day. -/
def postpone : Function where
  name := "postpone"
  async := true
  params := [⟨"visit", false, none⟩, ⟨"day", false, some ⟨"Date", false⟩⟩,
    ⟨"notes", true, some ⟨"json", true⟩⟩]
  returns := some ⟨"boolean", false⟩
  body := "return True"

/-- Something is counted from a moment on. -/
def tally : Function where
  name := "tally"
  async := false
  params := [⟨"since", false, some ⟨"datetime", false⟩⟩, ⟨"what", true, some ⟨"any", false⟩⟩]
  returns := none
  body := "return 0"

def ofVisit : Behavior :=
  { offset := 0, name := "Postpone", owner := "Visit", type := some "Instance"
    function := some postpone }

def ofShop : Behavior :=
  { offset := 0, name := "Tally", owner := "Shop", type := some "After Start", function := some tally }

def visit : Entity := { offset := 0, name := "Visit" }

def visits : Registry where
  units := Registry.declare none false 0
    (stored ++ [.entity visit, .behavior ofVisit, .behavior ofShop])
  distinct := by decide

private theorem visits_generates : ∃ produced,
    Generates visits (ofVisit.active .ofInstance postpone) produced
      [ofVisit.active .ofInstance postpone] := by
  obtain ⟨produced, success⟩ : ∃ produced,
      (generateBusinessObject ⟨visit, false, none, 2⟩ visits).outcome = .ok produced :=
    exists_produced_of_isPrintable rfl rfl (by decide +kernel)
  exact ⟨produced, .object success rfl List.mem_cons_self rfl⟩

private theorem shop_generates : ∃ produced,
    Generates visits (ofShop.active .afterStart tally) produced [ofShop.active .afterStart tally] := by
  obtain ⟨produced, success⟩ : ∃ produced,
      (generateAppBehavior ⟨ofShop, false, none, 4⟩ visits).outcome = .ok produced :=
    exists_app_of_isPrintable rfl rfl (by decide +kernel)
  exact ⟨produced, .app success rfl rfl rfl rfl⟩

theorem signature_bound_iff_visits : ∃ produced module function,
    Generates visits (ofVisit.active .ofInstance postpone) produced
      [ofVisit.active .ofInstance postpone] ∧
    Writes visits (ofVisit.active .ofInstance postpone) produced module function ∧
    module.Binds "Any" ∧ ¬ module.Binds "date" := by
  obtain ⟨produced, generated⟩ := visits_generates
  obtain ⟨module, function, writes, _, _, binds⟩ := signature_bound_iff generated
  have silent (name : String) := not_asksFor name
    (List.forall_mem_singleton.mpr ⟨rfl, rfl⟩ :
      ∀ author ∈ [ofVisit.active .ofInstance postpone], author.imports = "" ∧ author.uses = [])
  refine ⟨produced, module, function, generated, writes, ?_, fun bound => ?_⟩
  · exact (binds "Any" (by decide) (silent "Any")).mpr ⟨rfl, rfl⟩
  · have same := ((binds "date" (by decide) (silent "date")).mp bound).1
    revert same
    decide

/-- Two behaviors are generated, one as a method and one as a module of its own. The signature of the
first names a type of dates, that of the second one of times and that of anything; none of these is
builtin, and neither module binds them. -/
theorem signature_names_unbound_visits :
    (∃ produced module function, Generates visits (ofVisit.active .ofInstance postpone) produced
        [ofVisit.active .ofInstance postpone] ∧
      Writes visits (ofVisit.active .ofInstance postpone) produced module function ∧
      "date" ∈ function.hintNames ∧ "date" ∉ builtinTypes ∧ ¬ module.Binds "date") ∧
    ∃ produced module function, Generates visits (ofShop.active .afterStart tally) produced
        [ofShop.active .afterStart tally] ∧
      Writes visits (ofShop.active .afterStart tally) produced module function ∧
      ∀ name ∈ ["datetime", "Any"],
        name ∈ function.hintNames ∧ name ∉ builtinTypes ∧ ¬ module.Binds name := by
  constructor
  · obtain ⟨produced, generated⟩ := visits_generates
    obtain ⟨module, function, writes, binds⟩ := generated.writes
    obtain ⟨inside, needed⟩ := (mem_hintNames_iff writes.hints "date").mpr
      ⟨.named "date", List.mem_cons_self, "datetime", rfl⟩
    refine ⟨produced, module, function, generated, writes, inside, needed, ?_⟩
    rw [binds "date" (by decide) (not_asksFor "date" (List.forall_mem_singleton.mpr ⟨rfl, rfl⟩))]
    decide
  · obtain ⟨produced, generated⟩ := shop_generates
    obtain ⟨module, function, writes, binds⟩ := generated.writes
    have needs := mem_hintNames_iff writes.hints
    have unbound (name : String) (needed : name ∈ importedTypes) : ¬ module.Binds name := by
      rw [binds name needed (not_asksFor name (List.forall_mem_singleton.mpr ⟨rfl, rfl⟩))]
      exact fun both => Bool.false_ne_true both.2
    refine ⟨produced, module, function, generated, writes, ?_⟩
    intro name listed
    have required : ∃ type ∈ signatureTypes visits.entityNames (ofShop.active .afterStart tally),
        ∃ source, type.requiredImport? = some (source, name) := by
      rcases List.mem_cons.mp listed with rfl | last
      · exact ⟨.named "datetime", List.mem_cons_self, "datetime", rfl⟩
      · rw [List.mem_singleton.mp last]
        exact ⟨.named "Any", List.mem_cons_of_mem _ List.mem_cons_self, "typing", rfl⟩
    obtain ⟨inside, needed⟩ := (needs name).mpr required
    exact ⟨inside, needed, unbound name (List.mem_cons_of_mem _ listed)⟩

end Blueprint.Server
