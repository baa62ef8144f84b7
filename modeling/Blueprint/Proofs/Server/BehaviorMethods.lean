import Blueprint.Proofs.Server.Lifecycle
import Blueprint.Proofs.ServerCode.Imports
import Blueprint.Proofs.ServerCode.Editing

namespace Blueprint

/-- The parameters that callers give; the first one of an instance behavior is the record itself. -/
def ActiveBehavior.given (behavior : ActiveBehavior) : List Design.Parameter :=
  if behavior.type == .ofInstance then behavior.function.params.drop 1
  else behavior.function.params

end Blueprint

namespace Blueprint.ServerCode

def Param.hint? : Param → Option Expr
  | mk _ hint _ => hint

/-- All parameters of a function. -/
def Params.all : Params → List Param
  | mk placed params rest named namedRest =>
    placed ++ params ++ rest.toList ++ named ++ namedRest.toList

@[simp] theorem Params.all_of (params : List Param) : (Params.of params).all = params := by
  simp [of, all]

end Blueprint.ServerCode

namespace Blueprint.Server.BusinessObject

open Design ServerCode

/-- The parameters of a function have the names, in normal form, and the types of those in the design. -/
theorem behaviorParams_eq_ok {entities : List String} {name : String} {seen : Bool}
    {given : List Parameter} {params : List Param}
    (success : behaviorParams name entities seen given = .ok params) :
    params.map Param.name = given.map (fun param => identifier param.name) ∧
      params.filterMap Param.hint? = (given.filterMap Parameter.type).map fun type =>
        Expr.ofType (ServerType.ofName entities type.name type.array) := by
  induction given generalizing seen params with
  | nil =>
    cases success
    exact ⟨rfl, rfl⟩
  | cons param given ih =>
    simp only [behaviorParams] at success
    split at success
    · cases success
    · obtain ⟨others, rest, success⟩ := bind_eq_ok_iff.mp success
      cases success
      obtain ⟨names, hints⟩ := ih rest
      refine ⟨by simp [names, Param.name], ?_⟩
      cases typed : param.type with
      | none =>
        rw [List.filterMap_cons, List.filterMap_cons, typed]
        exact hints
      | some type =>
        rw [List.filterMap_cons, List.filterMap_cons, typed]
        exact congrArg (_ :: ·) hints

/-- The method of an instance or class behavior in the class of an entity. -/
def IsBehaviorMethod (className : String) (entities : List String) (behavior : ActiveBehavior)
    (method : Statement) : Prop :=
  ∃ make number, behaviorMethod className behavior entities = .ok make ∧
    method = make [Module.placeholder number]

/-- What adding a behavior does to a module that has the behavior's imports. -/
inductive AddsCode (className : String) (entities : List String) (behavior : ActiveBehavior)
    (module : Module) : Module → Prop where
  | method {make : List Statement → Statement} (callable : behavior.type.isMethod = true)
      (built : behaviorMethod className behavior entities = .ok make) :
      AddsCode className entities behavior module
        (Module.appendMethod { module with bodies := module.bodies ++ [behavior.function.body] }
          className (make [Module.placeholder module.bodies.length]))
  | splice {methods : List String} {position : SplicePosition} {text : String} {changed : Module}
      (places : splicePlaces behavior.type = some (methods, position))
      (spliced : spliceInto className position text methods module = .ok changed) :
      AddsCode className entities behavior module changed
  | skip (uncallable : behavior.type.isMethod = false) : AddsCode className entities behavior module module

section Behavior

variable {className : String} {entities : List String} {behavior : ActiveBehavior}
  {module changed : Module}

theorem addBehavior_cases
    (success : (addBehavior className entities module behavior).outcome = .ok changed) :
    ∃ statements imported, otherImports behavior.imports = .ok statements ∧
      (module.addImportStatements statements).result = .ok imported ∧
      AddsCode className entities behavior imported changed := by
  unfold addBehavior at success
  obtain ⟨statements, asked, success⟩ := Step.bind_eq_ok_iff.mp success
  obtain ⟨imported, imports, success⟩ := Step.bind_eq_ok_iff.mp success
  refine ⟨statements, imported, asked, imports, ?_⟩
  cases callable : behavior.type.isMethod with
  | true =>
    rw [callable] at success
    obtain ⟨extended, built, success⟩ := Step.bind_eq_ok_iff.mp success
    obtain ⟨_, _, success⟩ := Step.bind_eq_ok_iff.mp success
    cases success
    obtain ⟨make, method, given⟩ := bind_eq_ok_iff.mp built
    cases given
    exact .method callable method
  | false =>
    rw [callable] at success
    cases places : splicePlaces behavior.type with
    | none =>
      rw [places] at success
      cases success
      exact .skip callable
    | some place =>
      obtain ⟨methods, position⟩ := place
      rw [places] at success
      obtain ⟨text, body, success⟩ := Step.bind_eq_ok_iff.mp success
      obtain ⟨extended, inserted, success⟩ := Step.bind_eq_ok_iff.mp success
      obtain ⟨_, _, success⟩ := Step.bind_eq_ok_iff.mp success
      cases success
      exact .splice places inserted

theorem all_isName_of_checkNames {names : List String} {done : PUnit}
    (success : checkNames names = .ok done) : names.all isName = true := by
  unfold checkNames at success
  split at success
  · assumption
  · cases success

/-- The function that an instance or class behavior becomes: its receiver, then the parameters that
are given, with the result type that is stated. -/
theorem behaviorMethod_function {make : List Statement → Statement}
    (built : behaviorMethod className behavior entities = .ok make) :
    ∃ params lead, behaviorParams behavior.name entities false behavior.given = .ok params ∧
      (behavior.function.name :: behavior.given.map Parameter.name).all isName = true ∧
      ∀ body, make body = .function behavior.function.async (identifier behavior.function.name)
        (.of (.plain (if behavior.type == .ofInstance then "self" else "cls") :: params))
        (returnsOf behavior entities)
        (if behavior.type == .ofInstance then [] else [.name "classmethod"]) (lead ++ body) := by
  unfold behaviorMethod at built
  obtain ⟨used, _, built⟩ := bind_eq_ok_iff.mp built
  obtain ⟨params, read, built⟩ := bind_eq_ok_iff.mp built
  obtain ⟨_, named, built⟩ := bind_eq_ok_iff.mp built
  obtain ⟨imports, _, built⟩ := bind_eq_ok_iff.mp built
  obtain ⟨_, _, built⟩ := bind_eq_ok_iff.mp built
  cases built
  exact ⟨params, _, read, all_isName_of_checkNames named, fun body => rfl⟩

/-- A binding that the author of a behavior asks for. -/
def ByAuthor (behaviors : List ActiveBehavior) (binding : Binding) : Prop :=
  ∃ behavior ∈ behaviors, ∃ statements, otherImports behavior.imports = .ok statements ∧
    ∃ statement ∈ statements, binding ∈ statement.bindings

theorem bindings_spliceInto {position : SplicePosition} {text : String} {methods : List String}
    (success : spliceInto className position text methods module = .ok changed) :
    changed.bindings = module.bindings := by
  induction methods generalizing module with
  | nil =>
    cases success
    rfl
  | cons method methods ih =>
    obtain ⟨spliced, first, rest⟩ := bind_eq_ok_iff.mp success
    exact (ih rest).trans (Module.bindings_spliceStatements first)

theorem AddsCode.bindings_eq (adds : AddsCode className entities behavior module changed) :
    changed.bindings = module.bindings := by
  cases adds with
  | method => exact Module.bindings_changeClass _ className _
  | splice _ spliced => exact bindings_spliceInto spliced
  | skip => rfl

/-- Behaviors add the imports that their authors ask for and no others. -/
theorem addBehaviors_growth {behaviors : List ActiveBehavior}
    (success : (addBehaviors className entities behaviors module).outcome = .ok changed) :
    Module.ImportGrowth module changed (ByAuthor behaviors) := by
  induction behaviors generalizing module with
  | nil =>
    cases success
    exact .refl _ _
  | cons behavior behaviors ih =>
    obtain ⟨extended, first, rest⟩ := Step.bind_eq_ok_iff.mp success
    obtain ⟨statements, imported, asked, merged, adds⟩ := addBehavior_cases first
    have here : Module.ImportGrowth module extended (ByAuthor (behavior :: behaviors)) := by
      refine ((Module.addImportStatements_growth merged).weaken ?_).trans (.of_eq adds.bindings_eq)
      exact fun binding bound => ⟨behavior, List.mem_cons_self, statements, asked, bound⟩
    refine here.trans ((ih rest).weaken ?_)
    rintro binding ⟨other, listed, bound⟩
    exact ⟨other, List.mem_cons_of_mem _ listed, bound⟩

end Behavior

section Methods

variable {skeleton : ClassSkeleton} {className : String} {entities : List String}
  {behaviors : List ActiveBehavior} {splices : Splices} {added : List Statement}
  {module changed : Module}

/-- The class of a module, to which some behaviors have been added, ends with their methods. -/
structure HasMethods (skeleton : ClassSkeleton) (className : String) (entities : List String)
    (behaviors : List ActiveBehavior) (splices : Splices) (added : List Statement)
    (module : Module) : Prop extends Layout skeleton className splices added module where
  methods : List.Forall₂ (IsBehaviorMethod className entities)
    (behaviors.filter fun behavior => behavior.type.isMethod) added

/-- One behavior takes its place behind the behaviors before it. -/
theorem HasMethods.addsCode
    (before : HasMethods skeleton className entities behaviors splices added module)
    (complete : skeleton.Complete) {behavior : ActiveBehavior}
    (adds : AddsCode className entities behavior module changed) :
    ∃ splices added,
      HasMethods skeleton className entities (behaviors ++ [behavior]) splices added changed := by
  cases adds with
  | @method make callable built =>
    obtain ⟨params, lead, _, _, shape⟩ := behaviorMethod_function built
    have layout : Layout skeleton className splices added
        { module with bodies := module.bodies ++ [behavior.function.body] } :=
      ⟨before.found, before.counted, before.quiet, before.addedKept⟩
    have kept : (make [Module.placeholder module.bodies.length]).isPass = false := by
      rw [shape]
      rfl
    refine ⟨splices, _, layout.append kept, ?_⟩
    have counted : (behaviors ++ [behavior]).filter (fun behavior => behavior.type.isMethod) =
        behaviors.filter (fun behavior => behavior.type.isMethod) ++ [behavior] := by
      simp [callable]
    rw [counted]
    exact List.rel_append before.methods (.cons ⟨make, _, built, rfl⟩ .nil)
  | splice places spliced =>
    obtain ⟨distinct, uncallable, stage, rfl⟩ := splicePlaces_stage places
    obtain ⟨result, finished, layout, _⟩ :=
      before.toLayout.spliceInto distinct (complete stage) _ _
    obtain rfl := Except.ok.inj (finished.symm.trans spliced)
    exact ⟨_, added, layout, by simpa [uncallable] using before.methods⟩
  | skip uncallable =>
    exact ⟨splices, added, before.toLayout, by simpa [uncallable] using before.methods⟩

/-- Behaviors take their places one after the other. -/
theorem HasMethods.addBehaviors
    (before : HasMethods skeleton className entities behaviors splices added module)
    (complete : skeleton.Complete) {more : List ActiveBehavior}
    (success : (Server.addBehaviors className entities more module).outcome = .ok changed) :
    ∃ splices added,
      HasMethods skeleton className entities (behaviors ++ more) splices added changed := by
  induction more generalizing behaviors splices added module with
  | nil =>
    cases success
    rw [List.append_nil]
    exact ⟨splices, added, before⟩
  | cons behavior more ih =>
    obtain ⟨extended, first, rest⟩ := Step.bind_eq_ok_iff.mp success
    obtain ⟨_, imported, _, merged, adds⟩ := addBehavior_cases first
    have start : HasMethods skeleton className entities behaviors splices added imported :=
      ⟨before.toLayout.of_same (Module.addImportStatements_same merged), before.methods⟩
    obtain ⟨spliced, methods, between⟩ := start.addsCode complete adds
    have finished := ih between rest
    rwa [List.append_assoc] at finished

theorem exists_of_mem_forall₂ {α β : Type} {related : α → β → Prop} {first : List α}
    {second : List β} (alike : List.Forall₂ related first second) {one : α}
    (member : one ∈ first) : ∃ other ∈ second, related one other := by
  induction alike with
  | nil => cases member
  | cons here _ ih =>
    rcases List.mem_cons.mp member with rfl | later
    · exact ⟨_, List.mem_cons_self, here⟩
    · obtain ⟨other, inside, pair⟩ := ih later
      exact ⟨other, List.mem_cons_of_mem _ inside, pair⟩

theorem HasMethods.exists_method
    (ended : HasMethods skeleton className entities behaviors splices added module)
    {behavior : ActiveBehavior} (member : behavior ∈ behaviors)
    (callable : behavior.type.isMethod = true) :
    ∃ method ∈ added, IsBehaviorMethod className entities behavior method :=
  exists_of_mem_forall₂ ended.methods (List.mem_filter.mpr ⟨member, callable⟩)

end Methods

/-- The business object of an entity: its class ends with the methods of the instance and class
behaviors, one each and in order, and its module imports what every business object does and what
authors ask for. -/
theorem businessObject_methods {registry : Registry} {entity : Entity} {dataSource : String}
    {module : Module} (success : (businessObject registry entity dataSource).outcome = .ok module) :
    ∃ behaviors splices added, (ActiveBehavior.ofEntity registry entity).outcome = .ok behaviors ∧
      HasMethods (classSkeleton entity.name (.name (Identity.of entity).type.serverName)
        (Identity.of entity).name) entity.name registry.entityNames behaviors splices added
        module ∧
      Module.ImportGrowth (skeleton entity.name (.name (Identity.of entity).type.serverName)
        (Identity.of entity).name (snakeCase dataSource)) module (ByAuthor behaviors) := by
  unfold businessObject at success
  obtain ⟨identity, resolved, success⟩ := Step.bind_eq_ok_iff.mp success
  obtain ⟨_, _, success⟩ := Step.bind_eq_ok_iff.mp success
  obtain ⟨_, found, success⟩ := Step.bind_eq_ok_iff.mp success
  obtain ⟨behaviors, attached, success⟩ := Step.bind_eq_ok_iff.mp success
  obtain rfl : Identity.of entity = identity :=
    Except.ok.inj ((Identity.resolve_outcome entity).symm.trans resolved)
  have start := skeleton_synthesized entity.name (.name (Identity.of entity).type.serverName)
    (Identity.of entity).name (identifier_of_getClass found) (snakeCase dataSource)
  have empty : HasMethods (classSkeleton entity.name (.name (Identity.of entity).type.serverName)
      (Identity.of entity).name) entity.name registry.entityNames [] (fun _ _ => []) []
      (skeleton entity.name (.name (Identity.of entity).type.serverName) (Identity.of entity).name
        (snakeCase dataSource)) := ⟨start.toLayout, .nil⟩
  obtain ⟨splices, added, ended⟩ := empty.addBehaviors (classSkeleton_complete _ _ _) success
  exact ⟨behaviors, splices, added, attached, ended, addBehaviors_growth success⟩

end Blueprint.Server.BusinessObject

namespace Blueprint.Server

open ServerCode Generation BusinessObject

/-- The file of a module. -/
def Prints (module : Module) (produced : Produced) : Prop :=
  ∃ text, module.render generatedHeader = .ok text ∧ produced = .text text

/-- A business object that is generated is printed from the module of its entity. -/
theorem exists_businessObject_of_generate {registry : Registry} {declared : Declared Design.Entity}
    {produced : Produced}
    (success : (generateBusinessObject declared registry).outcome = .ok produced) :
    ∃ dataSource module, (storeOf registry declared.unit).outcome = .ok dataSource ∧
      (businessObject registry declared.unit dataSource).outcome = .ok module ∧
      Prints module produced := by
  unfold generateBusinessObject at success
  obtain ⟨dataSource, store, success⟩ := Step.bind_eq_ok_iff.mp success
  obtain ⟨_, _, success⟩ := Step.bind_eq_ok_iff.mp success
  obtain ⟨_, _, success⟩ := Step.bind_eq_ok_iff.mp success
  obtain ⟨module, built, success⟩ := Step.bind_eq_ok_iff.mp success
  obtain ⟨text, printed, success⟩ := Step.bind_eq_ok_iff.mp success
  cases success
  exact ⟨dataSource, module, store, built, text, printed, rfl⟩

/-- A business object is generated if its module can be printed. -/
theorem exists_produced_of_isPrintable {registry : Registry} {declared : Declared Design.Entity}
    {dataSource : String} {relationships : List Relationship}
    (store : (storeOf registry declared.unit).outcome = .ok dataSource)
    (linked : (resolveAssociations registry declared.unit).outcome = .ok relationships)
    (checked : Module.isPrintable (businessObject registry declared.unit dataSource).outcome = true) :
    ∃ produced, (generateBusinessObject declared registry).outcome = .ok produced := by
  obtain ⟨module, text, built, printed⟩ := Module.exists_text_of_isPrintable generatedHeader checked
  refine ⟨.text text, ?_⟩
  simp only [generateBusinessObject, Step.outcome_bind, store, Step.outcome_debug, linked, built,
    ok_bind, Step.outcome_ofExcept, printed, Step.outcome_pure]

end Blueprint.Server
