import Mathlib.Data.List.Perm.Basic
import Blueprint.Proofs.NormalForm
import Blueprint.Proofs.Server.BehaviorMethods
import Blueprint.Server.Route

namespace Blueprint.ServerCode.Statement

/-- The verb and the path that a function answers, as its decorator states them. -/
def route? : Statement → Option (String × String)
  | function _ _ _ _ [.call (.attribute (.name "router") verb) (.constant (.text path _) :: _) _] _ =>
    some (verb, path)
  | _ => none

/-- The statement takes values from the address of a request. -/
def takesAddress : Statement → Bool
  | assign _ (.call _ [.attribute (.name "request") "query_params"] _) => true
  | _ => false

/-- A function that takes its arguments from the address of a request. -/
def readsQuery (statement : Statement) : Bool := (Module.functionBody statement).any takesAddress

/-- The method that a statement calls on what has a name, with the arguments of a request. -/
def calledMethod? : Statement → Option String
  | assign _ (.call (.attribute (.name _) method) [] [.spread (.name "payload")])
  | assign _ (.await (.call (.attribute (.name _) method) [] [.spread (.name "payload")])) =>
    some method
  | _ => none

end Blueprint.ServerCode.Statement

namespace Blueprint.Server

open Design ServerCode Generation BusinessObject

namespace Endpoint

variable (endpoint : Endpoint) (entity : String) (idType : Expr)

@[simp] theorem route?_statement :
    (endpoint.statement entity idType).route? = some (verbName endpoint.verb, endpoint.path) := rfl

@[simp] theorem readsQuery_statement :
    (endpoint.statement entity idType).readsQuery = takesQuery endpoint.verb := by
  obtain ⟨verb, onRecord, function, isAsync⟩ := endpoint
  cases verb <;> cases onRecord <;> cases isAsync <;> rfl

theorem calledMethod?_statement :
    ((Module.functionBody (endpoint.statement entity idType)).filterMap Statement.calledMethod?) =
      [identifier endpoint.function] := by
  obtain ⟨verb, onRecord, function, isAsync⟩ := endpoint
  cases verb <;> cases onRecord <;> cases isAsync <;> rfl

end Endpoint

namespace Router

variable {entity name lead : String} {idType : Expr} {found : Statement}

/-- A word behind a lead is not brought to a name that begins otherwise. -/
theorem identifier_ne_of_head (ends : lead.toList.getLast? = some '_')
    (ascii : ∀ c ∈ lead.toList, c.toNat < 0x80) {c : Char} (first : name.toList.head? = some c)
    (other : lead.toList.head? ≠ some c) (word : String) : identifier (lead ++ word) ≠ name := by
  rw [identifier_lead ends ascii]
  rintro rfl
  apply other
  rw [String.toList_append] at first
  cases shape : lead.toList with
  | nil => simp [shape] at ends
  | cons d rest => simpa [shape] using first

/-- The names of a router's functions. -/
def functionNames (entity : String) : List String :=
  ["parse_filter", "serialize", identifier ("list_" ++ routeModule entity),
    identifier ("get_" ++ snakeCase entity), identifier ("create_" ++ snakeCase entity),
    identifier ("update_" ++ snakeCase entity), identifier ("delete_" ++ snakeCase entity)]

private theorem filterMap_functionName?_skeleton (entity : String) (idType : Expr) :
    (skeleton entity idType).body.filterMap Statement.functionName? = functionNames entity := rfl

theorem exists_getFunction_iff : (∃ found, (skeleton entity idType).getFunction name = .ok found) ↔
    name ∈ functionNames entity := by
  rw [← filterMap_functionName?_skeleton entity idType, List.mem_filterMap, Module.getFunction]
  constructor
  · rintro ⟨found, success⟩
    split at success
    · rename_i sought
      exact ⟨_, List.mem_of_find?_eq_some sought, by simpa using List.find?_some sought⟩
    · cases success
  · rintro ⟨statement, listed, named⟩
    split
    · exact ⟨_, rfl⟩
    · rename_i absent
      exact absurd (List.find?_eq_none.mp absent statement listed) (by simp [named])

theorem identifier_of_getFunction_list
    (success : (skeleton entity idType).getFunction ("list_" ++ routeModule entity) = .ok found) :
    identifier (routeModule entity) = routeModule entity := by
  have head : ("list_" ++ routeModule entity).toList.head? = some 'l' := by simp
  have listed := exists_getFunction_iff.mp ⟨found, success⟩
  simp only [functionNames, List.mem_cons, List.not_mem_nil, or_false] at listed
  rcases listed with same | same | same | same | same | same | same
  · exact absurd (same ▸ head) (by decide)
  · exact absurd (same ▸ head) (by decide)
  · rw [identifier_lead (by decide) (by decide), String.append_right_inj] at same
    exact same.symm
  · exact absurd same.symm (identifier_ne_of_head (by decide) (by decide) head (by decide) _)
  · exact absurd same.symm (identifier_ne_of_head (by decide) (by decide) head (by decide) _)
  · exact absurd same.symm (identifier_ne_of_head (by decide) (by decide) head (by decide) _)
  · exact absurd same.symm (identifier_ne_of_head (by decide) (by decide) head (by decide) _)

/-- A router finds the endpoint that reads a record only if its name is in normal form. -/
theorem identifier_of_getFunction_get
    (success : (skeleton entity idType).getFunction ("get_" ++ snakeCase entity) = .ok found) :
    identifier (snakeCase entity) = snakeCase entity := by
  have head : ("get_" ++ snakeCase entity).toList.head? = some 'g' := by simp
  have listed := exists_getFunction_iff.mp ⟨found, success⟩
  simp only [functionNames, List.mem_cons, List.not_mem_nil, or_false] at listed
  rcases listed with same | same | same | same | same | same | same
  · exact absurd (same ▸ head) (by decide)
  · exact absurd (same ▸ head) (by decide)
  · exact absurd same.symm (identifier_ne_of_head (by decide) (by decide) head (by decide) _)
  · rw [identifier_lead (by decide) (by decide), String.append_right_inj] at same
    exact same.symm
  · exact absurd same.symm (identifier_ne_of_head (by decide) (by decide) head (by decide) _)
  · exact absurd same.symm (identifier_ne_of_head (by decide) (by decide) head (by decide) _)
  · exact absurd same.symm (identifier_ne_of_head (by decide) (by decide) head (by decide) _)

/-- The module of a router that is generated, and that of its entity, are named in normal form. -/
theorem identifier_of_router {registry : Registry} {owner : Entity} {module : Module}
    (success : (router registry owner).outcome = .ok module) :
    identifier (routeModule owner.name) = routeModule owner.name ∧
      identifier (snakeCase owner.name) = snakeCase owner.name := by
  unfold router at success
  obtain ⟨_, _, success⟩ := Step.bind_eq_ok_iff.mp success
  obtain ⟨_, _, success⟩ := Step.bind_eq_ok_iff.mp success
  obtain ⟨_, _, success⟩ := Step.bind_eq_ok_iff.mp success
  obtain ⟨_, listing, success⟩ := Step.bind_eq_ok_iff.mp success
  obtain ⟨_, reading, _⟩ := Step.bind_eq_ok_iff.mp success
  rw [Step.outcome_ofExcept] at listing reading
  exact ⟨identifier_of_getFunction_list listing, identifier_of_getFunction_get reading⟩

end Router

section Router

variable {entity : String} {idType : Expr} {module changed : Module}

theorem perm_insertBefore (name : Option String) (statement : Statement) (body : List Statement) :
    (Module.insertBefore name statement body).Perm (statement :: body) := by
  unfold Module.insertBefore
  split
  · rename_i index found
    obtain ⟨name, _, place⟩ := Option.bind_eq_some_iff.mp found
    have within : index ≤ body.length := by
      have := (List.findIdx?_eq_some_iff_findIdx_eq.mp place).1
      omega
    exact List.perm_insertIdx statement body within
  · exact List.perm_append_singleton statement body

/-- Adding an endpoint adds its function to the code of a router. -/
theorem Endpoint.addTo_code {endpoint : Endpoint}
    (success : endpoint.addTo entity idType module = .ok changed) :
    changed.code.Perm (endpoint.statement entity idType :: module.code) ∧
      isName endpoint.function = true := by
  unfold addTo at success
  obtain ⟨_, named, success⟩ := bind_eq_ok_iff.mp success
  cases success
  constructor
  · have placed := (perm_insertBefore (if endpoint.onRecord then none else some ("get_" ++ snakeCase entity))
      (endpoint.statement entity idType)
      (module.mergeImport "fastapi" [endpoint.needs]).body).filter (!·.isImport)
    rw [List.filter_cons_of_pos rfl] at placed
    rw [← Module.code_mergeImport module "fastapi" [endpoint.needs]]
    exact placed
  · have all := all_isName_of_checkNames named
    simp only [List.all_cons, Bool.and_eq_true] at all
    exact all.2.1

/-- Every instance or class behavior adds its endpoint. -/
theorem addEndpoints_code {behaviors : List ActiveBehavior}
    (success : (addEndpoints entity idType behaviors module).outcome = .ok changed) :
    changed.code.Perm (((behaviors.filter fun behavior => behavior.type.isMethod).map fun behavior =>
        (Endpoint.of behavior).statement entity idType) ++ module.code) ∧
      ∀ behavior ∈ behaviors, behavior.type.isMethod = true →
        isName behavior.function.name = true := by
  induction behaviors generalizing module with
  | nil =>
    cases success
    exact ⟨.refl _, by simp⟩
  | cons behavior behaviors ih =>
    unfold addEndpoints at success
    cases callable : behavior.type.isMethod with
    | true =>
      rw [callable, if_pos rfl] at success
      obtain ⟨extended, added, success⟩ := Step.bind_eq_ok_iff.mp success
      obtain ⟨_, _, success⟩ := Step.bind_eq_ok_iff.mp success
      obtain ⟨code, named⟩ := Endpoint.addTo_code added
      obtain ⟨rest, names⟩ := ih success
      refine ⟨?_, List.forall_mem_cons.mpr ⟨fun _ => named, names⟩⟩
      simp only [List.filter_cons, callable, ↓reduceIte, List.map_cons]
      exact rest.trans ((code.append_left _).trans List.perm_middle)
    | false =>
      rw [callable, if_neg Bool.false_ne_true] at success
      obtain ⟨rest, names⟩ := ih success
      simp only [List.filter_cons, callable, Bool.false_eq_true, ↓reduceIte]
      refine ⟨rest, List.forall_mem_cons.mpr ⟨fun never => ?_, names⟩⟩
      exact absurd (callable.symm.trans never) Bool.false_ne_true

/-- The code of an entity's router: what every router has, and one endpoint for each instance or class
behavior. -/
theorem router_code {registry : Registry} {owner : Entity}
    (success : (router registry owner).outcome = .ok module) :
    ∃ behaviors, (ActiveBehavior.ofEntity registry owner).outcome = .ok behaviors ∧
      module.code.Perm ((Router.skeleton owner.name
          (.name (Identity.of owner).type.serverName)).code ++
        (behaviors.filter fun behavior => behavior.type.isMethod).map fun behavior =>
          (Endpoint.of behavior).statement owner.name
            (.name (Identity.of owner).type.serverName)) ∧
      ∀ behavior ∈ behaviors, behavior.type.isMethod = true →
        isName behavior.function.name = true := by
  unfold router at success
  obtain ⟨identity, resolved, success⟩ := Step.bind_eq_ok_iff.mp success
  obtain ⟨_, _, success⟩ := Step.bind_eq_ok_iff.mp success
  obtain ⟨_, _, success⟩ := Step.bind_eq_ok_iff.mp success
  obtain ⟨_, _, success⟩ := Step.bind_eq_ok_iff.mp success
  obtain ⟨_, _, success⟩ := Step.bind_eq_ok_iff.mp success
  obtain ⟨behaviors, attached, success⟩ := Step.bind_eq_ok_iff.mp success
  obtain rfl : Identity.of owner = identity :=
    Except.ok.inj ((Identity.resolve_outcome owner).symm.trans resolved)
  obtain ⟨code, names⟩ := addEndpoints_code success
  exact ⟨behaviors, attached, code.trans List.perm_append_comm, names⟩

/-- A router that is generated is printed from the module of its entity. -/
theorem exists_router_of_generate {registry : Registry} {declared : Declared Entity}
    {produced : Produced} (success : (generateRoute declared registry).outcome = .ok produced) :
    ∃ module, (router registry declared.unit).outcome = .ok module ∧ Prints module produced := by
  unfold generateRoute at success
  obtain ⟨module, built, success⟩ := Step.bind_eq_ok_iff.mp success
  obtain ⟨text, printed, success⟩ := Step.bind_eq_ok_iff.mp success
  cases success
  exact ⟨module, built, text, printed, rfl⟩

/-- A router is generated if its module can be printed. -/
theorem exists_route_of_isPrintable {registry : Registry} {declared : Declared Entity}
    (checked : Module.isPrintable (router registry declared.unit).outcome = true) :
    ∃ produced, (generateRoute declared registry).outcome = .ok produced := by
  obtain ⟨module, text, made, printed⟩ :=
    Module.exists_text_of_isPrintable generatedHeader checked
  refine ⟨.text text, ?_⟩
  simp only [generateRoute, Step.outcome_bind, made, ok_bind, Step.outcome_ofExcept, printed,
    Step.outcome_pure]

end Router

section Query

variable (entity : String) (idType : Expr)

/-- The router of an entity before behaviors, with what endpoints need that read the address. -/
def askableRouter : Module :=
  { Router.skeleton entity idType with
    body := Module.changeFirst (Module.importsFrom "fastapi")
      (fun _ => .importing "fastapi"
        ["APIRouter", "HTTPException", "Request", "Response", "status"])
      (Router.skeleton entity idType).body }

private theorem withNames_request : Module.withNames ["Request"]
    (.importing "fastapi" ["APIRouter", "HTTPException", "Response", "status"]) =
      .importing "fastapi" ["APIRouter", "HTTPException", "Request", "Response", "status"] := by
  have once : Module.distinct ["Request"] = ["Request"] := by decide
  simp [Module.withNames, Statement.importing, once, List.mergeSort,
    List.MergeSort.Internal.splitInTwo, Alias.plain]

private theorem mergeImport_skeleton : (Router.skeleton entity idType).mergeImport "fastapi"
    ["Request"] = askableRouter entity idType := by
  have merged : (Router.skeleton entity idType).mergeImport "fastapi" ["Request"] =
      { Router.skeleton entity idType with
        body := Module.changeFirst (Module.importsFrom "fastapi")
          (fun _ => Module.withNames ["Request"]
            (.importing "fastapi" ["APIRouter", "HTTPException", "Response", "status"]))
          (Router.skeleton entity idType).body } := rfl
  rw [merged, withNames_request]
  rfl

theorem addEndpoints_askableRouter {behavior : ActiveBehavior} {behaviors : List ActiveBehavior}
    (callable : behavior.type.isMethod = true)
    (asks : takesQuery behavior.httpMethod = true) :
    addEndpoints entity idType (behavior :: behaviors)
        (Router.skeleton entity idType) =
      addEndpoints entity idType (behavior :: behaviors) (askableRouter entity idType) := by
  have needs : (Endpoint.of behavior).needs = "Request" := if_pos asks
  have again : (askableRouter entity idType).mergeImport "fastapi" ["Request"] =
      askableRouter entity idType := rfl
  have same : (Endpoint.of behavior).addTo entity idType
      (Router.skeleton entity idType) =
        (Endpoint.of behavior).addTo entity idType (askableRouter entity idType) := by
    simp only [Endpoint.addTo, needs, mergeImport_skeleton, again]
  simp only [addEndpoints, callable, ↓reduceIte, same]

/-- The router of an entity with its name in normal form, if the first of its behaviors needs what
endpoints need that read the address. -/
theorem router_askable {registry : Registry} {owner : Entity} {relationships : List Relationship}
    {behavior : ActiveBehavior} {behaviors : List ActiveBehavior}
    (linked : (resolveAssociations registry owner).outcome = .ok relationships)
    (named : checkNames (Router.names owner.name) = .ok ())
    (listing : identifier ("list_" ++ routeModule owner.name) = "list_" ++ routeModule owner.name)
    (reading : identifier ("get_" ++ snakeCase owner.name) = "get_" ++ snakeCase owner.name)
    (attached : (ActiveBehavior.ofEntity registry owner).outcome = .ok (behavior :: behaviors))
    (callable : behavior.type.isMethod = true) (asks : takesQuery behavior.httpMethod = true) :
    (router registry owner).outcome =
      (addEndpoints owner.name (.name (Identity.of owner).type.serverName) (behavior :: behaviors)
        (askableRouter owner.name (.name (Identity.of owner).type.serverName))).outcome := by
  obtain ⟨_, listed⟩ : ∃ found, (Router.skeleton owner.name
      (.name (Identity.of owner).type.serverName)).getFunction ("list_" ++ routeModule owner.name) =
        .ok found :=
    Router.exists_getFunction_iff.mpr (by simp [Router.functionNames, listing])
  obtain ⟨_, read⟩ : ∃ found, (Router.skeleton owner.name
      (.name (Identity.of owner).type.serverName)).getFunction ("get_" ++ snakeCase owner.name) =
        .ok found :=
    Router.exists_getFunction_iff.mpr (by simp [Router.functionNames, reading])
  simp only [router, Step.outcome_bind, Identity.resolve_outcome, linked, Step.outcome_ofExcept, named,
    listed, read, attached, ok_bind]
  rw [addEndpoints_askableRouter owner.name _ callable asks]

end Query

end Blueprint.Server
