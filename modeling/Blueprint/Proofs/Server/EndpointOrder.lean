import Blueprint.Proofs.Server.Endpoints
import Blueprint.Proofs.Server.Tables

namespace Blueprint.ServerCode.Module

/-- The functions of a module, in order. -/
def functions (module : Module) : List Statement := module.body.filter (·.functionName?.isSome)

private theorem functions_eq (module : Module) :
    module.functions = module.code.filter (·.functionName?.isSome) := by
  rw [functions, code, List.filter_filter]
  refine List.filter_congr fun statement _ => ?_
  cases statement <;> rfl

section Insertion

variable {name : String} {statement target : Statement} {front back body : List Statement}

theorem insertBefore_cons (other : Statement) :
    insertBefore (some name) statement (other :: body) =
      if other.functionName? == some name then statement :: other :: body
      else other :: insertBefore (some name) statement body := by
  cases here : other.functionName? == some name with
  | true =>
    simp only [insertBefore, Option.bind_some, List.findIdx?_cons, here, ↓reduceIte]
    rfl
  | false =>
    simp only [insertBefore, Option.bind_some, List.findIdx?_cons, here, Bool.false_eq_true, ↓reduceIte]
    cases body.findIdx? fun other => other.functionName? == some name <;> rfl

theorem functions_insertBefore (isFunction : statement.functionName?.isSome = true) :
    (insertBefore (some name) statement body).filter (·.functionName?.isSome) =
      insertBefore (some name) statement (body.filter (·.functionName?.isSome)) := by
  induction body with
  | nil => exact List.filter_cons_of_pos isFunction
  | cons other body ih =>
    rw [insertBefore_cons]
    cases defined : other.functionName? with
    | none => simp [defined, ih]
    | some own =>
      rw [List.filter_cons_of_pos (by rw [defined]; rfl), insertBefore_cons, defined]
      split
      · simp [isFunction, defined]
      · simp [defined, ih]

theorem insertBefore_append (absent : ∀ other ∈ front, other.functionName? ≠ some name) :
    insertBefore (some name) statement (front ++ body) =
      front ++ insertBefore (some name) statement body := by
  induction front with
  | nil => rfl
  | cons other front ih =>
    rw [List.forall_mem_cons] at absent
    rw [List.cons_append, insertBefore_cons, if_neg (by simpa using absent.1), ih absent.2]
    rfl

theorem insertBefore_target (statement : Statement) (back : List Statement)
    (named : target.functionName? = some name) (ahead : List Statement) :
    ∃ placed, placed.Perm (statement :: ahead) ∧
      insertBefore (some name) statement (ahead ++ target :: back) = placed ++ target :: back := by
  induction ahead with
  | nil => exact ⟨[statement], .refl _, by simp [insertBefore_cons, named]⟩
  | cons other ahead ih =>
    rw [List.cons_append, insertBefore_cons]
    split
    · exact ⟨statement :: other :: ahead, .refl _, rfl⟩
    · obtain ⟨placed, same, inserted⟩ := ih
      exact ⟨other :: placed, (same.cons other).trans (.swap _ _ _), by rw [inserted]; rfl⟩

end Insertion

end Blueprint.ServerCode.Module

namespace Blueprint.Server

open Design ServerCode Generation

namespace Router

variable (entity : String) (idType : Expr)

/-- The functions of a router that stand ahead of its endpoints over one record. -/
def ahead : List Statement := parseFilter :: serialize entity :: (endpoints entity idType).take 1

/-- The endpoints of a router from the one that reads a record on. -/
def overRecords : List Statement := (endpoints entity idType).drop 1

private theorem functions_skeleton :
    (skeleton entity idType).functions = ahead entity idType ++ overRecords entity idType := rfl

private theorem not_named_get_ahead : ∀ statement ∈ ahead entity idType,
    statement.functionName? ≠ some ("get_" ++ snakeCase entity) := by
  have head : ("get_" ++ snakeCase entity).toList.head? = some 'g' := by simp
  simp only [ahead, endpoints, List.take_succ_cons, List.take_zero, List.forall_mem_cons,
    List.not_mem_nil, false_implies, implies_true, and_true]
  refine ⟨?_, ?_, ?_⟩
  · exact fun same => absurd (Option.some.inj same ▸ head) (by decide)
  · exact fun same => absurd (Option.some.inj same ▸ head) (by decide)
  · have other : "list_".toList.head? ≠ some 'g' := by decide
    exact fun same => identifier_ne_of_head (by decide) (by decide) head other _
      (Option.some.inj same)

/-- The endpoints of the behaviors of one type, in their order. -/
def endpointsOf (type : BehaviorType) (behaviors : List ActiveBehavior) : List Statement :=
  (behaviors.filter fun behavior => behavior.type == type).map fun behavior =>
    (Endpoint.of behavior).statement entity idType

/-- The functions of a router as requests meet them: the endpoints of class behaviors stand ahead of the
router's own over one record, those of instance behaviors behind all others and in their order. -/
def InOrder (behaviors : List ActiveBehavior) (functions : List Statement) : Prop :=
  ∃ ofClass, ofClass.Perm (endpointsOf entity idType .ofClass behaviors) ∧
    functions = ahead entity idType ++ (ofClass ++ (overRecords entity idType ++
      endpointsOf entity idType .ofInstance behaviors))

end Router

section Order

variable {entity : String} {idType : Expr} {module changed : Module}
  {behaviors earlier : List ActiveBehavior} {behavior : ActiveBehavior}

/-- What adding an endpoint does to the functions of a router. -/
theorem Endpoint.functions_addTo {endpoint : Endpoint}
    (success : endpoint.addTo entity idType module = .ok changed) :
    changed.functions = Module.insertBefore
      (if endpoint.onRecord then none else some ("get_" ++ snakeCase entity))
      (endpoint.statement entity idType) module.functions := by
  obtain ⟨_, _, success⟩ := bind_eq_ok_iff.mp success
  cases success
  have kept : ((module.mergeImport "fastapi" [endpoint.needs]).body.filter
      (·.functionName?.isSome)) = module.functions := by
    have same := Module.functions_eq (module.mergeImport "fastapi" [endpoint.needs])
    rwa [Module.code_mergeImport, ← Module.functions_eq] at same
  cases onRecord : endpoint.onRecord with
  | true =>
    change ((module.mergeImport "fastapi" [endpoint.needs]).body ++
      [endpoint.statement entity idType]).filter (·.functionName?.isSome) = _
    rw [List.filter_append, kept]
    rfl
  | false =>
    rw [← kept]
    exact Module.functions_insertBefore rfl

theorem Router.endpointsOf_append_singleton (type : BehaviorType) :
    endpointsOf entity idType type (earlier ++ [behavior]) = endpointsOf entity idType type earlier ++
      if behavior.type == type then [(Endpoint.of behavior).statement entity idType] else [] := by
  rw [endpointsOf, List.filter_append, List.map_append, endpointsOf]
  congr 1
  cases same : behavior.type == type <;> simp [same]

/-- One more endpoint keeps the order: it is put ahead of the first function that reads a record, which
is the router's own or that of an earlier behavior, or at the end. -/
theorem Router.InOrder.addTo (normal : identifier ("get_" ++ snakeCase entity) = "get_" ++ snakeCase entity)
    (order : InOrder entity idType earlier module.functions)
    (callable : behavior.type.isMethod = true)
    (success : (Endpoint.of behavior).addTo entity idType module = .ok changed) :
    InOrder entity idType (earlier ++ [behavior]) changed.functions := by
  obtain ⟨ofClass, same, arranged⟩ := order
  rw [Endpoint.functions_addTo success, arranged, InOrder, endpointsOf_append_singleton,
    endpointsOf_append_singleton]
  cases type : behavior.type with
  | ofInstance =>
    refine ⟨ofClass, by simpa using same, ?_⟩
    simp [Endpoint.of, type, Module.insertBefore]
  | ofClass =>
    obtain ⟨target, back, shape, named⟩ : ∃ target back, overRecords entity idType = target :: back ∧
        target.functionName? = some ("get_" ++ snakeCase entity) :=
      ⟨_, _, rfl, congrArg some normal⟩
    obtain ⟨placed, moved, inserted⟩ := Module.insertBefore_target
      ((Endpoint.of behavior).statement entity idType)
      (back ++ endpointsOf entity idType .ofInstance earlier) named ofClass
    refine ⟨placed, ?_, ?_⟩
    · rw [if_pos (beq_self_eq_true BehaviorType.ofClass)]
      exact moved.trans ((same.cons _).trans (List.perm_append_singleton _ _).symm)
    · have off : (Endpoint.of behavior).onRecord = false := by simp [Endpoint.of, type]
      rw [off, if_neg Bool.false_ne_true, Module.insertBefore_append (not_named_get_ahead entity idType),
        shape, List.cons_append, inserted]
      simp
  | _ =>
    rw [type] at callable
    cases callable

/-- A behavior without an endpoint changes nothing. -/
theorem Router.InOrder.skip {functions : List Statement}
    (order : InOrder entity idType earlier functions) (uncallable : behavior.type.isMethod = false) :
    InOrder entity idType (earlier ++ [behavior]) functions := by
  have other {type : BehaviorType} (callable : type.isMethod = true) :
      endpointsOf entity idType type (earlier ++ [behavior]) = endpointsOf entity idType type earlier := by
    have apart : (behavior.type == type) = false :=
      beq_false_of_ne fun same => Bool.false_ne_true (uncallable.symm.trans (same ▸ callable))
    rw [endpointsOf_append_singleton, apart, if_neg Bool.false_ne_true, List.append_nil]
  rw [InOrder, other rfl, other rfl]
  exact order

/-- Adding behaviors one after the other keeps the order. -/
theorem Router.InOrder.addEndpoints
    (normal : identifier ("get_" ++ snakeCase entity) = "get_" ++ snakeCase entity)
    (order : InOrder entity idType earlier module.functions)
    (success : (Server.addEndpoints entity idType behaviors module).outcome = .ok changed) :
    InOrder entity idType (earlier ++ behaviors) changed.functions := by
  induction behaviors generalizing module earlier with
  | nil =>
    cases success
    rwa [List.append_nil]
  | cons behavior behaviors ih =>
    rw [List.append_cons]
    unfold Server.addEndpoints at success
    cases callable : behavior.type.isMethod with
    | true =>
      rw [callable, if_pos rfl] at success
      obtain ⟨extended, added, success⟩ := Step.bind_eq_ok_iff.mp success
      obtain ⟨_, _, success⟩ := Step.bind_eq_ok_iff.mp success
      exact ih (order.addTo normal callable added) success
    | false =>
      rw [callable, if_neg Bool.false_ne_true] at success
      exact ih (order.skip callable) success

theorem Router.inOrder_skeleton : InOrder entity idType [] (skeleton entity idType).functions :=
  ⟨[], .refl _, by rw [functions_skeleton]; simp [endpointsOf]⟩

/-- The router of an entity is in order. -/
theorem router_inOrder {registry : Registry} {owner : Entity}
    (success : (router registry owner).outcome = .ok module) :
    ∃ behaviors, (ActiveBehavior.ofEntity registry owner).outcome = .ok behaviors ∧
      Router.InOrder owner.name (.name (Identity.of owner).type.serverName) behaviors
        module.functions := by
  unfold router at success
  obtain ⟨identity, resolved, success⟩ := Step.bind_eq_ok_iff.mp success
  obtain ⟨_, _, success⟩ := Step.bind_eq_ok_iff.mp success
  obtain ⟨_, _, success⟩ := Step.bind_eq_ok_iff.mp success
  obtain ⟨_, _, success⟩ := Step.bind_eq_ok_iff.mp success
  obtain ⟨_, found, success⟩ := Step.bind_eq_ok_iff.mp success
  obtain ⟨behaviors, attached, success⟩ := Step.bind_eq_ok_iff.mp success
  obtain rfl : Identity.of owner = identity :=
    Except.ok.inj ((Identity.resolve_outcome owner).symm.trans resolved)
  rw [Step.outcome_ofExcept] at found
  have normal : identifier ("get_" ++ snakeCase owner.name) = "get_" ++ snakeCase owner.name := by
    rw [identifier_lead (by decide) (by decide), Router.identifier_of_getFunction_get found]
  exact ⟨behaviors, attached, Router.inOrder_skeleton.addEndpoints normal success⟩

/-- In every router that is generated the endpoints of class behaviors stand ahead of the router's own
over one record, whatever the functions of behaviors are called, and those of instance behaviors stand
behind them in the order of the behaviors; there is one endpoint for each of these behaviors, and the
router's own functions keep their order. -/
theorem class_endpoints_ahead {registry : Registry} {declared : Declared Entity}
    {produced : Produced} (success : (generateRoute declared registry).outcome = .ok produced) :
    ∃ behaviors module, (ActiveBehavior.ofEntity registry declared.unit).outcome = .ok behaviors ∧
      Prints module produced ∧ Router.InOrder declared.unit.name
        (.name (Identity.of declared.unit).type.serverName) behaviors module.functions := by
  obtain ⟨module, built, printed⟩ := exists_router_of_generate success
  obtain ⟨behaviors, attached, order⟩ := router_inOrder built
  exact ⟨behaviors, module, attached, printed, order⟩

end Order

/-- A function of shelves. -/
def shelfFunction (name : String) : Function :=
  { name, async := true, params := [], returns := none, body := "pass" }

/-- A behavior of shelves with its function. -/
def shelfBehavior (name type function : String) : Behavior :=
  { offset := 0, name, owner := "Shelf", type := some type, httpMethod := some .get
    function := some (shelfFunction function) }

/-- An instance behavior of shelves, a class behavior whose endpoint is called as the one that reads a
record, and another class behavior. -/
def shelfBehaviors : List ActiveBehavior :=
  [(shelfBehavior "Tidy" "Instance" "tidy").active .ofInstance (shelfFunction "tidy"),
    (shelfBehavior "Get" "Class" "get").active .ofClass (shelfFunction "get"),
    (shelfBehavior "Count" "Class" "count").active .ofClass (shelfFunction "count")]

/-- Shelves with these behaviors. -/
def shelves : Registry where
  units := Registry.declare none false 0 (stored ++ [.entity { offset := 0, name := "Shelf" },
    .behavior (shelfBehavior "Tidy" "Instance" "tidy"),
    .behavior (shelfBehavior "Get" "Class" "get"),
    .behavior (shelfBehavior "Count" "Class" "count")])
  distinct := by decide

theorem class_endpoints_ahead_shelves : ∃ produced module,
    (generateRoute ⟨{ offset := 0, name := "Shelf" }, false, none, 2⟩ shelves).outcome =
      .ok produced ∧ Prints module produced ∧
    Router.InOrder "Shelf" (.name "int") shelfBehaviors module.functions := by
  have attached : (ActiveBehavior.ofEntity shelves { offset := 0, name := "Shelf" }).outcome =
      .ok shelfBehaviors := rfl
  have linked : (resolveAssociations shelves { offset := 0, name := "Shelf" }).outcome =
      .ok [] := rfl
  have built : (router shelves { offset := 0, name := "Shelf" }).outcome =
      (addEndpoints "Shelf" (.name "int") shelfBehaviors
        (askableRouter "Shelf" (.name "int"))).outcome :=
    router_askable linked rfl (identifier_of_ascii (by decide)) (identifier_of_ascii (by decide)) rfl
      rfl rfl
  have checked : Module.isPrintable
      (router shelves { offset := 0, name := "Shelf" }).outcome = true := by
    rw [built]
    decide +kernel
  obtain ⟨produced, success⟩ : ∃ produced,
      (generateRoute ⟨{ offset := 0, name := "Shelf" }, false, none, 2⟩ shelves).outcome =
        .ok produced := exists_route_of_isPrintable checked
  obtain ⟨behaviors, module, found, printed, order⟩ := class_endpoints_ahead success
  obtain rfl : shelfBehaviors = behaviors := Except.ok.inj (attached.symm.trans found)
  exact ⟨produced, module, success, printed, order⟩

end Blueprint.Server
