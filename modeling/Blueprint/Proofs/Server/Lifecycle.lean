import Mathlib.Data.List.Forall2
import Blueprint.Proofs.Server.Splicing

namespace Blueprint.Server.BusinessObject

open Design ServerCode

/-- The operations of a stage in the life of a record. -/
def stageOperations : String → List String
  | "Create" => ["create", "create_many"]
  | "Update" => ["update", "update_by_id"]
  | "Delete" => ["delete", "delete_by_id"]
  | "Read" => ["find", "find_by_id"]
  | _ => []

/-- A class has every operation of every stage. -/
def ClassSkeleton.Complete (skeleton : ClassSkeleton) : Prop :=
  ∀ stage, ∀ method ∈ stageOperations stage, ∃ operation,
    .operation operation ∈ skeleton.members ∧ operation.name = method

/-- The word for a side of the call of the data source. -/
def timing : SplicePosition → String
  | .before => "Before"
  | .after => "After"

/-- A type of behavior belongs to one side of an operation. -/
def runsAt (type : BehaviorType) (method : String) (position : SplicePosition) : Bool :=
  match type.moment? with
  | some (time, stage) => time == timing position && (stageOperations stage).contains method
  | none => false

/-- Statements that run a lifecycle behavior: the class under its name for spliced code, then the
placeholder of the behavior's kept body. -/
def RunsBody (className : String) (bodies : List String) (behavior : ActiveBehavior)
    (statements : List Statement) : Prop :=
  ∃ number text, lifecycleBody className behavior = .ok text ∧ bodies[number]? = some text ∧
    statements = [modelBinding, Module.placeholder number]

/-- The method of an instance or class behavior, which ends with the placeholder of the behavior's
kept body. -/
def IsMethodOf (bodies : List String) (behavior : ActiveBehavior) (method : Statement) : Prop :=
  ∃ params returns prologue number, bodies[number]? = some behavior.function.body ∧
    method = .function behavior.function.async (identifier behavior.function.name)
      (.of (.plain (if behavior.type = .ofInstance then "self" else "cls") :: params)) returns
      (if behavior.type = .ofInstance then [] else [.name "classmethod"])
      (prologue ++ [Module.placeholder number])

/-- A module after some behaviors: splices and added methods stand in the order of the behaviors. -/
structure Synthesized (skeleton : ClassSkeleton) (className : String)
    (behaviors : List ActiveBehavior) (splices : Splices) (added : List Statement)
    (module : Module) : Prop extends Layout skeleton className splices added module where
  spliced : ∀ method position, ∃ groups, splices method position = groups.flatten ∧
    List.Forall₂ (RunsBody className module.bodies)
      (behaviors.filter fun behavior => runsAt behavior.type method position) groups
  methods : List.Forall₂ (IsMethodOf module.bodies)
    (behaviors.filter fun behavior => behavior.type.isMethod) added

section Types

variable {type : BehaviorType}

private theorem runsAt_of_splicePlaces {methods : List String} {position : SplicePosition}
    (places : splicePlaces type = some (methods, position)) (method : String)
    (place : SplicePosition) :
    runsAt type method place = true ↔ method ∈ methods ∧ place = position := by
  cases type <;> cases places <;> cases place <;>
    simp [runsAt, BehaviorType.moment?, timing, stageOperations]

private theorem runsAt_of_no_splicePlaces (nowhere : splicePlaces type = none) (method : String)
    (place : SplicePosition) : runsAt type method place = false := by
  cases type <;> first | rfl | cases nowhere

private theorem splicePlaces_of_isMethod (callable : type.isMethod = true) :
    splicePlaces type = none := by
  cases type <;> first | rfl | cases callable

theorem splicePlaces_stage {methods : List String} {position : SplicePosition}
    (places : splicePlaces type = some (methods, position)) :
    methods.Nodup ∧ type.isMethod = false ∧ ∃ stage, methods = stageOperations stage := by
  cases type <;> cases places <;> refine ⟨by decide, rfl, ?_⟩
  · exact ⟨"Create", rfl⟩
  · exact ⟨"Create", rfl⟩
  · exact ⟨"Update", rfl⟩
  · exact ⟨"Update", rfl⟩
  · exact ⟨"Delete", rfl⟩
  · exact ⟨"Delete", rfl⟩
  · exact ⟨"Read", rfl⟩
  · exact ⟨"Read", rfl⟩

end Types

section Behaviors

variable {skeleton : ClassSkeleton} {className : String} {behaviors : List ActiveBehavior}
  {splices : Splices} {added : List Statement} {module changed : Module}

private theorem getElem?_append_of_some {bodies more : List String} {number : Nat} {text : String}
    (kept : bodies[number]? = some text) : (bodies ++ more)[number]? = some text := by
  rw [List.getElem?_append_left (List.getElem?_eq_some_iff.mp kept).1]
  exact kept

private theorem runsBody_grown {found : List ActiveBehavior} {groups : List (List Statement)}
    {bodies : List String} (runs : List.Forall₂ (RunsBody className bodies) found groups)
    (more : List String) : List.Forall₂ (RunsBody className (bodies ++ more)) found groups := by
  refine runs.imp ?_
  rintro behavior statements ⟨number, text, body, kept, same⟩
  exact ⟨number, text, body, getElem?_append_of_some kept, same⟩

private theorem isMethodOf_grown {found : List ActiveBehavior} {methods : List Statement}
    {bodies : List String} (become : List.Forall₂ (IsMethodOf bodies) found methods)
    (more : List String) : List.Forall₂ (IsMethodOf (bodies ++ more)) found methods := by
  refine become.imp ?_
  rintro behavior method ⟨params, returns, prologue, number, kept, same⟩
  exact ⟨params, returns, prologue, number, getElem?_append_of_some kept, same⟩

private theorem filter_concat_of_false {keep : ActiveBehavior → Bool} {behavior : ActiveBehavior}
    (left : keep behavior = false) (earlier : List ActiveBehavior) :
    (earlier ++ [behavior]).filter keep = earlier.filter keep := by
  simp [left]

private theorem filter_concat_of_true {keep : ActiveBehavior → Bool} {behavior : ActiveBehavior}
    (taken : keep behavior = true) (earlier : List ActiveBehavior) :
    (earlier ++ [behavior]).filter keep = earlier.filter keep ++ [behavior] := by
  simp [taken]

private theorem behaviorMethod_shape {behavior : ActiveBehavior} {entities : List String}
    {method : List Statement → Statement}
    (success : behaviorMethod className behavior entities = .ok method) :
    ∃ params returns prologue, ∀ body, method body =
      .function behavior.function.async (identifier behavior.function.name)
        (.of (.plain (if behavior.type = .ofInstance then "self" else "cls") :: params)) returns
        (if behavior.type = .ofInstance then [] else [.name "classmethod"])
        (prologue ++ body) := by
  unfold behaviorMethod at success
  obtain ⟨used, _, success⟩ := bind_eq_ok_iff.mp success
  obtain ⟨params, _, success⟩ := bind_eq_ok_iff.mp success
  obtain ⟨_, _, success⟩ := bind_eq_ok_iff.mp success
  obtain ⟨imports, _, success⟩ := bind_eq_ok_iff.mp success
  obtain ⟨_, _, success⟩ := bind_eq_ok_iff.mp success
  cases success
  simp only [beq_iff_eq]
  exact ⟨params, _, _, fun body => rfl⟩

namespace Synthesized

theorem of_same (before : Synthesized skeleton className behaviors splices added module)
    (same : module.SameClasses changed) :
    Synthesized skeleton className behaviors splices added changed where
  toLayout := before.toLayout.of_same same
  spliced := by
    rw [same.bodies]
    exact before.spliced
  methods := by
    rw [same.bodies]
    exact before.methods

/-- An instance or class behavior adds one method behind the others and no splice. -/
theorem addMethod (before : Synthesized skeleton className behaviors splices added module)
    {behavior : ActiveBehavior} {entities : List String} (callable : behavior.type.isMethod = true)
    (success : addBehaviorMethod module className behavior entities = .ok changed) :
    ∃ method, Synthesized skeleton className (behaviors ++ [behavior]) splices (added ++ [method])
      changed := by
  unfold addBehaviorMethod at success
  obtain ⟨method, built, success⟩ := bind_eq_ok_iff.mp success
  obtain ⟨params, returns, prologue, shape⟩ := behaviorMethod_shape built
  cases success
  have layout : Layout skeleton className splices added
      { module with bodies := module.bodies ++ [behavior.function.body] } :=
    ⟨before.found, before.counted, before.quiet, before.addedKept⟩
  refine ⟨method [Module.placeholder module.bodies.length], layout.append ?_, ?_, ?_⟩
  · rw [shape]
    rfl
  · intro name position
    obtain ⟨groups, same, runs⟩ := before.spliced name position
    refine ⟨groups, same, ?_⟩
    rw [filter_concat_of_false
      (runsAt_of_no_splicePlaces (splicePlaces_of_isMethod callable) name position)]
    exact runsBody_grown runs [behavior.function.body]
  · rw [filter_concat_of_true callable]
    apply List.rel_append (isMethodOf_grown before.methods [behavior.function.body])
    refine .cons ⟨params, returns, prologue, module.bodies.length, ?_, shape _⟩ .nil
    exact List.getElem?_concat_length

/-- A lifecycle behavior is spliced into the operations of its stage and adds no method. -/
theorem splice (before : Synthesized skeleton className behaviors splices added module)
    (complete : skeleton.Complete) {behavior : ActiveBehavior} {methods : List String}
    {position : SplicePosition} {text : String}
    (places : splicePlaces behavior.type = some (methods, position))
    (body : lifecycleBody className behavior = .ok text)
    (success : spliceInto className position text methods module = .ok changed) :
    ∃ spliced, Synthesized skeleton className (behaviors ++ [behavior]) spliced added changed := by
  obtain ⟨distinct, uncallable, stage, same⟩ := splicePlaces_stage places
  obtain ⟨result, finished, layout, bodies⟩ := before.toLayout.spliceInto distinct
    (by rw [same]; exact complete stage) position text
  obtain rfl : result = changed := Except.ok.inj (finished.symm.trans success)
  refine ⟨_, layout, ?_, ?_⟩
  · intro method place
    obtain ⟨groups, joined, runs⟩ := before.spliced method place
    rw [bodies]
    by_cases here : method ∈ methods ∧ place = position
    · have taken := (runsAt_of_splicePlaces places method place).mpr here
      have kept : (module.bodies ++ List.replicate methods.length text)[
          module.bodies.length + methods.idxOf method]? = some text := by
        simp [List.idxOf_lt_length_iff, here.1]
      rw [filter_concat_of_true taken]
      refine ⟨groups ++ [[modelBinding, Module.placeholder
        (module.bodies.length + methods.idxOf method)]], ?_,
        List.rel_append (runsBody_grown runs _) (.cons ⟨_, text, body, kept, rfl⟩ .nil)⟩
      rw [List.flatten_concat, ← joined, Splices.extendAll, if_pos here]
    · have apart : runsAt behavior.type method place = false := by
        rw [← Bool.not_eq_true, runsAt_of_splicePlaces places]
        exact here
      rw [filter_concat_of_false apart]
      refine ⟨groups, ?_, runsBody_grown runs _⟩
      simp only [Splices.extendAll, here, ↓reduceIte, joined]
  · rw [bodies, filter_concat_of_false uncallable]
    exact isMethodOf_grown before.methods _

/-- A behavior that belongs neither to the class nor to an operation leaves the module alone. -/
theorem skip (before : Synthesized skeleton className behaviors splices added module)
    {behavior : ActiveBehavior} (uncallable : behavior.type.isMethod = false)
    (nowhere : splicePlaces behavior.type = none) :
    Synthesized skeleton className (behaviors ++ [behavior]) splices added module := by
  refine ⟨before.toLayout, ?_, ?_⟩
  · intro method place
    rw [filter_concat_of_false (runsAt_of_no_splicePlaces nowhere method place)]
    exact before.spliced method place
  · rw [filter_concat_of_false uncallable]
    exact before.methods

/-- One behavior takes its place behind the behaviors before it. -/
theorem addBehavior (before : Synthesized skeleton className behaviors splices added module)
    (complete : skeleton.Complete) {entities : List String} {behavior : ActiveBehavior}
    (success : (Server.addBehavior className entities module behavior).outcome = .ok changed) :
    ∃ splices added,
      Synthesized skeleton className (behaviors ++ [behavior]) splices added changed := by
  unfold Server.addBehavior at success
  obtain ⟨statements, _, success⟩ := Step.bind_eq_ok_iff.mp success
  obtain ⟨imported, imports, success⟩ := Step.bind_eq_ok_iff.mp success
  have start := before.of_same (Module.addImportStatements_same imports)
  cases callable : behavior.type.isMethod with
  | true =>
    rw [callable] at success
    obtain ⟨extended, built, success⟩ := Step.bind_eq_ok_iff.mp success
    obtain ⟨_, _, success⟩ := Step.bind_eq_ok_iff.mp success
    cases success
    obtain ⟨method, after⟩ := start.addMethod callable built
    exact ⟨splices, _, after⟩
  | false =>
    rw [callable] at success
    cases places : splicePlaces behavior.type with
    | none =>
      rw [places] at success
      cases success
      exact ⟨splices, added, start.skip callable places⟩
    | some place =>
      obtain ⟨methods, position⟩ := place
      rw [places] at success
      obtain ⟨text, body, success⟩ := Step.bind_eq_ok_iff.mp success
      obtain ⟨extended, inserted, success⟩ := Step.bind_eq_ok_iff.mp success
      obtain ⟨_, _, success⟩ := Step.bind_eq_ok_iff.mp success
      cases success
      obtain ⟨spliced, after⟩ := start.splice complete places body inserted
      exact ⟨spliced, added, after⟩

/-- Behaviors take their places one after the other. -/
theorem addBehaviors (before : Synthesized skeleton className behaviors splices added module)
    (complete : skeleton.Complete) {entities : List String} {more : List ActiveBehavior}
    (success : (Server.addBehaviors className entities more module).outcome = .ok changed) :
    ∃ splices added, Synthesized skeleton className (behaviors ++ more) splices added changed := by
  induction more generalizing behaviors splices added module with
  | nil =>
    cases success
    rw [List.append_nil]
    exact ⟨splices, added, before⟩
  | cons behavior more ih =>
    unfold Server.addBehaviors at success
    obtain ⟨extended, first, success⟩ := Step.bind_eq_ok_iff.mp success
    obtain ⟨spliced, methods, between⟩ := before.addBehavior complete first
    have finished := ih between success
    rwa [List.append_assoc] at finished

end Synthesized

end Behaviors

section Class

variable (entity : String) (idType : Expr) (idField : String)

/-- The methods of a business object; the operations are those that touch the data source for a
stage in the life of a record. -/
def members : List Member :=
  [.plain initMethod, .plain toDictMethod, .operation (find entity),
    .plain (findOneMethod entity), .operation (findById entity idType),
    .plain (findOrCreateMethod entity), .plain countMethod, .operation (create entity),
    .operation (createMany entity), .operation (update entity),
    .operation (updateById entity idType), .plain (upsertMethod entity), .operation delete,
    .operation (deleteById idType), .plain (saveMethod entity)]

private theorem storeCall_usesStore (result request : String) (arguments : List Expr) :
    (storeCall result request arguments).usesStore = true := by
  change (false || (((_ || true) || Expr.anyUsesStore arguments) || false)) = true
  rw [Bool.or_true, Bool.true_or]
  rfl

private theorem members_names : (members entity idType).map Member.name? =
    [some "__init__", some "to_dict", some "find", some "find_one", some "find_by_id",
      some "find_or_create", some "count", some "create", some "create_many", some "update",
      some "update_by_id", some "upsert", some "delete", some "delete_by_id", some "save"] := rfl

private theorem operation_mem_members {operation : Operation} :
    .operation operation ∈ members entity idType ↔
      operation = find entity ∨ operation = findById entity idType ∨
      operation = create entity ∨ operation = createMany entity ∨
      operation = update entity ∨ operation = updateById entity idType ∨
      operation = delete ∨ operation = deleteById idType := by
  simp [members]

/-- The class of a business object before behaviors are added. -/
def classSkeleton : ClassSkeleton where
  attributes := attributes entity idField
  members := members entity idType
  unnamed := by
    simp [attributes, Statement.bind, Statement.documentation, Statement.functionName?,
      Statement.isPass]
  named := by
    intro member inside unnamed
    have listed := List.mem_map_of_mem (f := Member.name?) inside
    rw [unnamed, members_names] at listed
    simp at listed
  distinct := by
    rw [members_names]
    decide
  quiet := by
    intro operation member
    have silent : operation.before.all (!·.usesStore) = true := by
      rcases (operation_mem_members entity idType).mp member with
        rfl | rfl | rfl | rfl | rfl | rfl | rfl | rfl <;> rfl
    exact fun statement inside => by simpa using List.all_eq_true.mp silent statement inside
  touches := by
    intro operation member
    rcases (operation_mem_members entity idType).mp member with
      rfl | rfl | rfl | rfl | rfl | rfl | rfl | rfl <;>
    exact storeCall_usesStore _ _ _

theorem classSkeleton_complete : (classSkeleton entity idType idField).Complete := by
  intro stage method inside
  change ∃ operation, .operation operation ∈ members entity idType ∧ _
  simp only [operation_mem_members]
  unfold stageOperations at inside
  split at inside <;> simp only [List.mem_cons, List.not_mem_nil, or_false] at inside
  · rcases inside with rfl | rfl
    · exact ⟨create entity, by simp, rfl⟩
    · exact ⟨createMany entity, by simp, rfl⟩
  · rcases inside with rfl | rfl
    · exact ⟨update entity, by simp, rfl⟩
    · exact ⟨updateById entity idType, by simp, rfl⟩
  · rcases inside with rfl | rfl
    · exact ⟨delete, by simp, rfl⟩
    · exact ⟨deleteById idType, by simp, rfl⟩
  · rcases inside with rfl | rfl
    · exact ⟨find entity, by simp, rfl⟩
    · exact ⟨findById entity idType, by simp, rfl⟩

variable {entity idType idField} in
/-- The class of an entity is found in its module only if its name is in normal form. -/
theorem identifier_of_getClass {dataSource : String} {body : List Statement}
    (success : (skeleton entity idType idField dataSource).getClass entity = .ok body) :
    identifier entity = entity := by
  by_contra other
  have absent : (skeleton entity idType idField dataSource).findClass? entity = none := by
    simp [Module.findClass?, skeleton, classDef, Statement.documentation, Statement.importing,
      Statement.importingAs, Statement.className?, other]
  rw [Module.getClass, absent] at success
  cases success

/-- The module of an entity holds its class before behaviors are added. -/
theorem skeleton_synthesized (normal : identifier entity = entity) (dataSource : String) :
    Synthesized (classSkeleton entity idType idField) entity [] (fun _ _ => []) []
      (skeleton entity idType idField dataSource) where
  found := by
    have whole : (classSkeleton entity idType idField).body (fun _ _ => []) [] =
        attributes entity idField ++ methods entity idType := rfl
    rw [whole]
    simp [Module.findClass?, skeleton, Statement.documentation, Statement.importing,
      Statement.importingAs, Statement.className?, classDef, normal]
  counted := fun _ _ => rfl
  quiet := by simp
  addedKept := by simp
  spliced := fun _ _ => ⟨[], rfl, .nil⟩
  methods := .nil

end Class

/-- The module of a business object is its skeleton with the behaviors of the entity in their
places. -/
theorem exists_synthesized {registry : Registry} {entity : Entity} {dataSource : String}
    {module : Module} (success : (businessObject registry entity dataSource).outcome = .ok module) :
    ∃ behaviors splices added, (ActiveBehavior.ofEntity registry entity).outcome = .ok behaviors ∧
      Synthesized (classSkeleton entity.name (.name (Identity.of entity).type.serverName)
        (Identity.of entity).name) entity.name behaviors splices added module := by
  unfold businessObject at success
  obtain ⟨identity, resolved, success⟩ := Step.bind_eq_ok_iff.mp success
  obtain ⟨_, _, success⟩ := Step.bind_eq_ok_iff.mp success
  obtain ⟨_, found, success⟩ := Step.bind_eq_ok_iff.mp success
  obtain ⟨behaviors, attached, success⟩ := Step.bind_eq_ok_iff.mp success
  obtain rfl : Identity.of entity = identity :=
    Except.ok.inj ((Identity.resolve_outcome entity).symm.trans resolved)
  obtain ⟨splices, added, synthesized⟩ := (skeleton_synthesized entity.name _ _
    (identifier_of_getClass found) _).addBehaviors (classSkeleton_complete _ _ _) success
  exact ⟨behaviors, splices, added, attached, synthesized⟩

def orderBehavior (name type body : String) : Declared Design.Unit where
  unit := .behavior
    { offset := 0, name, owner := "Order", type := some type
      function := some ⟨name, true, [], none, body⟩ }
  isLibrary := false
  source := none
  order := 0

/-- An entity with behaviors on both sides of its creation and one for its records. -/
def orders : Registry where
  units := [⟨.entity { offset := 0, name := "Order" }, false, none, 0⟩,
    orderBehavior "stamp" "Before Create" "data_items[0]['stamped'] = True",
    orderBehavior "audit" "After Create" "print(records)",
    orderBehavior "total" "Instance" "return 0",
    orderBehavior "check" "Before Create" "print(data_items)"]
  distinct := by decide

end Blueprint.Server.BusinessObject
