import Blueprint.Registry
import Blueprint.Proofs.Client.RemoteCalls
import Blueprint.Proofs.Resolve.Attachment
import Blueprint.Proofs.Text

namespace Blueprint.Client

open Design ServerCode Server.BusinessObject

/-- Pieces of code that are made from the behaviors of an entity whose types are accepted: each from
a declared behavior, and of every declared behavior as many as the entity takes elements of it. -/
def MadeOf {α : Type} (registry : Registry) (entity : Entity) (accepts : BehaviorType → Bool)
    (made : ActiveBehavior → α → Prop) (pieces : List α) : Prop :=
  ∃ makers : List ActiveBehavior, List.Forall₂ made makers pieces ∧
    (∀ maker ∈ makers, accepts maker.type = true ∧
      ∃ behavior ∈ registry.behaviors, behavior.unit.onKind? .entity = some maker) ∧
    ∀ behavior ∈ registry.behaviors, (makers.map ActiveBehavior.name).count behavior.unit.name =
      ActiveBehavior.shares registry entity accepts behavior

section Pieces

variable {registry : Registry} {behaviors : List ActiveBehavior}

theorem madeOf_of_forall₂ {α : Type} {entity : Entity} {accepts : BehaviorType → Bool}
    {made : ActiveBehavior → α → Prop} {pieces : List α}
    (attached : (ActiveBehavior.ofEntity registry entity).outcome = .ok behaviors)
    (alike : List.Forall₂ made (behaviors.filter (accepts ·.type)) pieces) :
    MadeOf registry entity accepts made pieces := by
  refine ⟨_, alike, fun maker listed => ?_, fun behavior declared => ?_⟩
  · obtain ⟨member, accepted⟩ := List.mem_filter.mp listed
    exact ⟨accepted, ActiveBehavior.of_mem_ofEntity attached member⟩
  · exact ActiveBehavior.count_ofEntity attached declared

private theorem madeOf_map {α : Type} {entity : Entity} {accepts : BehaviorType → Bool}
    (attached : (ActiveBehavior.ofEntity registry entity).outcome = .ok behaviors)
    (image : ActiveBehavior → α) :
    MadeOf registry entity accepts (fun behavior piece => piece = image behavior)
      ((behaviors.filter (accepts ·.type)).map image) := by
  refine madeOf_of_forall₂ attached ?_
  rw [List.forall₂_map_right_iff, List.forall₂_same]
  exact fun _ _ => rfl

end Pieces

section Generated

variable {registry : Registry} {declared : Declared Entity} {behaviors : List ActiveBehavior}

/-- The class of a business object holds what is made of behaviors: code at the operations where they
run, and methods behind the others. -/
def ObjectMadeOf (registry : Registry) (declared : Declared Entity)
    (object : Generation.Produced) : Prop :=
  ∃ (business : Module) (splices : Splices) (methods : List Statement),
    Server.Prints business object ∧
    business.findClass? declared.unit.name = some (.classDef declared.unit.name [] [] []
      (attributes declared.unit.name (Identity.of declared.unit).name ++
        (members declared.unit.name (.name (Identity.of declared.unit).type.serverName)).map
          (Member.statement splices) ++ methods)) ∧
    (∀ method position, ∃ groups, splices method position = groups.flatten ∧
      MadeOf registry declared.unit (runsAt · method position)
        (RunsBody declared.unit.name business.bodies) groups) ∧
    MadeOf registry declared.unit BehaviorType.isMethod (IsMethodOf business.bodies) methods

/-- A router answers with endpoints that are made of behaviors, besides those over records. -/
def RouterMadeOf (registry : Registry) (declared : Declared Entity)
    (route : Generation.Produced) : Prop :=
  ∃ (router : Module) (endpoints : List Statement),
    Server.Prints router route ∧
    IsRouter declared.unit.name (.name (Identity.of declared.unit).type.serverName)
      ("/" ++ collectionPath declared.unit.name) endpoints router ∧
    MadeOf registry declared.unit BehaviorType.isMethod
      (fun behavior endpoint => endpoint = (Server.Endpoint.of behavior).statement
        declared.unit.name (.name (Identity.of declared.unit).type.serverName)) endpoints

/-- A client asks with stubs that are made of behaviors. -/
def ClientMadeOf (registry : Registry) (declared : Declared Entity)
    (client : Generation.Produced) : Prop :=
  ∃ (source : ClientCode.Source) (stubs : List ClientCode.Method),
    client = .text source.render ∧
    IsClient declared.unit.name (Identity.of declared.unit) (collectionPath declared.unit.name)
      stubs source ∧
    MadeOf registry declared.unit BehaviorType.isMethod
      (fun behavior stub => stub = (Stub.of behavior).method declared.unit.name
        (Identity.of declared.unit).name) stubs

variable (attached : (ActiveBehavior.ofEntity registry declared.unit).outcome = .ok behaviors)

include attached

private theorem objectMadeOf_of_generate {object : Generation.Produced}
    (stored : (Server.generateBusinessObject declared registry).outcome = .ok object) :
    ObjectMadeOf registry declared object := by
  obtain ⟨dataSource, business, _, built, printed⟩ :=
    Server.exists_businessObject_of_generate stored
  obtain ⟨others, splices, methods, same, synthesized⟩ := exists_synthesized built
  obtain rfl := Except.ok.inj (attached.symm.trans same)
  refine ⟨business, splices, methods, printed, synthesized.found, fun method position => ?_,
    madeOf_of_forall₂ attached synthesized.methods⟩
  obtain ⟨groups, joined, runs⟩ := synthesized.spliced method position
  exact ⟨groups, joined, madeOf_of_forall₂ attached runs⟩

private theorem routerMadeOf_of_generate {route : Generation.Produced}
    (routed : (Server.generateRoute declared registry).outcome = .ok route) :
    RouterMadeOf registry declared route := by
  obtain ⟨router, made, shown⟩ := Server.exists_router_of_generate routed
  obtain ⟨others, same, code, _⟩ := Server.router_code made
  obtain rfl := Except.ok.inj (attached.symm.trans same)
  exact ⟨router, _, shown, isRouter_of_code code, madeOf_map attached _⟩

private theorem clientMadeOf_of_generate {client : Generation.Produced}
    (asked : (generateBusinessObject declared registry).outcome = .ok client) :
    ClientMadeOf registry declared client := by
  obtain ⟨properties, relationships, others, _, same, given⟩ :=
    exists_source_of_generateBusinessObject asked
  obtain rfl := Except.ok.inj (attached.symm.trans same)
  have shape := isClient_businessObjectSource declared.unit.name (Identity.of declared.unit)
    (dataMembers (Identity.of declared.unit) properties relationships) relationships
    (stubsOf behaviors)
  rw [stubsOf, List.map_map] at shape
  exact ⟨_, _, given, shape, madeOf_map attached _⟩

end Generated

/-- An entity takes of a behavior as many elements as owners of the entity bear the name of the
behavior's owner, so none twice iff no owner of a behavior that can be taken occurs twice there. What
is generated is made of these elements one by one: the code that runs at an operation, the methods of
the class, the endpoints of the router and the stubs of the client. -/
theorem behaviors_act_as_owned (registry : Registry) (declared : Declared Entity) :
    ∃ behaviors, (ActiveBehavior.ofEntity registry declared.unit).outcome = .ok behaviors ∧
      MadeOf registry declared.unit (fun _ => true) Eq behaviors ∧
      ((behaviors.map ActiveBehavior.name).Nodup ↔
        ∀ behavior ∈ registry.behaviors, (behavior.unit.onKind? .entity).isSome = true →
          (ActiveBehavior.owners registry declared.unit).count behavior.unit.owner ≤ 1) ∧
      (∀ object, (Server.generateBusinessObject declared registry).outcome = .ok object →
        ObjectMadeOf registry declared object) ∧
      (∀ route, (Server.generateRoute declared registry).outcome = .ok route →
        RouterMadeOf registry declared route) ∧
      (∀ client, (generateBusinessObject declared registry).outcome = .ok client →
        ClientMadeOf registry declared client) := by
  have attached := ActiveBehavior.outcome_ofEntity registry declared.unit
  refine ⟨_, attached, ?_, ActiveBehavior.nodup_ofEntity_iff attached,
    fun _ => objectMadeOf_of_generate attached, fun _ => routerMadeOf_of_generate attached,
    fun _ => clientMadeOf_of_generate attached⟩
  refine madeOf_of_forall₂ attached ?_
  rw [List.filter_eq_self.mpr fun _ _ => rfl, List.forall₂_eq_eq_eq]

/-- A mixin and the entity that applies it bear one name, and a behavior is attached to it. -/
def audited : String :=
  "Entity Audit\n    mixins: Audit\nend\n\nMixin Audit\nend\n\n" ++
    "Behavior Stamp on Audit\n    type: \"Before Update\"\n    function stamp()\n" ++
    "    ```\n    pass\n    ```\nend\n"

/-- The entity takes the behavior twice. -/
theorem stamp_taken_twice : ∃ registry, loadTexts audited [] = .ok registry ∧
    ∃ declared ∈ registry.entities, ∃ behaviors,
      (ActiveBehavior.ofEntity registry declared.unit).outcome = .ok behaviors ∧
      behaviors.map ActiveBehavior.name = ["Stamp", "Stamp"] := by
  have read : ((loadTexts audited []).toOption.any fun registry =>
      registry.entities.any fun declared =>
        (ActiveBehavior.ofEntity registry declared.unit).outcome.toOption.any fun behaviors =>
          behaviors.map ActiveBehavior.name == ["Stamp", "Stamp"]) = true := by
    rw [loadTexts, parseSources, parseSources, parseSources, parse]
    delta audited
    rw [String.toList_append, String.toList_append]
    simp (disch := rfl) only [Text.toList_of_eq]
    decide +kernel
  cases loaded : loadTexts audited [] with
  | error failure =>
    rw [loaded] at read
    cases read
  | ok registry =>
    rw [loaded] at read
    obtain ⟨declared, listed, twice⟩ := List.any_eq_true.mp read
    obtain ⟨behaviors, attached, named⟩ := Option.any_eq_true _ _ |>.mp twice
    refine ⟨registry, rfl, declared, listed, behaviors, ?_, eq_of_beq named⟩
    cases outcome : (ActiveBehavior.ofEntity registry declared.unit).outcome with
    | error failure =>
      rw [outcome] at attached
      cases attached
    | ok others =>
      rw [outcome] at attached
      exact congrArg _ (Option.some.inj attached)

end Blueprint.Client
