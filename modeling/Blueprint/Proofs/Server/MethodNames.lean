import Mathlib.Data.List.Nodup
import Blueprint.Registry
import Blueprint.Proofs.Server.BehaviorMethods

namespace Blueprint.ServerCode.Statement

/-- A statement of a class gives a name its meaning. -/
def defines (name : String) : Statement → Bool
  | function _ own _ _ _ _ | classDef own _ _ _ _ => own == name
  | assign targets _ => targets.any fun
    | .name own => own == name
    | _ => false
  | _ => false

/-- What callers reach under a name of a class: a later definition takes the place of an earlier
one. -/
def reached? (name : String) (body : List Statement) : Option Statement :=
  body.reverse.find? (defines name)

section Reached

variable {name : String} {body : List Statement}

private theorem reached?_append (front back : List Statement) :
    reached? name (front ++ back) = (reached? name back).or (reached? name front) := by
  rw [reached?, List.reverse_append, List.find?_append]
  rfl

private theorem reached?_eq_none_iff :
    reached? name body = none ↔ ∀ statement ∈ body, statement.defines name = false := by
  simp [reached?]

theorem mem_of_reached? {statement : Statement} (found : reached? name body = some statement) :
    statement ∈ body ∧ statement.defines name = true :=
  ⟨List.mem_reverse.mp (List.mem_of_find?_eq_some found), List.find?_some found⟩

theorem reached?_of_only {statement : Statement} (member : statement ∈ body)
    (own : statement.defines name = true)
    (only : ∀ other ∈ body, other.defines name = true → other = statement) :
    reached? name body = some statement := by
  cases found : reached? name body with
  | none =>
    rw [reached?_eq_none_iff.mp found statement member] at own
    cases own
  | some other =>
    obtain ⟨listed, defined⟩ := mem_of_reached? found
    rw [only other listed defined]

end Reached

end Blueprint.ServerCode.Statement

namespace Blueprint.Server.BusinessObject

open Design ServerCode

/-- The names of the methods that behaviors become, in order: those of their functions, in normal
form. -/
def methodNames (behaviors : List ActiveBehavior) : List String :=
  (behaviors.filter fun behavior => behavior.type.isMethod).map fun behavior =>
    identifier behavior.function.name

/-- The names of the methods of every business object. -/
def ownNames : List String :=
  ["__init__", "to_dict", "find", "find_one", "find_by_id", "find_or_create", "count", "create",
    "create_many", "update", "update_by_id", "upsert", "delete", "delete_by_id", "save"]

section Behaviors

variable {bodies : List String} {makers : List ActiveBehavior} {added : List Statement}
  {name : String}

theorem IsMethodOf.functionName? {behavior : ActiveBehavior} {method : Statement}
    (become : IsMethodOf bodies behavior method) :
    method.functionName? = some (identifier behavior.function.name) := by
  obtain ⟨params, returns, prologue, number, _, rfl⟩ := become
  rfl

theorem IsMethodOf.defines {behavior : ActiveBehavior} {method : Statement}
    (become : IsMethodOf bodies behavior method) :
    method.defines name = (identifier behavior.function.name == name) := by
  obtain ⟨params, returns, prologue, number, _, rfl⟩ := become
  rfl

private theorem functionNames_of_methods (become : List.Forall₂ (IsMethodOf bodies) makers added) :
    added.filterMap Statement.functionName? = makers.map fun maker => identifier maker.function.name := by
  induction become with
  | nil => rfl
  | cons here _ ih => rw [List.filterMap_cons, here.functionName?, List.map_cons, ih]

/-- Under a name the methods of behaviors hold nothing, or the method of a behavior whose function
has this name. -/
theorem reached?_of_methods (become : List.Forall₂ (IsMethodOf bodies) makers added)
    (name : String) :
    (Statement.reached? name added = none ∧ ∀ maker ∈ makers, identifier maker.function.name ≠ name) ∨
      ∃ maker ∈ makers, identifier maker.function.name = name ∧
        ∃ method, Statement.reached? name added = some method ∧
          IsMethodOf bodies maker method := by
  cases found : Statement.reached? name added with
  | none =>
    refine Or.inl ⟨rfl, fun maker listed same => ?_⟩
    obtain ⟨method, member, made⟩ := exists_of_mem_forall₂ become listed
    have undefined := Statement.reached?_eq_none_iff.mp found method member
    rw [IsMethodOf.defines made, same, beq_self_eq_true] at undefined
    cases undefined
  | some method =>
    obtain ⟨member, defined⟩ := Statement.mem_of_reached? found
    obtain ⟨maker, listed, made⟩ := exists_of_mem_forall₂ become.flip member
    rw [IsMethodOf.defines made] at defined
    exact Or.inr ⟨maker, listed, eq_of_beq defined, method, rfl, made⟩

end Behaviors

section Own

variable {entity : String} {idType : Expr} {idField : String} {splices : Splices}
  {added : List Statement} {member : Member} {name : String}

private theorem names_members : (members entity idType).map Member.name? = ownNames.map some := rfl

private theorem name_of_mem_members (listed : member ∈ members entity idType) :
    ∃ name ∈ ownNames, member.name? = some name := by
  have named := List.mem_map_of_mem (f := Member.name?) listed
  rw [names_members] at named
  obtain ⟨name, own, same⟩ := List.mem_map.mp named
  exact ⟨name, own, same.symm⟩

private theorem attributes_undefined (own : name ∈ ownNames) :
    ∀ statement ∈ attributes entity idField, statement.defines name = false := by
  have others : name ≠ "entity_name" ∧ name ≠ "id_field" ∧ name ≠ "data_source" := by
    refine ⟨?_, ?_, ?_⟩ <;> rintro rfl <;> exact absurd own (by decide)
  simp [attributes, Statement.documentation, Statement.bind, Statement.defines, others.1.symm,
    others.2.1.symm, others.2.2.symm]

private theorem defines_statement (listed : member ∈ members entity idType) :
    (member.statement splices).defines name = true ↔ member.name? = some name := by
  have named := Member.functionName?_statement splices member
  obtain ⟨own, _, same⟩ := name_of_mem_members listed
  rw [same] at named ⊢
  cases shape : member.statement splices <;> rw [shape] at named <;>
    simp_all [Statement.functionName?, Statement.defines]

theorem reached?_own (listed : member ∈ members entity idType) (named : member.name? = some name) :
    Statement.reached? name (attributes entity idField ++
      (members entity idType).map (Member.statement splices)) =
        some (member.statement splices) := by
  obtain ⟨own, isOwn, same⟩ := name_of_mem_members listed
  obtain rfl : own = name := Option.some.inj (same.symm.trans named)
  refine Statement.reached?_of_only (List.mem_append_right _ (List.mem_map_of_mem listed))
    ((defines_statement listed).mpr named) fun other inside defined => ?_
  rcases List.mem_append.mp inside with ahead | inMembers
  · rw [attributes_undefined isOwn other ahead] at defined
    cases defined
  · obtain ⟨rival, present, rfl⟩ := List.mem_map.mp inMembers
    have distinct := (classSkeleton entity idType idField).distinct
    rw [List.inj_on_of_nodup_map distinct present listed
      (((defines_statement present).mp defined).trans named.symm)]

theorem gives_of_operation {operation : Operation}
    (listed : .operation operation ∈ members entity idType) :
    ∃ front value, operation.after = front ++ [Statement.give value] := by
  simp only [members, List.mem_cons, List.not_mem_nil, or_false, Member.operation.injEq,
    reduceCtorEq, false_or] at listed
  rcases listed with rfl | rfl | rfl | rfl | rfl | rfl | rfl | rfl
  · exact ⟨[], _, rfl⟩
  · exact ⟨[failWithout "records"], _, rfl⟩
  · exact ⟨[], _, rfl⟩
  · exact ⟨[], _, rfl⟩
  · exact ⟨[], _, rfl⟩
  · exact ⟨[failWithout "records"], _, rfl⟩
  · exact ⟨[], _, rfl⟩
  · exact ⟨[failWithout "deleted"], _, rfl⟩

/-- A method of a behavior ends with the placeholder of its body, and no method of the class does. -/
theorem not_isMethodOf_own (listed : member ∈ members entity idType) {bodies : List String}
    {behavior : ActiveBehavior} : ¬ IsMethodOf bodies behavior (member.statement splices) := by
  rintro ⟨params, returns, prologue, number, _, same⟩
  have last : (Module.functionBody (member.statement splices)).getLast? =
      some (Module.placeholder number) := by
    rw [same]
    exact List.getLast?_concat
  cases member with
  | operation operation =>
    obtain ⟨front, value, ends⟩ := gives_of_operation listed
    have shape : Module.functionBody ((Member.operation operation).statement splices) =
        operation.before ++ splices operation.name .before ++
          operation.store :: (splices operation.name .after ++ front) ++ [Statement.give value] := by
      simp [Member.statement, classMethod, Module.functionBody, ends]
    rw [shape, List.getLast?_concat] at last
    cases last
  | plain method =>
    simp only [members, List.mem_cons, List.not_mem_nil, or_false, Member.plain.injEq,
      reduceCtorEq, false_or] at listed
    rcases listed with rfl | rfl | rfl | rfl | rfl | rfl | rfl <;>
    simp [Member.statement, classMethod, initMethod, toDictMethod, findOneMethod,
      findOrCreateMethod, countMethod, upsertMethod, saveMethod, Statement.give,
      Module.placeholder, Module.functionBody, Expr.apply, Expr.dotted] at last

private theorem functionNames_own :
    (attributes entity idField ++ (members entity idType).map
      (Member.statement splices)).filterMap Statement.functionName? = ownNames := by
  have unnamed : (attributes entity idField).filterMap Statement.functionName? = [] := rfl
  have named : (members entity idType).filterMap Member.name? = ownNames := rfl
  rw [List.filterMap_append, unnamed, List.nil_append, List.filterMap_map, ← named]
  exact List.filterMap_congr fun member _ => Member.functionName?_statement splices member

end Own

section Body

variable {entity : String} {idType : Expr} {idField : String} {splices : Splices}
  {behaviors : List ActiveBehavior} {bodies : List String} {added : List Statement}
  {member : Member} {name : String}

private theorem mem_methodNames : name ∈ methodNames behaviors ↔
    ∃ behavior ∈ behaviors.filter fun behavior => behavior.type.isMethod,
      identifier behavior.function.name = name :=
  List.mem_map

private theorem nodup_names_iff : (ownNames ++ methodNames behaviors).Nodup ↔
    (methodNames behaviors).Nodup ∧ ∀ name ∈ methodNames behaviors, name ∉ ownNames := by
  have distinct : ownNames.Nodup := by decide
  rw [List.nodup_append]
  constructor
  · rintro ⟨_, added, apart⟩
    exact ⟨added, fun name listed own => apart name own name listed rfl⟩
  · rintro ⟨added, apart⟩
    exact ⟨distinct, added, fun name own other listed same => apart other listed (same ▸ own)⟩

variable (become : List.Forall₂ (IsMethodOf bodies)
  (behaviors.filter fun behavior => behavior.type.isMethod) added)
include become

private theorem functionNames_body :
    ((classSkeleton entity idType idField).body splices added).filterMap Statement.functionName? =
      ownNames ++ methodNames behaviors := by
  have whole : (classSkeleton entity idType idField).body splices added =
      attributes entity idField ++ (members entity idType).map (Member.statement splices) ++ added :=
    rfl
  rw [whole, List.filterMap_append, functionNames_own, functionNames_of_methods become]
  rfl

/-- A method of the class is reached unless a behavior becomes a method of its name. -/
theorem reached?_own_iff (listed : member ∈ members entity idType)
    (named : member.name? = some name) :
    Statement.reached? name ((classSkeleton entity idType idField).body splices added) =
        some (member.statement splices) ↔ name ∉ methodNames behaviors := by
  have own : Statement.reached? name (attributes entity idField ++
      (members entity idType).map (Member.statement splices)) = some (member.statement splices) :=
    reached?_own listed named
  have reached : Statement.reached? name ((classSkeleton entity idType idField).body splices added) =
      (Statement.reached? name added).or (some (member.statement splices)) :=
    own ▸ Statement.reached?_append _ _
  rw [reached, mem_methodNames]
  rcases reached?_of_methods become name with
    ⟨none, absent⟩ | ⟨maker, present, same, method, found, made⟩
  · rw [none, Option.none_or]
    exact iff_of_true rfl fun ⟨maker, present, same⟩ => absent maker present same
  · rw [found, Option.some_or]
    refine iff_of_false (fun kept => ?_) fun free => free ⟨maker, present, same⟩
    exact not_isMethodOf_own listed (Option.some.inj kept ▸ made)

theorem reached?_method (taken : name ∈ methodNames behaviors) :
    ∃ behavior ∈ behaviors, behavior.type.isMethod = true ∧
      identifier behavior.function.name = name ∧ ∃ method, Statement.reached? name
          ((classSkeleton entity idType idField).body splices added) = some method ∧
        IsMethodOf bodies behavior method := by
  rcases reached?_of_methods become name with
    ⟨_, absent⟩ | ⟨maker, present, same, method, found, made⟩
  · obtain ⟨maker, present, same⟩ := mem_methodNames.mp taken
    exact absurd same (absent maker present)
  · obtain ⟨declared, callable⟩ := List.mem_filter.mp present
    have reached : Statement.reached? name
        ((classSkeleton entity idType idField).body splices added) = some method := by
      refine (Statement.reached?_append _ _).trans ?_
      rw [found, Option.some_or]
    exact ⟨maker, declared, callable, same, method, reached, made⟩

end Body

/-- The methods of a business object have the names of its own methods and then those of the
functions of its instance and class behaviors, in normal form. They are distinct iff no two of these
functions share a name and none is called like an own method. An own method, with all code that was spliced into it,
is what callers reach under its name iff no such function has this name; under the name of a function
they reach the method of a behavior. -/
theorem own_methods_reached_iff {registry : Registry} {entity : Entity} {dataSource : String}
    {module : Module} (success : (businessObject registry entity dataSource).outcome = .ok module) :
    ∃ behaviors splices added body,
      (ActiveBehavior.ofEntity registry entity).outcome = .ok behaviors ∧
      Synthesized (classSkeleton entity.name (.name (Identity.of entity).type.serverName)
        (Identity.of entity).name) entity.name behaviors splices added module ∧
      module.findClass? entity.name = some (.classDef entity.name [] [] [] body) ∧
      body.filterMap Statement.functionName? = ownNames ++ methodNames behaviors ∧
      ((body.filterMap Statement.functionName?).Nodup ↔ (methodNames behaviors).Nodup ∧
        ∀ name ∈ methodNames behaviors, name ∉ ownNames) ∧
      (∀ member ∈ members entity.name (.name (Identity.of entity).type.serverName),
        ∀ name ∈ member.name?, Statement.reached? name body = some (member.statement splices) ↔
          name ∉ methodNames behaviors) ∧
      ∀ name ∈ methodNames behaviors, ∃ behavior ∈ behaviors, behavior.type.isMethod = true ∧
        identifier behavior.function.name = name ∧ ∃ method, Statement.reached? name body = some method ∧
          IsMethodOf module.bodies behavior method := by
  obtain ⟨behaviors, splices, added, attached, synthesized⟩ := exists_synthesized success
  have methods := synthesized.methods
  refine ⟨behaviors, splices, added, _, attached, synthesized, synthesized.found,
    functionNames_body methods, ?_, ?_, fun name taken => reached?_method methods taken⟩
  · rw [functionNames_body methods]
    exact nodup_names_iff
  · exact fun member listed name named => reached?_own_iff methods listed named

/-- An entity with a check of what is created, and a behavior whose function is called like an
operation. -/
def importedOrders : Registry where
  units := [⟨.entity { offset := 0, name := "Order" }, false, none, 0⟩,
    orderBehavior "check" "Before Create" "print(data_items)",
    orderBehavior "create" "Class" "return None",
    orderBehavior "total" "Instance" "return 0"]
  distinct := by decide

theorem own_methods_reached_iff_orders : ∃ module behaviors splices body,
    (businessObject importedOrders { offset := 0, name := "Order" } "Main").outcome = .ok module ∧
    (ActiveBehavior.ofEntity importedOrders { offset := 0, name := "Order" }).outcome =
      .ok behaviors ∧
    module.findClass? "Order" = some (.classDef "Order" [] [] [] body) ∧
    ((body.filterMap Statement.functionName?).Nodup ↔ (methodNames behaviors).Nodup ∧
      ∀ name ∈ methodNames behaviors, name ∉ ownNames) ∧
    ∀ member ∈ members "Order" (.name "int"), ∀ name ∈ member.name?,
      Statement.reached? name body = some (member.statement splices) ↔
        name ∉ methodNames behaviors := by
  have success : (businessObject importedOrders { offset := 0, name := "Order" }
      "Main").outcome.isOk = true := by
    decide
  cases outcome : (businessObject importedOrders { offset := 0, name := "Order" } "Main").outcome with
  | error failure =>
    rw [outcome] at success
    cases success
  | ok module =>
    obtain ⟨behaviors, splices, added, body, attached, _, found, _, distinct, own, _⟩ :=
      own_methods_reached_iff outcome
    exact ⟨module, behaviors, splices, body, rfl, attached, found, distinct, own⟩

/-- The class has two methods `create`. Callers reach the one that does not touch the data source,
not the operation with the check in it. -/
theorem create_replaced_orders : ∃ module body,
    (businessObject importedOrders { offset := 0, name := "Order" } "Main").outcome = .ok module ∧
    module.getClass "Order" = .ok body ∧
    ¬ (body.filterMap Statement.functionName?).Nodup ∧
    (∃ statement ∈ body, statement.functionName? = some "create" ∧ statement.usesStore = true) ∧
    ∃ statement, Statement.reached? "create" body = some statement ∧
      statement.usesStore = false := by
  have checked : ((businessObject importedOrders { offset := 0, name := "Order" }
      "Main").outcome.toOption.any fun module => (module.getClass "Order").toOption.any fun body =>
        !decide (body.filterMap Statement.functionName?).Nodup &&
        body.any (fun statement =>
          decide (statement.functionName? = some "create" ∧ statement.usesStore = true)) &&
        (Statement.reached? "create" body).any fun statement => !statement.usesStore) = true := by
    decide
  cases outcome : (businessObject importedOrders { offset := 0, name := "Order" } "Main").outcome with
  | error failure =>
    rw [outcome] at checked
    cases checked
  | ok module =>
    rw [outcome] at checked
    cases held : module.getClass "Order" with
    | error failure => simp [Except.toOption, held] at checked
    | ok body =>
      simp only [Except.toOption, held, Option.any_some, Bool.and_eq_true, Bool.not_eq_true',
        decide_eq_false_iff_not, List.any_eq_true, decide_eq_true_eq, Option.any_eq_true] at checked
      obtain ⟨⟨repeated, spliced⟩, replaced⟩ := checked
      exact ⟨module, body, rfl, held, repeated, spliced, replaced⟩

end Blueprint.Server.BusinessObject
