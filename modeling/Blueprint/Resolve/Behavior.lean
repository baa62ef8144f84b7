import Blueprint.Design.Check
import Blueprint.Registry
import Blueprint.Step

namespace Blueprint

open Design

namespace Design.BehaviorType

/-- Runs at a fixed moment of an operation, or after the start. -/
def isLifecycle : BehaviorType → Bool
  | ofInstance | ofClass | app => false
  | _ => true

/-- Becomes a method that clients can call. -/
def isMethod : BehaviorType → Bool
  | ofInstance | ofClass => true
  | _ => false

/-- Belongs to a project. -/
def isOfProject : BehaviorType → Bool
  | afterStart | app => true
  | _ => false

/-- Whether it runs before or after an operation, and the operation. -/
def moment? : BehaviorType → Option (String × String)
  | beforeCreate => some ("Before", "Create")
  | afterCreate => some ("After", "Create")
  | beforeUpdate => some ("Before", "Update")
  | afterUpdate => some ("After", "Update")
  | beforeDelete => some ("Before", "Delete")
  | afterDelete => some ("After", "Delete")
  | beforeRead => some ("Before", "Read")
  | afterRead => some ("After", "Read")
  | _ => none

end Design.BehaviorType

/-- A behavior with a type and a function. -/
structure ActiveBehavior where
  name : String
  owner : String
  type : BehaviorType
  httpMethod : HttpMethod
  function : Function
  imports : String
  uses : List String

namespace ActiveBehavior

/-- The result type of a behavior's function as it is written. -/
def returnType? (behavior : ActiveBehavior) : Option TypeRef := behavior.function.returns

end ActiveBehavior

namespace Design.Behavior

/-- The type of a behavior; a checked behavior has a known type, an empty one or none. -/
def type? (behavior : Behavior) : Option BehaviorType := behavior.type.bind BehaviorType.ofName?

/-- The behavior as it is generated, from its type and its function. -/
def active (behavior : Behavior) (type : BehaviorType) (function : Function) : ActiveBehavior :=
  { name := behavior.name, owner := behavior.owner, type
    httpMethod := behavior.httpMethod.getD .post, function
    imports := behavior.imports, uses := behavior.uses }

/-- The behavior as it is generated on a unit, if it can be. -/
def attach (behavior : Behavior) (kind : UnitKind) (owner : String) :
    Step (Option ActiveBehavior) :=
  match behavior.type?, behavior.function with
  | none, _ => do
    Step.warning s!"behavior {behavior.name} on {owner} has no type; skipped"
    return none
  | some _, none => do
    Step.warning s!"behavior {behavior.name} on {owner} has no function; skipped"
    return none
  | some type, some function => do
    if type.isOfProject == (kind == .project) then return some (behavior.active type function)
    let place := if type.isOfProject then "a project" else "an entity or mixin"
    Step.warning s!"{type.name} behavior {behavior.name} must be attached to {place}; skipped"
    return none

end Design.Behavior

namespace ActiveBehavior

/-- The behaviors among some declarations whose owner is a unit, in order. -/
def attached (kind : UnitKind) (owner : String) :
    List (Declared Behavior) → Step (List ActiveBehavior)
  | [] => return []
  | behavior :: rest =>
    if behavior.unit.owner == owner then do
      let here ← behavior.unit.attach kind owner
      let others ← attached kind owner rest
      return here.toList ++ others
    else attached kind owner rest

/-- The behaviors of a unit, in the order of their declaration. -/
def of (registry : Registry) (kind : UnitKind) (owner : String) : Step (List ActiveBehavior) :=
  attached kind owner registry.behaviors

/-- The behaviors of the named mixins that are declared. -/
def ofMixins (registry : Registry) : List String → Step (List ActiveBehavior)
  | [] => return []
  | name :: rest =>
    if (registry.findMixin? name).isSome then do
      let here ← of registry .mixin name
      let others ← ofMixins registry rest
      return here ++ others
    else ofMixins registry rest

/-- The behaviors of an entity followed by those of its mixins. -/
def ofEntity (registry : Registry) (entity : Entity) : Step (List ActiveBehavior) := do
  let own ← of registry .entity entity.name
  let mixed ← ofMixins registry entity.mixins
  return own ++ mixed

end ActiveBehavior

/-- The behaviors whose owner is neither an entity nor a mixin nor a project. -/
def orphanBehaviors (registry : Registry) : List String :=
  (registry.behaviors.filter fun behavior =>
    !List.any [UnitKind.entity, .mixin, .project] fun kind =>
      registry.has kind behavior.unit.owner).map (·.unit.name)

end Blueprint
