import Blueprint.Resolve.Behavior

namespace Blueprint

open Design

/-- A mixin that a unit applies. -/
structure MixinApplication where
  mixin : Mixin
  behaviors : List ActiveBehavior

namespace MixinApplication

/-- The named mixins; `owner` applies them. -/
def resolveFrom (registry : Registry) (owner : String) :
    List String → Step (List MixinApplication)
  | [] => return []
  | name :: rest =>
    match registry.findMixin? name with
    | none => Step.fail (.unitNotFound .mixin name (some owner))
    | some mixin => do
      let behaviors ← ActiveBehavior.of registry .mixin mixin.unit.name
      Step.debug s!"mixin {mixin.unit.name} applied to {owner}"
      let others ← resolveFrom registry owner rest
      return ⟨mixin.unit, behaviors⟩ :: others

/-- The mixins that a unit applies, in order. Only entities and components have any. -/
def resolve (registry : Registry) (unit : Design.Unit) : Step (List MixinApplication) :=
  match unit with
  | .entity entity => resolveFrom registry entity.name entity.mixins
  | .component component => resolveFrom registry component.name component.mixins
  | other => Step.fail (.mixinsOfOther other.kind other.name)

/-- A property together with who provides it. -/
structure Provided where
  property : Property
  provider : String

/-- Adds a property of a mixin to the merged ones; a collision is reported. -/
def mergeProperty (mixin : String) (merged : List (String × Provided)) (property : Property) :
    Step (List (String × Provided)) := do
  match OrderedMap.get? property.name merged with
  | some earlier =>
    Step.warning
      s!"property '{property.name}' from mixin {mixin} overrides the one from {earlier.provider}"
  | none => pure ⟨⟩
  return OrderedMap.put property.name ⟨property, "mixin " ++ mixin⟩ merged

/-- A unit's own properties followed by those of its mixins. -/
def mergeProperties (own : List Property) (applications : List MixinApplication) :
    Step (List Property) := do
  let start := OrderedMap.ofList (own.map fun property => (property.name, ⟨property, "the owner"⟩))
  let merged ← applications.foldlM
    (fun merged application =>
      application.mixin.properties.foldlM (mergeProperty application.mixin.name) merged) start
  return merged.map (·.2.property)

end MixinApplication

/-- A unit's own properties and those of its mixins. -/
def effectiveProperties (registry : Registry) (unit : Design.Unit) : Step (List Property) :=
  if unit.mixins.isEmpty then return unit.properties
  else do
    let applications ← MixinApplication.resolve registry unit
    MixinApplication.mergeProperties unit.properties applications

end Blueprint
