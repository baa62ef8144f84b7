import Blueprint.Resolve.Behavior
import Blueprint.Proofs.Registry

namespace Blueprint

open Design

namespace Design.Behavior

/-- The behavior as it is generated on a unit of a kind, if it can be. -/
def onKind? (behavior : Behavior) (kind : UnitKind) : Option ActiveBehavior :=
  match behavior.type?, behavior.function with
  | some type, some function =>
    if type.isOfProject == (kind == .project) then some (behavior.active type function) else none
  | _, _ => none

theorem outcome_attach (behavior : Behavior) (kind : UnitKind) (owner : String) :
    (behavior.attach kind owner).outcome = .ok (behavior.onKind? kind) := by
  unfold attach onKind?
  split
  · rename_i untyped
    simp [untyped, Step.warning]
  · rename_i typed absent
    simp [typed, absent, Step.warning]
  · rename_i typed present
    simp only [typed, present]
    split
    · rfl
    · simp [Step.warning]

theorem name_of_onKind? {behavior : Behavior} {kind : UnitKind} {active : ActiveBehavior}
    (attached : behavior.onKind? kind = some active) : active.name = behavior.name := by
  unfold onKind? at attached
  split at attached
  · split at attached
    · cases attached
      rfl
    · cases attached
  · cases attached

end Design.Behavior

namespace ActiveBehavior

/-- The behaviors that name a unit as their owner. -/
def owned (owner : String) (behaviors : List (Declared Behavior)) : List (Declared Behavior) :=
  behaviors.filter fun behavior => behavior.unit.owner == owner

/-- Behaviors are attached to a unit without fail: those of its name that can be. -/
theorem outcome_attached (kind : UnitKind) (owner : String) (behaviors : List (Declared Behavior)) :
    (attached kind owner behaviors).outcome =
      .ok ((owned owner behaviors).filterMap (·.unit.onKind? kind)) := by
  induction behaviors with
  | nil => rfl
  | cons behavior behaviors ih =>
    unfold attached
    by_cases same : (behavior.unit.owner == owner) = true
    · have first : owned owner (behavior :: behaviors) = behavior :: owned owner behaviors :=
        List.filter_cons_of_pos same
      rw [if_pos same, first, List.filterMap_cons]
      simp only [Step.outcome_bind, Step.outcome_pure, Behavior.outcome_attach, ih, ok_bind]
      cases behavior.unit.onKind? kind <;> rfl
    · have rest : owned owner (behavior :: behaviors) = owned owner behaviors :=
        List.filter_cons_of_neg same
      rw [if_neg same, ih, rest]

/-- A behavior is among those that are attached to a unit of a kind and a name. -/
def Holds (registry : Registry) (kind : UnitKind) (name : String) (behavior : Declared Behavior) :
    Prop :=
  ∃ active, (of registry kind name).outcome = .ok active ∧
    behavior.unit.name ∈ active.map ActiveBehavior.name

/-- A unit holds the behaviors that name it as their owner and can be generated on it. -/
theorem holds_iff {registry : Registry} {kind : UnitKind} {name : String}
    {behavior : Declared Behavior} (declared : behavior ∈ registry.behaviors) :
    Holds registry kind name behavior ↔
      behavior.unit.owner = name ∧ (behavior.unit.onKind? kind).isSome = true := by
  have attached := outcome_attached kind name registry.behaviors
  constructor
  · rintro ⟨active, outcome, listed⟩
    obtain rfl := Except.ok.inj (attached.symm.trans outcome)
    obtain ⟨one, member, named⟩ := List.mem_map.mp listed
    obtain ⟨other, kept, generated⟩ := List.mem_filterMap.mp member
    obtain ⟨further, addressed⟩ := List.mem_filter.mp kept
    have same : other = behavior := Registry.eq_of_mem_list behavior?_shows further declared
      ((Behavior.name_of_onKind? generated).symm.trans named)
    subst same
    exact ⟨eq_of_beq addressed, Option.isSome_iff_exists.mpr ⟨one, generated⟩⟩
  · rintro ⟨rfl, generated⟩
    obtain ⟨one, generated⟩ := Option.isSome_iff_exists.mp generated
    refine ⟨_, attached, List.mem_map.mpr ⟨one, ?_, Behavior.name_of_onKind? generated⟩⟩
    have own : behavior ∈ owned behavior.unit.owner registry.behaviors :=
      List.mem_filter.mpr ⟨declared, beq_self_eq_true _⟩
    exact List.mem_filterMap.mpr ⟨behavior, own, generated⟩

section OfEntity

/-- The units whose behaviors an entity takes: itself, and every declared mixin as often as it is
listed. -/
def owners (registry : Registry) (entity : Entity) : List String :=
  entity.name :: entity.mixins.filter fun name => (registry.findMixin? name).isSome

/-- What is taken from a unit. -/
def taken (registry : Registry) (owner : String) : List ActiveBehavior :=
  (owned owner registry.behaviors).filterMap (·.unit.onKind? .entity)

variable {registry : Registry}

theorem outcome_ofMixins (names : List String) :
    (ofMixins registry names).outcome =
      .ok ((names.filter fun name => (registry.findMixin? name).isSome).flatMap
        (taken registry)) := by
  induction names with
  | nil => rfl
  | cons name names ih =>
    have here : (of registry .mixin name).outcome = .ok (taken registry name) :=
      outcome_attached .mixin name registry.behaviors
    unfold ofMixins
    by_cases declared : (registry.findMixin? name).isSome = true
    · have first : (name :: names).filter (fun name => (registry.findMixin? name).isSome) =
          name :: names.filter fun name => (registry.findMixin? name).isSome :=
        List.filter_cons_of_pos declared
      rw [if_pos declared, first, List.flatMap_cons]
      simp only [Step.outcome_bind, Step.outcome_pure, here, ih, ok_bind]
    · have rest : (name :: names).filter (fun name => (registry.findMixin? name).isSome) =
          names.filter fun name => (registry.findMixin? name).isSome :=
        List.filter_cons_of_neg declared
      rw [if_neg declared, ih, rest]

/-- An entity takes the behaviors of its owners, one owner after the other. -/
theorem outcome_ofEntity (registry : Registry) (entity : Entity) :
    (ofEntity registry entity).outcome = .ok ((owners registry entity).flatMap (taken registry)) := by
  have own : (of registry .entity entity.name).outcome = .ok (taken registry entity.name) :=
    outcome_attached .entity entity.name registry.behaviors
  unfold ofEntity owners
  rw [List.flatMap_cons]
  simp only [Step.outcome_bind, Step.outcome_pure, own, outcome_ofMixins, ok_bind]

theorem mem_taken {owner : String} {active : ActiveBehavior} :
    active ∈ taken registry owner ↔ ∃ behavior ∈ registry.behaviors,
      behavior.unit.owner = owner ∧ behavior.unit.onKind? .entity = some active := by
  simp only [taken, owned, List.mem_filterMap, List.mem_filter, beq_iff_eq, and_assoc]

/-- How many elements of some types an entity takes of a behavior. -/
def shares (registry : Registry) (entity : Entity) (accepts : BehaviorType → Bool)
    (behavior : Declared Behavior) : Nat :=
  if (behavior.unit.onKind? .entity).any (accepts ·.type) then
    (owners registry entity).count behavior.unit.owner
  else 0

variable {accepts : BehaviorType → Bool} {behavior : Declared Behavior}

private theorem nodup_names_taken (registry : Registry) (owner : String) :
    ((taken registry owner).map ActiveBehavior.name).Nodup := by
  have distinct := registry.nodup_names_list behavior?_shows
  rw [List.Nodup, List.pairwise_map] at distinct ⊢
  rw [taken, List.pairwise_filterMap]
  refine (distinct.filter _).imp fun {one other} apart active first another second same => ?_
  rw [Behavior.name_of_onKind? first, Behavior.name_of_onKind? second] at same
  exact apart same

/-- A behavior is taken once from its owner, and not from other units. -/
theorem count_taken (declared : behavior ∈ registry.behaviors) (owner : String) :
    (((taken registry owner).filter (accepts ·.type)).map ActiveBehavior.name).count
        behavior.unit.name =
      if (behavior.unit.onKind? .entity).any (accepts ·.type) && owner == behavior.unit.owner then 1
      else 0 := by
  have distinct : (((taken registry owner).filter (accepts ·.type)).map ActiveBehavior.name).Nodup :=
    (nodup_names_taken registry owner).sublist (List.filter_sublist.map _)
  rw [List.Nodup.count distinct]
  refine if_congr ?_ rfl rfl
  rw [List.mem_map, Bool.and_eq_true, Option.any_eq_true, beq_iff_eq]
  constructor
  · rintro ⟨active, listed, named⟩
    obtain ⟨member, accepted⟩ := List.mem_filter.mp listed
    obtain ⟨other, further, owned, generated⟩ := mem_taken.mp member
    have same : other = behavior := Registry.eq_of_mem_list behavior?_shows further declared
      ((Behavior.name_of_onKind? generated).symm.trans named)
    subst same
    exact ⟨⟨active, generated, accepted⟩, owned.symm⟩
  · rintro ⟨⟨active, generated, accepted⟩, rfl⟩
    have member : active ∈ taken registry behavior.unit.owner :=
      mem_taken.mpr ⟨behavior, declared, rfl, generated⟩
    exact ⟨active, List.mem_filter.mpr ⟨member, accepted⟩, Behavior.name_of_onKind? generated⟩

/-- A behavior is taken as often as its owner is among those of the entity. -/
theorem count_ofEntity {entity : Entity} {behaviors : List ActiveBehavior}
    (attached : (ofEntity registry entity).outcome = .ok behaviors)
    (declared : behavior ∈ registry.behaviors) :
    ((behaviors.filter (accepts ·.type)).map ActiveBehavior.name).count behavior.unit.name =
      shares registry entity accepts behavior := by
  obtain rfl := Except.ok.inj ((outcome_ofEntity registry entity).symm.trans attached)
  unfold shares
  generalize owners registry entity = names
  induction names with
  | nil => simp
  | cons name names ih =>
    rw [List.flatMap_cons, List.filter_append, List.map_append, List.count_append, ih,
      count_taken declared, List.count_cons]
    cases (behavior.unit.onKind? .entity).any (accepts ·.type) with
    | true => simp [Nat.add_comm]
    | false => rfl

/-- What an entity takes is a declared behavior as it is generated. -/
theorem of_mem_ofEntity {entity : Entity} {behaviors : List ActiveBehavior}
    (attached : (ofEntity registry entity).outcome = .ok behaviors) {active : ActiveBehavior}
    (member : active ∈ behaviors) :
    ∃ behavior ∈ registry.behaviors, behavior.unit.onKind? .entity = some active := by
  obtain rfl := Except.ok.inj ((outcome_ofEntity registry entity).symm.trans attached)
  obtain ⟨owner, _, taken⟩ := List.mem_flatMap.mp member
  obtain ⟨behavior, declared, _, generated⟩ := mem_taken.mp taken
  exact ⟨behavior, declared, generated⟩

/-- No behavior is taken twice iff no owner of one that can be taken is among those of the entity
twice. -/
theorem nodup_ofEntity_iff {entity : Entity} {behaviors : List ActiveBehavior}
    (attached : (ofEntity registry entity).outcome = .ok behaviors) :
    (behaviors.map ActiveBehavior.name).Nodup ↔
      ∀ behavior ∈ registry.behaviors, (behavior.unit.onKind? .entity).isSome = true →
        (owners registry entity).count behavior.unit.owner ≤ 1 := by
  have counted : ∀ behavior ∈ registry.behaviors,
      (behaviors.map ActiveBehavior.name).count behavior.unit.name =
        shares registry entity (fun _ => true) behavior := by
    intro behavior declared
    rw [← count_ofEntity attached declared, List.filter_eq_self.mpr fun _ _ => rfl]
  have whole : ∀ behavior : Declared Behavior, (behavior.unit.onKind? .entity).isSome = true →
      shares registry entity (fun _ => true) behavior =
        (owners registry entity).count behavior.unit.owner := by
    intro behavior generated
    rw [shares, Option.any_true, if_pos generated]
  rw [List.nodup_iff_count_le_one]
  constructor
  · intro once behavior declared generated
    rw [← whole behavior generated, ← counted behavior declared]
    exact once _
  · intro once name
    by_cases listed : name ∈ behaviors.map ActiveBehavior.name
    · obtain ⟨active, member, rfl⟩ := List.mem_map.mp listed
      obtain ⟨behavior, declared, generated⟩ := of_mem_ofEntity attached member
      have given : (behavior.unit.onKind? .entity).isSome = true :=
        Option.isSome_iff_exists.mpr ⟨active, generated⟩
      rw [Behavior.name_of_onKind? generated, counted behavior declared, whole behavior given]
      exact once behavior declared given
    · rw [List.count_eq_zero_of_not_mem listed]
      exact Nat.zero_le 1

end OfEntity

end ActiveBehavior

end Blueprint
