import Mathlib.Data.List.Basic
import Blueprint.Resolve.Relationship

namespace Blueprint

open Design

/-- The names of a list that are not declared, each at its first place. -/
def newNames (declared : List String) : List String → List String
  | [] => []
  | name :: rest =>
    if declared.contains name then newNames declared rest
    else name :: newNames (name :: declared) rest

theorem mem_newNames {declared names : List String} {name : String} :
    name ∈ newNames declared names ↔ name ∈ names ∧ name ∉ declared := by
  induction names generalizing declared with
  | nil => simp [newNames]
  | cons first names ih =>
    unfold newNames
    split
    · rename_i present
      have listed : first ∈ declared := by simpa using present
      rw [ih, List.mem_cons]
      constructor
      · rintro ⟨member, absent⟩
        exact ⟨Or.inr member, absent⟩
      · rintro ⟨rfl | member, absent⟩
        · exact absurd listed absent
        · exact ⟨member, absent⟩
    · rename_i missing
      have unlisted : first ∉ declared := by simpa using missing
      rw [List.mem_cons, ih, List.mem_cons, List.mem_cons]
      constructor
      · rintro (rfl | ⟨member, absent⟩)
        · exact ⟨Or.inl rfl, unlisted⟩
        · exact ⟨Or.inr member, fun listed => absent (Or.inr listed)⟩
      · rintro ⟨rfl | member, absent⟩
        · exact Or.inl rfl
        · by_cases same : name = first
          · exact Or.inl same
          · exact Or.inr ⟨member, fun listed => listed.elim same absent⟩

theorem nodup_newNames (declared names : List String) : (newNames declared names).Nodup := by
  induction names generalizing declared with
  | nil => exact List.nodup_nil
  | cons name names ih =>
    unfold newNames
    split
    · exact ih declared
    · refine List.nodup_cons.mpr ⟨fun again => ?_, ih _⟩
      exact (mem_newNames.mp again).2 List.mem_cons_self

/-- What is listed is shown by a unit of the registry. -/
theorem unit_of_mem_list {α : Type} {view : Design.Unit → Option α} {registry : Registry}
    {item : Declared α} (listed : item ∈ registry.list view) :
    ∃ declared ∈ registry.units,
      view declared.unit = some item.unit ∧ declared.withUnit item.unit = item := by
  obtain ⟨declared, member, shown⟩ := List.mem_filterMap.mp listed
  obtain ⟨unit, found, rfl⟩ := Option.map_eq_some_iff.mp shown
  exact ⟨declared, member, found, rfl⟩

namespace Registry

variable {registry : Registry} {name : String} {found : Declared Entity}

theorem name_of_findEntity? (success : registry.findEntity? name = some found) :
    found.unit.name = name := by
  have bears := List.find?_some success
  simpa using bears

theorem findEntity?_isSome_of_mem (member : found ∈ registry.entities) :
    (registry.findEntity? found.unit.name).isSome = true := by
  unfold findEntity?
  rw [List.find?_isSome]
  exact ⟨found, member, by simp⟩

end Registry

namespace Relationship

variable {registry : Registry}

/-- The association of a property of an entity, if its type names an entity. -/
def association? (registry : Registry) (owner : Entity) (property : Property) :
    Option Relationship :=
  (registry.findEntity? property.type.name).map fun target =>
    (ofProperty owner property target.unit).2

/-- The associations of properties of an entity. -/
def associations (registry : Registry) (owner : Entity) (properties : List Property) :
    List Relationship :=
  properties.filterMap (association? registry owner)

/-- The foreign keys of associations that are columns of their owner. -/
def ownKeys (relationships : List Relationship) : List String :=
  (relationships.filter (·.kind.isOwnerSide)).map foreignKey

/-- An association whose foreign key is a column of its target, an entity of this name. -/
def isOnto (target : String) (relationship : Relationship) : Bool :=
  !relationship.kind.isOwnerSide && relationship.target == target

/-- The foreign keys that associations expect on an entity. -/
def keysOn (target : String) (relationships : List Relationship) : List String :=
  (relationships.filter (isOnto target)).map foreignKey

private theorem mem_ownKeys {relationships : List Relationship} {name : String} :
    name ∈ ownKeys relationships ↔ ∃ relationship ∈ relationships,
      relationship.kind.isOwnerSide = true ∧ relationship.foreignKey = name := by
  simp [ownKeys, and_assoc]

/-- A walk over associations takes the key of an owner unless it is declared. -/
theorem newNames_ownKeys_cons (declared : List String) (relationship : Relationship)
    (relationships : List Relationship) :
    newNames declared (ownKeys (relationship :: relationships)) =
      if !relationship.kind.isOwnerSide || declared.contains relationship.foreignKey then
        newNames declared (ownKeys relationships)
      else relationship.foreignKey ::
        newNames (relationship.foreignKey :: declared) (ownKeys relationships) := by
  unfold ownKeys
  cases side : relationship.kind.isOwnerSide with
  | false =>
    rw [List.filter_cons_of_neg (by rw [side]; decide), Bool.not_false, Bool.true_or, if_pos rfl]
  | true =>
    rw [List.filter_cons_of_pos (by rw [side]), List.map_cons, Bool.not_true, Bool.false_or,
      newNames]

/-- A field of an entity's records: the identity, a property that is no association, or the foreign
key of an association that belongs to its target or references it. -/
def IsField (identity : Identity) (properties : List Property) (relationships : List Relationship)
    (name : String) : Prop :=
  name = identity.name ∨
    (∃ property ∈ properties, property.name = name ∧
      ∀ relationship ∈ relationships, relationship.name ≠ name) ∨
    ∃ relationship ∈ relationships,
      (relationship.kind = .belongsTo ∨ relationship.kind = .references) ∧
        relationship.foreignKey = name

theorem isOwnerSide_iff {kind : RelationshipKind} :
    kind.isOwnerSide = true ↔ kind = .belongsTo ∨ kind = .references := by
  cases kind <;> simp [RelationshipKind.isOwnerSide]

/-- The fields in terms of names: the identity, the properties that no association is named after,
and the keys of the entity's own side. -/
theorem isField_iff {identity : Identity} {properties : List Property}
    {relationships : List Relationship} {name : String} :
    IsField identity properties relationships name ↔
      name = identity.name ∨
        (name ∈ properties.map Property.name ∧
          name ∉ relationships.map Relationship.name) ∨ name ∈ ownKeys relationships := by
  simp only [IsField, mem_ownKeys, isOwnerSide_iff, List.mem_map, not_exists, not_and]
  constructor
  · rintro (same | ⟨property, member, named, apart⟩ | key)
    · exact Or.inl same
    · exact Or.inr (Or.inl ⟨⟨property, member, named⟩, apart⟩)
    · exact Or.inr (Or.inr key)
  · rintro (same | ⟨⟨property, member, named⟩, apart⟩ | key)
    · exact Or.inl same
    · exact Or.inr (Or.inl ⟨property, member, named, apart⟩)
    · exact Or.inr (Or.inr key)

private theorem ofProperty_target (owner : Entity) (property : Property) (target : Entity) :
    (ofProperty owner property target).2.target = target.name := by
  simp only [ofProperty]
  split <;> rfl

private theorem ofProperty_name (owner : Entity) (property : Property) (target : Entity) :
    (ofProperty owner property target).2.name = property.name := by
  simp only [ofProperty]
  split <;> rfl

/-- Associations bear the names of the properties whose types name entities. -/
theorem names_associations (registry : Registry) (owner : Entity) (properties : List Property) :
    (associations registry owner properties).map name =
      (properties.filter fun property => (registry.findEntity? property.type.name).isSome).map
        Property.name := by
  induction properties with
  | nil => rfl
  | cons property properties ih =>
    unfold associations at ih ⊢
    cases found : registry.findEntity? property.type.name with
    | none => simp [association?, found, ih]
    | some target => simp [association?, found, ih, ofProperty_name]

theorem target_of_association? {owner : Entity} {property : Property} {relationship : Relationship}
    (made : association? registry owner property = some relationship) :
    relationship.target = property.type.name := by
  obtain ⟨target, found, rfl⟩ := Option.map_eq_some_iff.mp made
  rw [ofProperty_target]
  exact Registry.name_of_findEntity? found

/-- The target of an association is declared. -/
theorem findEntity?_target {owner : Entity} {properties : List Property}
    {relationship : Relationship} (member : relationship ∈ associations registry owner properties) :
    ∃ target, registry.findEntity? relationship.target = some target := by
  obtain ⟨property, _, made⟩ := List.mem_filterMap.mp member
  rw [target_of_association? made]
  obtain ⟨target, found, _⟩ := Option.map_eq_some_iff.mp made
  exact ⟨target, found⟩

/-- Resolving gives the associations of all properties, or fails with a design error. -/
theorem resolveFrom_cases (registry : Registry) (owner : Entity)
    (taken : List ((String × String) × String)) (properties : List Property) :
    (resolveFrom registry owner taken properties).outcome =
        .ok (associations registry owner properties) ∨
      ∃ failure, (resolveFrom registry owner taken properties).outcome = .error failure ∧
        failure.isDesign = true := by
  induction properties generalizing taken with
  | nil => exact Or.inl rfl
  | cons property properties ih =>
    unfold resolveFrom
    cases found : registry.findEntity? property.type.name with
    | none =>
      have passed : associations registry owner (property :: properties) =
          associations registry owner properties := by
        simp [associations, association?, found]
      simp only
      split
      · exact Or.inr ⟨_, rfl, rfl⟩
      · rw [passed]
        exact ih taken
    | some target =>
      have counted : associations registry owner (property :: properties) =
          (ofProperty owner property target.unit).2 :: associations registry owner properties := by
        simp [associations, association?, found]
      rw [counted]
      simp only
      split
      · exact Or.inr ⟨_, rfl, rfl⟩
      · obtain ⟨holder, relationship⟩ := ofProperty owner property target.unit
        rcases ih (((holder, relationship.foreignKey), property.name) :: taken) with
          success | ⟨failure, failed, design⟩
        · left
          simp only [Step.outcome_bind, Step.outcome_debug, ok_bind, success, Step.outcome_pure]
        · right
          refine ⟨failure, ?_, design⟩
          simp only [Step.outcome_bind, Step.outcome_debug, ok_bind, failed, error_bind]

theorem resolve_eq_ok {owner : Entity} {properties : List Property}
    {relationships : List Relationship}
    (success : (resolve registry owner properties).outcome = .ok relationships) :
    relationships = associations registry owner properties := by
  rcases resolveFrom_cases registry owner [] properties with found | ⟨failure, failed, _⟩
  · exact Except.ok.inj (success.symm.trans found)
  · exact absurd (success.symm.trans failed) (by simp)

theorem isDesign_of_resolve {owner : Entity} {properties : List Property} {failure : Failure}
    (failed : (resolve registry owner properties).outcome = .error failure) :
    failure.isDesign = true := by
  rcases resolveFrom_cases registry owner [] properties with found | ⟨other, again, design⟩
  · exact absurd (failed.symm.trans found) (by simp)
  · rw [Except.error.inj (failed.symm.trans again)]
    exact design

/-- The keys that the associations of one entity put on another are those not taken. -/
theorem incomingOf_names (target : Entity) (source : String) (taken : List String)
    (relationships : List Relationship) :
    ∃ keys, (incomingOf target source taken relationships).outcome = .ok keys ∧
      keys.map IncomingKey.name = newNames taken (keysOn target.name relationships) ∧
      ∀ key ∈ keys, key.source = source := by
  induction relationships generalizing taken with
  | nil => exact ⟨[], rfl, rfl, by simp⟩
  | cons relationship relationships ih =>
    unfold incomingOf
    by_cases expected : isOnto target.name relationship = true
    · have listed : keysOn target.name (relationship :: relationships) =
          relationship.foreignKey :: keysOn target.name relationships := by
        rw [keysOn, List.filter_cons_of_pos expected]
        rfl
      have mine : (relationship.kind.isOwnerSide || relationship.target != target.name) = false := by
        simpa [isOnto] using expected
      rw [mine, Bool.false_or, listed, newNames]
      split
      · exact ih taken
      · obtain ⟨keys, success, names, sources⟩ := ih (relationship.foreignKey :: taken)
        refine ⟨⟨relationship.foreignKey, relationship.foreignKeyType, source, relationship.name⟩ ::
          keys, ?_, by simp [names], by simpa using sources⟩
        simp only [Step.outcome_bind, Step.outcome_debug, ok_bind, success, Step.outcome_pure]
    · have unlisted : keysOn target.name (relationship :: relationships) =
          keysOn target.name relationships := by
        rw [keysOn, List.filter_cons_of_neg expected]
        rfl
      have other : (relationship.kind.isOwnerSide || relationship.target != target.name) = true := by
        cases side : relationship.kind.isOwnerSide with
        | true => rfl
        | false => simpa [isOnto, side] using expected
      rw [other, Bool.true_or, unlisted]
      exact ih taken

/-- An entity has a property of another's type. -/
def Mentions (source target : Entity) : Prop :=
  ∃ property ∈ source.properties, property.type.name = target.name

theorem mentions_of_mem_keysOn {source target : Entity} {name : String}
    (member : name ∈ keysOn target.name (associations registry source source.properties)) :
    Mentions source target := by
  obtain ⟨relationship, chosen, _⟩ := List.mem_map.mp member
  obtain ⟨listed, expected⟩ := List.mem_filter.mp chosen
  obtain ⟨property, declared, made⟩ := List.mem_filterMap.mp listed
  have same : relationship.target = target.name := by
    simp only [isOnto, Bool.and_eq_true, beq_iff_eq] at expected
    exact expected.2
  exact ⟨property, declared, (target_of_association? made).symm.trans same⟩

theorem any_type_iff_mentions {source target : Entity} :
    source.properties.any (·.type.name == target.name) = true ↔ Mentions source target := by
  simp [Mentions]

section Collecting

variable {registry : Registry} {target : Entity} {taken : List String} {source : Declared Entity}
  {sources : List (Declared Entity)}

private theorem incomingFrom_of_not_mentions (other : ¬ Mentions source.unit target) :
    incomingFrom registry target taken (source :: sources) =
      incomingFrom registry target taken sources := by
  rw [incomingFrom, if_neg (any_type_iff_mentions.not.mpr other)]

private theorem incomingFrom_of_error (mentioned : Mentions source.unit target) {failure : Failure}
    (resolved : (resolveOwn registry source.unit).outcome = .error failure) :
    (incomingFrom registry target taken (source :: sources)).outcome = .error failure := by
  rw [incomingFrom, if_pos (any_type_iff_mentions.mpr mentioned)]
  simp only [Step.outcome_bind, Step.outcome_silently, resolved, error_bind]

/-- The keys that an entity gives are taken for the entities behind it. -/
theorem incomingFrom_of_ok (taken : List String) (sources : List (Declared Entity))
    (mentioned : Mentions source.unit target)
    {relationships : List Relationship}
    (resolved : (resolveOwn registry source.unit).outcome = .ok relationships) : ∃ found,
    (incomingFrom registry target taken (source :: sources)).outcome =
      (incomingFrom registry target (found.map IncomingKey.name ++ taken) sources).outcome.map
        (found ++ ·) ∧
    (∀ name, name ∈ found.map IncomingKey.name ↔ name ∉ taken ∧ name ∈
      keysOn target.name (associations registry source.unit source.unit.properties)) ∧
    ∀ key ∈ found, key.source = source.unit.name := by
  obtain ⟨found, collected, names, origin⟩ :=
    incomingOf_names target source.unit.name taken relationships
  refine ⟨found, ?_, fun name => ?_, origin⟩
  · rw [incomingFrom, if_pos (any_type_iff_mentions.mpr mentioned)]
    simp only [Step.outcome_bind, Step.outcome_silently, resolved, ok_bind, collected]
    cases (incomingFrom registry target (found.map IncomingKey.name ++ taken) sources).outcome <;> rfl
  · rw [names, mem_newNames, resolve_eq_ok resolved, and_comm]

/-- Collecting keys fails with the failure of an entity that mentions the target, or it gives the
keys that are not taken of all those entities. -/
theorem incomingFrom_cases (registry : Registry) (target : Entity) (taken : List String)
    (sources : List (Declared Entity)) :
    (∃ source ∈ sources, Mentions source.unit target ∧ ∃ failure,
      (resolveOwn registry source.unit).outcome = .error failure ∧
      (incomingFrom registry target taken sources).outcome = .error failure) ∨
    (∀ source ∈ sources, Mentions source.unit target →
      ∃ relationships, (resolveOwn registry source.unit).outcome = .ok relationships) ∧
    ∃ keys, (incomingFrom registry target taken sources).outcome = .ok keys ∧
      (∀ name, name ∈ keys.map IncomingKey.name ↔ name ∉ taken ∧ ∃ source ∈ sources,
        name ∈ keysOn target.name (associations registry source.unit source.unit.properties)) ∧
      ∀ key ∈ keys, ∃ source ∈ sources, key.source = source.unit.name := by
  induction sources generalizing taken with
  | nil => exact Or.inr ⟨by simp, [], rfl, by simp, by simp⟩
  | cons source sources ih =>
    by_cases mentioned : Mentions source.unit target
    · cases resolved : (resolveOwn registry source.unit).outcome with
      | error failure =>
        exact Or.inl ⟨source, List.mem_cons_self, mentioned, failure, resolved,
          incomingFrom_of_error mentioned resolved⟩
      | ok relationships =>
        obtain ⟨found, collected, here, origin⟩ :=
          incomingFrom_of_ok taken sources mentioned resolved
        rw [collected]
        rcases ih (found.map IncomingKey.name ++ taken) with
          ⟨other, member, mentions, failure, broken, failed⟩ | ⟨all, keys, success, others, known⟩
        · rw [failed]
          exact Or.inl ⟨other, List.mem_cons_of_mem _ member, mentions, failure, broken, rfl⟩
        · rw [success]
          refine Or.inr ⟨List.forall_mem_cons.mpr ⟨fun _ => ⟨relationships, resolved⟩, all⟩,
            found ++ keys, rfl, fun name => ?_, fun key member => ?_⟩
          · rw [List.map_append, List.mem_append, here, others, List.mem_append, here,
              List.exists_mem_cons_iff]
            by_cases old : name ∈ taken
            · simp only [old, not_true_eq_false, false_and, or_true, or_self]
            · simp only [old, not_false_eq_true, true_and, or_false]
              by_cases mine : name ∈
                  keysOn target.name (associations registry source.unit source.unit.properties)
              · simp only [mine, true_or]
              · simp only [mine, not_false_eq_true, true_and, false_or]
          · rcases List.mem_append.mp member with mine | theirs
            · exact ⟨source, List.mem_cons_self, origin key mine⟩
            · obtain ⟨other, listed, same⟩ := known key theirs
              exact ⟨other, List.mem_cons_of_mem _ listed, same⟩
    · rw [incomingFrom_of_not_mentions mentioned]
      rcases ih taken with ⟨other, member, failed⟩ | ⟨all, keys, success, others, known⟩
      · exact Or.inl ⟨other, List.mem_cons_of_mem _ member, failed⟩
      · refine Or.inr ⟨List.forall_mem_cons.mpr ⟨fun mentions => absurd mentions mentioned, all⟩,
          keys, success, fun name => ?_, fun key member => ?_⟩
        · have nothing : name ∉
              keysOn target.name (associations registry source.unit source.unit.properties) :=
            fun member => mentioned (mentions_of_mem_keysOn member)
          rw [others, List.exists_mem_cons_iff, or_iff_right nothing]
        · obtain ⟨other, listed, same⟩ := known key member
          exact ⟨other, List.mem_cons_of_mem _ listed, same⟩

end Collecting

/-- No key is collected twice. -/
theorem nodup_incomingFrom {target : Entity} {taken : List String}
    {sources : List (Declared Entity)} {keys : List IncomingKey}
    (success : (incomingFrom registry target taken sources).outcome = .ok keys) :
    (keys.map IncomingKey.name).Nodup ∧ ∀ key ∈ keys, key.name ∉ taken := by
  induction sources generalizing taken keys with
  | nil =>
    cases success
    exact ⟨List.nodup_nil, nofun⟩
  | cons source sources ih =>
    unfold incomingFrom at success
    split at success
    · obtain ⟨relationships, _, success⟩ := Step.bind_eq_ok_iff.mp success
      obtain ⟨found, collected, success⟩ := Step.bind_eq_ok_iff.mp success
      obtain ⟨others, later, success⟩ := Step.bind_eq_ok_iff.mp success
      cases success
      obtain ⟨distinct, apart⟩ := ih later
      obtain ⟨same, again, names, _⟩ :=
        incomingOf_names target source.unit.name taken relationships
      obtain rfl := Except.ok.inj (collected.symm.trans again)
      have fresh : ∀ key ∈ found, key.name ∉ taken := fun key listed =>
        (mem_newNames.mp (names ▸ List.mem_map_of_mem listed)).2
      constructor
      · rw [List.map_append, List.nodup_append]
        refine ⟨names ▸ nodup_newNames _ _, distinct, ?_⟩
        rintro mine here other there rfl
        obtain ⟨key, listed, named⟩ := List.mem_map.mp there
        exact apart key listed (named ▸ List.mem_append_left _ here)
      · intro key listed
        rcases List.mem_append.mp listed with here | there
        · exact fresh key here
        · exact fun old => apart key there (List.mem_append_right _ old)
    · exact ih success

end Relationship

end Blueprint
