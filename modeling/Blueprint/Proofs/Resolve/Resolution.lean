import Blueprint.Proofs.Resolve.Associations

namespace Blueprint

open Design

namespace Relationship

/-- A name that is written as a unit's: an ASCII capital and word characters behind it. -/
def IsUnitName (name : String) : Prop :=
  ∃ first rest, name.toList = first :: rest ∧ ('A' ≤ first ∧ first ≤ 'Z') ∧
    ∀ c ∈ rest, Text.isWord c = true

/-- A property that need not name an entity: nothing marks it as an association, and its type is a
scalar in any case or not written as a unit's name. -/
def IsPlain (property : Property) : Prop :=
  property.options.markers = [] ∧
    (Text.lower property.type.name ∈ Scalar.table.map Prod.fst ∨
      ¬ IsUnitName property.type.name)

/-- The relationship of a property whose type is a target entity, and the entity that holds its
foreign key as a column. -/
structure Associates (owner : Entity) (property : Property) (target : Entity) (holder : String)
    (relationship : Relationship) : Prop where
  named : relationship.name = property.name
  targets : relationship.target = target.name
  optional : relationship.optional = property.optional
  /-- An array has many, and markers tell the other kinds apart. -/
  kind : relationship.kind =
    if property.type.array then .hasMany
    else if property.options.references = some true then .references
    else if property.options.hasOne = some true then .hasOne
    else .belongsTo
  /-- The owner holds the key of what belongs to the target or references it. -/
  ofOwner : relationship.kind = .belongsTo ∨ relationship.kind = .references →
    holder = owner.name ∧
    relationship.foreignKey =
      (property.options.foreignKey.filter (· ≠ "")).getD (property.name ++ "Id") ∧
    relationship.foreignKeyType = (Identity.of target).type
  /-- The target holds the key of what the owner has. -/
  ofTarget : relationship.kind = .hasMany ∨ relationship.kind = .hasOne →
    holder = target.name ∧
    relationship.foreignKey =
      (property.options.foreignKey.filter (· ≠ "")).getD (lowerFirst owner.name ++ "Id") ∧
    relationship.foreignKeyType = (Identity.of owner).type

/-- A property typed by a declared entity has this relationship, held by this entity. -/
def Resolves (registry : Registry) (owner : Entity) (property : Property) (holder : String)
    (relationship : Relationship) : Prop :=
  ∃ target, registry.findEntity? property.type.name = some target ∧
    Associates owner property target.unit holder relationship

/-- A property needs a column of an entity for its foreign key. -/
def Uses (registry : Registry) (owner : Entity) (property : Property) (holder key : String) : Prop :=
  ∃ relationship, Resolves registry owner property holder relationship ∧
    relationship.foreignKey = key

/-- The rules for a list of properties of an entity. -/
structure Sound (registry : Registry) (owner : Entity) (properties : List Property) : Prop where
  plain : ∀ property ∈ properties,
    registry.findEntity? property.type.name = none → IsPlain property
  distinct : properties.Pairwise fun earlier later =>
    ∀ holder key, Uses registry owner earlier holder key → ¬ Uses registry owner later holder key

/-- How a property breaks a rule behind some others. -/
inductive Violates (registry : Registry) (owner : Entity) (before : List Property)
    (property : Property) : Failure → Prop where
  | unknown (missing : registry.findEntity? property.type.name = none)
      (meant : ¬ IsPlain property) :
      Violates registry owner before property
        (.unitNotFound .entity property.type.name (some (owner.name ++ "." ++ property.name)))
  | repeated (earlier : Property) (member : earlier ∈ before) (holder key : String)
      (first : Uses registry owner earlier holder key)
      (second : Uses registry owner property holder key) :
      Violates registry owner before property
        (.repeatedForeignKey owner.name key earlier.name property.name)

section Rules

variable {registry : Registry} {owner : Entity}

private theorem isUnitName_iff {name : String} : isUnitName name = true ↔ IsUnitName name := by
  unfold isUnitName IsUnitName
  cases name.toList with
  | nil => simp
  | cons first rest => simp [Naming.isCapital]

private theorem isScalar_iff {name : String} :
    isScalar name = true ↔ Text.lower name ∈ Scalar.table.map Prod.fst := by
  rw [isScalar, Scalar.ofName?, List.lookup_isSome_iff]
  simp

theorem isDangling_iff {property : Property} : isDangling property = true ↔ ¬ IsPlain property := by
  rw [IsPlain, ← isScalar_iff, ← isUnitName_iff, isDangling]
  cases isScalar property.type.name <;> cases isUnitName property.type.name <;> simp

theorem of_eq (property : Property) : RelationshipKind.of property =
    if property.type.array then .hasMany
    else if property.options.references = some true then .references
    else if property.options.hasOne = some true then .hasOne
    else .belongsTo := by
  have marked (marker : Option Bool) : (marker.getD false = true) = (marker = some true) := by
    rcases marker with _ | _ | _ <;> simp
  simp only [RelationshipKind.of, marked]

private theorem nonEmpty?_eq (text : Option String) : nonEmpty? text = text.filter (· ≠ "") := by
  unfold nonEmpty?
  congr 1
  funext given
  rw [Bool.eq_iff_iff]
  simp

/-- The association of a property with an entity is the one that is computed. -/
theorem associates_iff {property : Property} {target : Entity} {holder : String}
    {relationship : Relationship} :
    Associates owner property target holder relationship ↔
      ofProperty owner property target = (holder, relationship) := by
  have sides (kind : RelationshipKind) : kind.isOwnerSide = false ↔
      kind = .hasMany ∨ kind = .hasOne := by
    cases kind <;> simp [RelationshipKind.isOwnerSide]
  unfold ofProperty
  simp only [nonEmpty?_eq]
  constructor
  · rintro ⟨named, targets, optional, kind, ofOwner, ofTarget⟩
    rw [← of_eq] at kind
    rw [← isOwnerSide_iff, kind] at ofOwner
    rw [← sides, kind] at ofTarget
    obtain ⟨_, _, _, _, _, _⟩ := relationship
    obtain rfl := kind
    split
    · rename_i side
      obtain ⟨rfl, rfl, rfl⟩ := ofOwner side
      simp_all
    · rename_i side
      obtain ⟨rfl, rfl, rfl⟩ := ofTarget (by simpa using side)
      simp_all
  · split
    · rename_i side
      rintro ⟨⟩
      refine ⟨rfl, rfl, rfl, of_eq property, fun _ => ⟨rfl, rfl, rfl⟩, fun other => ?_⟩
      rw [← sides, side] at other
      cases other
    · rename_i side
      rintro ⟨⟩
      refine ⟨rfl, rfl, rfl, of_eq property, fun other => ?_, fun _ => ⟨rfl, rfl, rfl⟩⟩
      exact absurd (isOwnerSide_iff.mpr other) side

private theorem resolves_iff {property : Property} {target : Declared Entity} {holder : String}
    {relationship : Relationship}
    (found : registry.findEntity? property.type.name = some target) :
    Resolves registry owner property holder relationship ↔
      ofProperty owner property target.unit = (holder, relationship) := by
  simp [Resolves, found, associates_iff]

private theorem not_uses_of_missing {property : Property} {holder key : String}
    (missing : registry.findEntity? property.type.name = none) :
    ¬ Uses registry owner property holder key := by
  rintro ⟨_, ⟨target, found, _⟩, _⟩
  rw [missing] at found
  cases found

theorem uses_iff {property : Property} {target : Declared Entity} {holder key : String}
    (found : registry.findEntity? property.type.name = some target) :
    Uses registry owner property holder key ↔
      (ofProperty owner property target.unit).1 = holder ∧
        (ofProperty owner property target.unit).2.foreignKey = key := by
  simp only [Uses, resolves_iff found, Prod.ext_iff]
  constructor
  · rintro ⟨relationship, ⟨rfl, rfl⟩, rfl⟩
    exact ⟨rfl, rfl⟩
  · rintro ⟨rfl, rfl⟩
    exact ⟨_, ⟨rfl, rfl⟩, rfl⟩

private theorem sound_nil : Sound registry owner [] := ⟨by simp, .nil⟩

/-- The rules hold with one more property if they hold without it and it breaks none. -/
theorem sound_append_singleton {before : List Property} {property : Property} :
    Sound registry owner (before ++ [property]) ↔ Sound registry owner before ∧
      (registry.findEntity? property.type.name = none → IsPlain property) ∧
      ∀ earlier ∈ before, ∀ holder key, Uses registry owner earlier holder key →
        ¬ Uses registry owner property holder key := by
  constructor
  · rintro ⟨plain, distinct⟩
    rw [List.pairwise_append] at distinct
    rw [List.forall_mem_append, List.forall_mem_singleton] at plain
    exact ⟨⟨plain.1, distinct.1⟩, plain.2,
      fun earlier member => distinct.2.2 earlier member property List.mem_cons_self⟩
  · rintro ⟨⟨plain, distinct⟩, own, apart⟩
    refine ⟨List.forall_mem_append.mpr ⟨plain, List.forall_mem_singleton.mpr own⟩, ?_⟩
    rw [List.pairwise_append]
    refine ⟨distinct, List.pairwise_singleton _ _, fun earlier member later single => ?_⟩
    obtain rfl := List.mem_singleton.mp single
    exact apart earlier member

theorem Sound.of_append {before after : List Property}
    (sound : Sound registry owner (before ++ after)) : Sound registry owner before :=
  ⟨fun property member => sound.plain property (List.mem_append_left _ member),
    (List.pairwise_append.mp sound.distinct).1⟩

theorem Violates.not_sound {before after : List Property} {property : Property} {failure : Failure}
    (broken : Violates registry owner before property failure) :
    ¬ Sound registry owner (before ++ property :: after) := by
  intro sound
  rw [List.append_cons] at sound
  obtain ⟨_, plain, apart⟩ := sound_append_singleton.mp sound.of_append
  cases broken with
  | unknown missing meant => exact meant (plain missing)
  | repeated earlier member holder key first second =>
    exact apart earlier member holder key first second

end Rules

section Resolving

variable {registry : Registry} {owner : Entity}

/-- The columns in use are those of some properties, each with the property that needs it. -/
def Takes (registry : Registry) (owner : Entity) (before : List Property)
    (taken : List ((String × String) × String)) : Prop :=
  (∀ holder key name, taken.lookup (holder, key) = some name →
    ∃ earlier ∈ before, earlier.name = name ∧ Uses registry owner earlier holder key) ∧
  ∀ holder key, taken.lookup (holder, key) = none →
    ∀ earlier ∈ before, ¬ Uses registry owner earlier holder key

private theorem takes_nil : Takes registry owner [] [] := ⟨by simp, by simp⟩

theorem Takes.of_missing {before : List Property} {taken : List ((String × String) × String)}
    {property : Property} (takes : Takes registry owner before taken)
    (missing : registry.findEntity? property.type.name = none) :
    Takes registry owner (before ++ [property]) taken := by
  refine ⟨fun holder key name used => ?_, fun holder key unused => ?_⟩
  · obtain ⟨earlier, member, named, uses⟩ := takes.1 holder key name used
    exact ⟨earlier, List.mem_append_left _ member, named, uses⟩
  · rw [List.forall_mem_append, List.forall_mem_singleton]
    exact ⟨takes.2 holder key unused, not_uses_of_missing missing⟩

/-- A property typed by an entity takes its column. -/
theorem Takes.of_found {before : List Property} {taken : List ((String × String) × String)}
    {property : Property} {target : Declared Entity} (takes : Takes registry owner before taken)
    (found : registry.findEntity? property.type.name = some target) :
    Takes registry owner (before ++ [property])
      ((((ofProperty owner property target.unit).1,
        (ofProperty owner property target.unit).2.foreignKey), property.name) :: taken) := by
  refine ⟨fun holder key name used => ?_, fun holder key unused => ?_⟩
  · rw [List.lookup_cons] at used
    split at used
    · rename_i same
      obtain rfl := Option.some.inj used
      simp only [beq_iff_eq, Prod.mk.injEq] at same
      exact ⟨property, by simp, rfl, (uses_iff found).mpr ⟨same.1.symm, same.2.symm⟩⟩
    · obtain ⟨earlier, member, named, uses⟩ := takes.1 holder key name used
      exact ⟨earlier, List.mem_append_left _ member, named, uses⟩
  · rw [List.lookup_cons] at unused
    split at unused
    · cases unused
    · rename_i other
      rw [List.forall_mem_append, List.forall_mem_singleton]
      refine ⟨takes.2 holder key unused, fun uses => ?_⟩
      obtain ⟨rfl, rfl⟩ := (uses_iff found).mp uses
      simp at other

/-- What resolving some properties behind others comes to: the relationships of those typed by an
entity, or the failure of the first that breaks a rule. -/
def Outcome (registry : Registry) (owner : Entity) (before properties : List Property) :
    Except Failure (List Relationship) → Prop
  | .ok relationships => Sound registry owner (before ++ properties) ∧
      List.Forall₂ (fun property relationship =>
          ∃ holder, Resolves registry owner property holder relationship)
        (properties.filter fun property => (registry.findEntity? property.type.name).isSome)
        relationships
  | .error failure => ∃ passed property after, properties = passed ++ property :: after ∧
      Sound registry owner (before ++ passed) ∧
      Violates registry owner (before ++ passed) property failure

theorem Outcome.of_violates {before properties : List Property} {property : Property}
    {failure : Failure} (sound : Sound registry owner before)
    (violates : Violates registry owner before property failure) :
    Outcome registry owner before (property :: properties) (.error failure) :=
  ⟨[], property, properties, rfl, by rwa [List.append_nil], by rwa [List.append_nil]⟩

/-- A failure behind a property is one behind those in front of it. -/
theorem Outcome.of_error {before properties : List Property} {property : Property}
    {failure : Failure}
    (outcome : Outcome registry owner (before ++ [property]) properties (.error failure)) :
    Outcome registry owner before (property :: properties) (.error failure) := by
  obtain ⟨passed, broken, after, rfl, sound, violates⟩ := outcome
  rw [← List.append_cons] at sound violates
  exact ⟨property :: passed, broken, after, rfl, sound, violates⟩

theorem Outcome.of_missing {before properties : List Property} {property : Property}
    {result : Except Failure (List Relationship)}
    (missing : registry.findEntity? property.type.name = none)
    (outcome : Outcome registry owner (before ++ [property]) properties result) :
    Outcome registry owner before (property :: properties) result := by
  cases result with
  | error failure => exact outcome.of_error
  | ok relationships =>
    obtain ⟨sound, related⟩ := outcome
    refine ⟨by rwa [List.append_cons], ?_⟩
    rwa [List.filter_cons_of_neg (by simp [missing])]

theorem Outcome.of_found {before properties : List Property} {property : Property}
    {target : Declared Entity} {result : Except Failure (List Relationship)}
    (found : registry.findEntity? property.type.name = some target)
    (outcome : Outcome registry owner (before ++ [property]) properties result) :
    Outcome registry owner before (property :: properties)
      (result.map ((ofProperty owner property target.unit).2 :: ·)) := by
  cases result with
  | error failure => exact outcome.of_error
  | ok relationships =>
    obtain ⟨sound, related⟩ := outcome
    refine ⟨by rwa [List.append_cons], ?_⟩
    rw [List.filter_cons_of_pos (by simp [found])]
    exact .cons ⟨_, (resolves_iff found).mpr rfl⟩ related

theorem resolveFrom_outcome (properties : List Property) {before : List Property}
    {taken : List ((String × String) × String)} (sound : Sound registry owner before)
    (takes : Takes registry owner before taken) :
    Outcome registry owner before properties
      (resolveFrom registry owner taken properties).outcome := by
  induction properties generalizing before taken with
  | nil => exact ⟨by rwa [List.append_nil], .nil⟩
  | cons property properties ih =>
    unfold resolveFrom
    cases found : registry.findEntity? property.type.name with
    | none =>
      simp only
      split
      · rename_i dangling
        exact .of_violates sound (.unknown found (isDangling_iff.mp dangling))
      · rename_i passed
        have plain : IsPlain property := not_not.mp (mt isDangling_iff.mpr passed)
        exact (ih (sound_append_singleton.mpr ⟨sound, fun _ => plain,
          fun _ _ _ _ _ => not_uses_of_missing found⟩) (takes.of_missing found)).of_missing found
    | some target =>
      simp only
      split
      · rename_i earlier used
        obtain ⟨first, member, rfl, uses⟩ := takes.1 _ _ _ used
        exact .of_violates sound (.repeated first member _ _ uses ((uses_iff found).mpr ⟨rfl, rfl⟩))
      · rename_i unused
        have apart : ∀ earlier ∈ before, ∀ holder key, Uses registry owner earlier holder key →
            ¬ Uses registry owner property holder key := by
          rintro earlier member holder key uses again
          obtain ⟨rfl, rfl⟩ := (uses_iff found).mp again
          exact takes.2 _ _ unused earlier member uses
        have later := (ih (sound_append_singleton.mpr ⟨sound, by simp [found], apart⟩)
          (takes.of_found found)).of_found found
        simp only [Step.outcome_bind, Step.outcome_debug, ok_bind, Step.outcome_pure]
        cases rest : (resolveFrom registry owner ((((ofProperty owner property target.unit).1,
            (ofProperty owner property target.unit).2.foreignKey), property.name) :: taken)
            properties).outcome with
        | error failure => rwa [rest] at later
        | ok others => rwa [rest] at later

end Resolving

/-- Resolving the associations of an entity over a list of properties succeeds exactly if the
properties keep to the rules. Then it gives one relationship for every property typed by an entity,
in order; otherwise the first property that breaks a rule behind those in front of it says why. -/
theorem resolve_iff_sound (registry : Registry) (owner : Entity) (properties : List Property) :
    ((∃ relationships, (resolve registry owner properties).outcome = .ok relationships) ↔
      Sound registry owner properties) ∧
    match (resolve registry owner properties).outcome with
    | .ok relationships => List.Forall₂ (fun property relationship =>
          ∃ holder, Resolves registry owner property holder relationship)
        (properties.filter fun property => (registry.findEntity? property.type.name).isSome)
        relationships
    | .error failure => ∃ before property after, properties = before ++ property :: after ∧
        Sound registry owner before ∧ Violates registry owner before property failure := by
  have takes : Takes registry owner [] [] := takes_nil
  have outcome := resolveFrom_outcome properties sound_nil takes
  change Outcome registry owner [] properties (resolve registry owner properties).outcome at outcome
  cases resolved : (resolve registry owner properties).outcome with
  | ok relationships =>
    rw [resolved] at outcome
    obtain ⟨sound, related⟩ := outcome
    exact ⟨iff_of_true ⟨relationships, rfl⟩ sound, related⟩
  | error failure =>
    rw [resolved] at outcome
    obtain ⟨before, property, after, rfl, sound, violates⟩ := outcome
    exact ⟨iff_of_false (by simp) violates.not_sound, before, property, after, rfl, sound, violates⟩

end Relationship

end Blueprint
