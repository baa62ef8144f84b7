import Blueprint.Proofs.Generation.AllGenerators
import Blueprint.Proofs.Generation.WrittenCode

namespace Blueprint.Generation

open Design

/-- What the mixins of an entity or the associations of its properties fail with. -/
inductive Unresolved (registry : Registry) (entity : Entity) (failure : Failure) : Prop where
  | mixins (raised : (effectiveProperties registry (.entity entity)).outcome = .error failure)
  | associations {properties : List Property}
      (found : (effectiveProperties registry (.entity entity)).outcome = .ok properties)
      (raised : (Relationship.resolve registry entity properties).outcome = .error failure)

/-- What an entity cannot be resolved for has its own wording. -/
theorem Unresolved.message {registry : Registry} {entity : Entity} {failure : Failure}
    (unresolved : Unresolved registry entity failure) (said : Option String) :
    failure.message said = failure.message := by
  have design : failure.isDesign = true := by
    cases unresolved with
    | mixins raised => exact isDesign_of_effectiveProperties raised
    | associations _ raised => exact Relationship.isDesign_of_resolve raised
  cases failure with
  | unreadableCode | wrongType | outOfRange => cases design
  | _ => rfl

section Steps

variable {registry : Registry} {entity : Declared Entity} {failure : Failure}

/-- Whatever is made of both fails. -/
theorem Unresolved.bind {α : Type} (unresolved : Unresolved registry entity.unit failure)
    (next : List Property → List Relationship → Except Failure α) :
    (do let properties ← (effectiveProperties registry (.entity entity.unit)).outcome
        let relationships ← (Relationship.resolve registry entity.unit properties).outcome
        next properties relationships) = .error failure := by
  cases unresolved with
  | mixins raised => rw [raised, error_bind]
  | associations found raised => rw [found, ok_bind, raised, error_bind]

theorem Unresolved.resolveAssociations (unresolved : Unresolved registry entity.unit failure) :
    (Server.resolveAssociations registry entity.unit).outcome = .error failure := by
  cases unresolved with
  | mixins raised =>
    rw [Server.resolveAssociations, Step.outcome_bind, Step.outcome_silently, raised, error_bind]
  | associations found raised =>
    rw [Server.resolveAssociations, Step.outcome_bind, Step.outcome_silently, found, ok_bind, raised]

theorem Unresolved.generateSchema (unresolved : Unresolved registry entity.unit failure) :
    (Server.generateSchema entity registry).outcome = .error failure := by
  have table : (Server.tableSchema registry entity.unit).outcome = .error failure := by
    simp only [Server.tableSchema, Step.outcome_bind, Identity.resolve_outcome, ok_bind]
    exact unresolved.bind _
  rw [Server.generateSchema_outcome, table, error_bind]

theorem Unresolved.serverObject (unresolved : Unresolved registry entity.unit failure)
    {store : Declared DataSource} (served : Served registry entity store) :
    (Server.generateBusinessObject entity registry).outcome = .error failure := by
  have named : (Server.storeOf registry entity.unit).outcome = .ok store.unit.name := by
    rw [Server.storeOf, Step.outcome_bind, Step.outcome_ofExcept, served.stored, ok_bind,
      Step.outcome_pure]
  simp only [Server.generateBusinessObject, Step.outcome_bind, named, ok_bind, Step.outcome_debug,
    unresolved.resolveAssociations, error_bind]

theorem Unresolved.generateRoute (unresolved : Unresolved registry entity.unit failure) :
    (Server.generateRoute entity registry).outcome = .error failure := by
  simp only [Server.generateRoute, Server.router, Step.outcome_bind, Identity.resolve_outcome,
    ok_bind, unresolved.resolveAssociations, error_bind]

theorem Unresolved.clientObject (unresolved : Unresolved registry entity.unit failure) :
    (Client.generateBusinessObject entity registry).outcome = .error failure := by
  simp only [Client.generateBusinessObject, Step.outcome_bind, Identity.resolve_outcome, ok_bind]
  exact unresolved.bind _

theorem Unresolved.formGroup (unresolved : Unresolved registry entity.unit failure) :
    (Client.generateFormGroup entity registry).outcome = .error failure := by
  have controls : (Client.formControls registry entity.unit).outcome = .error failure := by
    simp only [Client.formControls, Step.outcome_bind, Identity.resolve_outcome, ok_bind]
    exact unresolved.bind _
  simp only [Client.generateFormGroup, Step.outcome_bind, Identity.resolve_outcome, ok_bind, controls,
    error_bind]

end Steps

variable {registry : Registry} {declared : Declared Design.Unit} {entity : Entity} {failure : Failure}

/-- Every generator of entities fails for an entity that cannot be resolved, and not by skipping
it. -/
theorem Unresolved.raised {store : Declared DataSource} (shown : declared.unit.entity? = some entity)
    (served : Served registry (declared.withUnit entity) store)
    (unresolved : Unresolved registry entity failure) {generator : Generator}
    (listed : generator ∈ entityGenerators) :
    (generator.generate (some declared) registry).outcome = .error failure ∧
      NeverSkips (generator.generate (some declared) registry).outcome := by
  have unresolved : Unresolved registry (declared.withUnit entity).unit failure := unresolved
  have of {step : Declared Entity → Registry → Step Produced}
      (raised : (step (declared.withUnit entity) registry).outcome = .error failure)
      (firm : NeverSkips (step (declared.withUnit entity) registry).outcome) :
      (onUnit Unit.entity? step (some declared) registry).outcome = .error failure ∧
        NeverSkips (onUnit Unit.entity? step (some declared) registry).outcome := by
    simp only [onUnit, shown]
    exact ⟨raised, firm⟩
  simp only [entityGenerators, List.mem_cons, List.not_mem_nil, or_false] at listed
  rcases listed with rfl | rfl | rfl | rfl | rfl
  · exact of unresolved.generateSchema (Server.neverSkips_generateSchema _ _)
  · exact of (unresolved.serverObject served) (Server.neverSkips_generateBusinessObject _ _)
  · exact of unresolved.generateRoute (Server.neverSkips_generateRoute _ _)
  · exact of unresolved.clientObject (Client.neverSkips_generateBusinessObject _ _)
  · exact of unresolved.formGroup (Client.neverSkips_generateFormGroup _ _)

/-- An entity that gets server code and cannot be resolved has one result for each generator of
entities, and every one of them has failed for the same reason and has no files. -/
theorem unresolved_fails_everywhere (member : declared ∈ registry.units)
    (shown : declared.unit.entity? = some entity)
    (accepted : serverEntity declared registry = .ok true)
    (unresolved : Unresolved registry entity failure) {targets : List String}
    (server : "server" ∈ targets) (client : "client" ∈ targets) (workers : Int)
    (choices : Nat → Nat) :
    ∃ finished, run registry allGenerators targets workers choices = .ok finished ∧
      ∀ generator ∈ entityGenerators, ∃ result,
        (finished.outcome.of generator.name).filter (·.unit == some entity.name) = [result] ∧
        result.state = .failed ∧ result.files = [] ∧ result.reason = some failure.message := by
  obtain ⟨finished, returned⟩ := exists_run registry targets workers choices
  refine ⟨finished, returned, fun generator listed => ?_⟩
  have kind := kind_of_entity? shown
  have selected : generator.target ∈ targets := by
    rcases (ofEntities listed).target with same | same
    · exact same ▸ server
    · exact same ▸ client
  have only := results_of_entity returned listed selected member kind
  rw [name_of_entity? shown] at only
  refine ⟨_, only, ?_⟩
  obtain ⟨store, served⟩ := served_of_accepted member shown accepted
  obtain ⟨raised, firm⟩ := unresolved.raised shown served listed
  have here : Site.accepted registry ⟨0, generator, some declared⟩ = .ok true := by
    obtain ⟨accepts, either, asked⟩ := accepted_entity registry listed kind
    rw [asked]
    rcases either with rfl | rfl
    · exact accepted
    · have isMain : declared.isLibrary = false := served.isMain
      rw [notLibrary, isMain]
      rfl
  rw [← unresolved.message]
  exact Site.failed_of_raised _ here raised firm

/-- An entity whose property has an unknown type. -/
def parcel : Entity :=
  { offset := 0, name := "Parcel", properties := [Server.plain "carrier" ⟨"Carrier", false⟩] }

/-- A shop that has a parcel and no carrier. -/
def carrierless : Registry where
  units := Registry.declare none false 0 (Server.stored ++ [.entity parcel])
  distinct := by decide

theorem unresolved_fails_everywhere_carrierless : ∃ finished,
    run carrierless allGenerators ["server", "client"] 4 id = .ok finished ∧
      ∀ generator ∈ entityGenerators, ∃ result,
        (finished.outcome.of generator.name).filter (·.unit == some "Parcel") = [result] ∧
        result.state = .failed ∧ result.files = [] ∧
        result.reason = some "Entity 'Carrier' not found (referenced by 'Parcel.carrier')." := by
  have unresolved : Unresolved carrierless parcel
      (.unitNotFound .entity "Carrier" (some "Parcel.carrier")) := .associations rfl rfl
  have reason : (Failure.unitNotFound .entity "Carrier" (some "Parcel.carrier")).message =
      "Entity 'Carrier' not found (referenced by 'Parcel.carrier')." := by decide
  rw [← reason]
  have member : (⟨.entity parcel, false, none, 2⟩ : Declared Design.Unit) ∈ carrierless.units :=
    List.mem_cons_of_mem _ (List.mem_cons_of_mem _ List.mem_cons_self)
  exact unresolved_fails_everywhere member rfl rfl unresolved List.mem_cons_self (by simp) 4 id

end Blueprint.Generation
