import Blueprint.Generators
import Blueprint.Proofs.Generation.Results
import Blueprint.Proofs.Generation.Triggering

namespace Blueprint.Generation

/-- The results of one generator, in order. -/
def RunResult.of (outcome : RunResult) (generator : String) : List UnitResult :=
  outcome.results.filter (·.generator == generator)

/-- The conditions of aggregates always answer. -/
theorem exists_answer {generator : Generator} (known : generator ∈ allGenerators)
    (aggregate : generator.isAggregate = true) {trigger : Trigger}
    (listed : trigger ∈ generator.triggers) (unit : Declared Design.Unit) (registry : Registry) :
    ∃ answer, trigger.accepts unit registry = .ok answer := by
  have plain : ∀ generator ∈ allGenerators, generator.isAggregate = true →
      ∀ trigger ∈ generator.triggers,
        trigger.accepts = notLibrary ∨ trigger.accepts = Client.always := by
    simp [allGenerators, serverGenerators, clientGenerators, Server.schemaGenerator,
      Server.businessObjectGenerator, Server.routeGenerator, Server.dataSourceGenerator,
      Server.appBehaviorGenerator, Server.routesIndexGenerator, Server.startupGenerator,
      Server.scaffoldGenerator, Server.packageGenerator, Client.businessObjectBaseGenerator,
      Client.businessObjectGenerator, Client.formBaseGenerator, Client.formGroupGenerator,
      Client.componentGenerator, Client.pageGenerator, Client.pagesIndexGenerator,
      Client.routesGenerator, Client.configGenerator, Client.stylesGenerator,
      Client.packageGenerator, Client.runtimeGenerator, Server.mainProjectTrigger,
      Client.mainProjectTrigger]
  rcases plain generator known aggregate trigger listed with same | same
  · exact ⟨_, congrFun (congrFun same unit) registry⟩
  · exact ⟨_, congrFun (congrFun same unit) registry⟩

theorem not_interrupts {registry : Registry} {failure : Failure}
    {tried : List (Trigger × Declared Design.Unit)}
    (answers : ∀ candidate ∈ tried, ∃ answer, candidate.1.accepts candidate.2 registry = .ok answer) :
    ¬Interrupts registry failure tried := by
  intro ended
  induction ended with
  | here raised _ =>
    obtain ⟨answer, answered⟩ := answers _ List.mem_cons_self
    cases answered.symm.trans raised
  | later _ _ ih => exact ih fun candidate member => answers candidate (List.mem_cons_of_mem _ member)

/-- Every run over all generators returns. -/
theorem exists_run (registry : Registry) (targets : List String) (workers : Int)
    (choices : Nat → Nat) :
    ∃ finished, run registry allGenerators targets workers choices = .ok finished := by
  obtain ⟨_, returns, _⟩ := run_returns_iff_uninterrupted registry allGenerators targets
  rw [returns]
  rintro generator selected failure ⟨aggregate, ended⟩
  have known : generator ∈ allGenerators := (List.mem_filter.mp selected).1
  refine not_interrupts (fun candidate member => ?_) ended
  obtain ⟨trigger, listed, inside⟩ := List.mem_flatMap.mp member
  obtain ⟨unit, _, rfl⟩ := List.mem_map.mp inside
  exact exists_answer known aggregate listed unit registry

section Results

variable {registry : Registry} {generator : Generator} {place : Nat}

private theorem filter_sitesOf_same :
    (sitesOf registry generator place).filter (·.generator.name == generator.name) =
      sitesOf registry generator place := by
  rw [List.filter_eq_self]
  intro site member
  rw [← (of_mem_sitesOf member).1]
  exact beq_self_eq_true _

private theorem filter_sitesOf_other {name : String} (other : generator.name ≠ name) :
    (sitesOf registry generator place).filter (·.generator.name == name) = [] := by
  rw [List.filter_eq_nil_iff]
  intro site member
  rw [← (of_mem_sitesOf member).1, beq_iff_eq]
  exact other

/-- Of the sites of generators with names of their own, those under a name are those of one
generator. -/
theorem filter_sites {placed : List (Generator × Nat)}
    (distinct : (placed.map (·.1.name)).Nodup) (listed : (generator, place) ∈ placed) :
    (placed.flatMap fun placed => sitesOf registry placed.1 placed.2).filter
      (·.generator.name == generator.name) = sitesOf registry generator place := by
  induction placed with
  | nil => cases listed
  | cons first placed ih =>
    rw [List.map_cons, List.nodup_cons] at distinct
    rw [List.flatMap_cons, List.filter_append]
    rcases List.mem_cons.mp listed with rfl | later
    · have others : (placed.flatMap fun placed => sitesOf registry placed.1 placed.2).filter
          (·.generator.name == generator.name) = [] := by
        rw [List.filter_flatMap, List.flatMap_eq_nil_iff]
        intro other member
        refine filter_sitesOf_other fun same => distinct.1 ?_
        exact List.mem_map.mpr ⟨other, member, same⟩
      rw [filter_sitesOf_same, others, List.append_nil]
    · have apart : first.1.name ≠ generator.name := by
        intro same
        exact distinct.1 (List.mem_map.mpr ⟨_, later, same.symm⟩)
      rw [filter_sitesOf_other apart, List.nil_append]
      exact ih distinct.2 later

private theorem allGenerators_names_nodup : (allGenerators.map Generator.name).Nodup := by
  decide

variable {targets : List String} {workers : Int} {choices : Nat → Nat} {finished : Run}

/-- The results under the name of a generator are those of its sites. -/
theorem results_of_generator
    (returned : run registry allGenerators targets workers choices = .ok finished)
    (known : allGenerators[place]? = some generator) (selected : generator.target ∈ targets) :
    finished.outcome.of generator.name =
      (sitesOf registry generator place).map (Site.result registry) := by
  have named (site : Site) : (site.result registry).generator = site.generator.name :=
    (answers_result registry site).generator
  have distinct : ((allGenerators.zipIdx.filter fun placed =>
      targets.contains placed.1.target).map (·.1.name)).Nodup := by
    refine allGenerators_names_nodup.sublist ?_
    have whole := congrArg (List.map Generator.name) (List.zipIdx_map_fst 0 allGenerators)
    rw [List.map_map] at whole
    rw [← whole]
    exact List.filter_sublist.map _
  have listed : (generator, place) ∈ allGenerators.zipIdx.filter fun placed =>
      targets.contains placed.1.target := by
    rw [List.mem_filter, List.mem_zipIdx_iff_getElem?]
    exact ⟨known, by simpa using selected⟩
  rw [RunResult.of, results_of_run returned, List.filter_map, sites]
  simp only [Function.comp_def, named]
  rw [filter_sites distinct listed]

/-- A generator of units with one trigger has a result for every unit of that kind. -/
theorem results_of_units
    (returned : run registry allGenerators targets workers choices = .ok finished)
    (known : allGenerators[place]? = some generator) (selected : generator.target ∈ targets)
    (separate : generator.isAggregate = false) {trigger : Trigger}
    (single : generator.triggers = [trigger]) :
    finished.outcome.of generator.name = (registry.ofKind trigger.kind).map fun unit =>
      Site.result registry ⟨0, generator, some unit⟩ := by
  rw [results_of_generator returned known selected, sitesOf, if_neg (by simp [separate]),
    List.map_map]
  -- The place of a generator does not show in its results.
  refine congrArg (List.map fun unit => Site.result registry ⟨0, generator, some unit⟩) ?_
  simp only [Registry.ofKind, Generator.triggerFor?, single, List.find?_singleton]
  apply List.filter_congr
  intro unit _
  unfold Trigger.matches
  cases unit.kind == trigger.kind <;> rfl

/-- A unit is the only one of its kind and name. -/
theorem filter_ofKind_name {declared : Declared Design.Unit} (member : declared ∈ registry.units) :
    (registry.ofKind declared.kind).filter (·.name == declared.name) = [declared] := by
  have general {units : List (Declared Design.Unit)} (distinct : (units.map Declared.key).Nodup)
      (member : declared ∈ units) :
      units.filter (fun unit => unit.name == declared.name && unit.kind == declared.kind) =
        [declared] := by
    induction units with
    | nil => cases member
    | cons first units ih =>
      rw [List.map_cons, List.nodup_cons] at distinct
      rcases List.mem_cons.mp member with rfl | later
      · have others : units.filter (fun unit =>
            unit.name == declared.name && unit.kind == declared.kind) = [] := by
          rw [List.filter_eq_nil_iff]
          intro unit listed same
          rw [Bool.and_eq_true, beq_iff_eq, beq_iff_eq] at same
          exact distinct.1 (List.mem_map.mpr ⟨unit, listed, Prod.ext same.2 same.1⟩)
        rw [List.filter_cons_of_pos (by simp), others]
      · have apart : ¬(first.name == declared.name && first.kind == declared.kind) = true := by
          intro same
          rw [Bool.and_eq_true, beq_iff_eq, beq_iff_eq] at same
          exact distinct.1 (List.mem_map.mpr ⟨declared, later, (Prod.ext same.2 same.1).symm⟩)
        rw [List.filter_cons, if_neg apart]
        exact ih distinct.2 later
  rw [Registry.ofKind, List.filter_filter]
  exact general registry.distinct member

/-- The result of a generator of units for a unit is the only one under their names. -/
theorem results_of_unit
    (returned : run registry allGenerators targets workers choices = .ok finished)
    (known : allGenerators[place]? = some generator) (selected : generator.target ∈ targets)
    (separate : generator.isAggregate = false) {trigger : Trigger}
    (single : generator.triggers = [trigger]) {declared : Declared Design.Unit}
    (member : declared ∈ registry.units) (kind : declared.kind = trigger.kind) :
    (finished.outcome.of generator.name).filter (·.unit == some declared.name) =
      [Site.result registry ⟨0, generator, some declared⟩] := by
  have named (unit : Declared Design.Unit) :
      (Site.result registry ⟨0, generator, some unit⟩).unit = some unit.name :=
    (answers_result registry _).unit
  have only := filter_ofKind_name member
  rw [kind] at only
  rw [results_of_units returned known selected separate single, List.filter_map]
  simp only [Function.comp_def, named, Option.some_beq_some]
  rw [only, List.map_singleton]

end Results

section Entities

/-- The generators that run for every entity. -/
def entityGenerators : List Generator :=
  [Server.schemaGenerator, Server.businessObjectGenerator, Server.routeGenerator,
    Client.businessObjectGenerator, Client.formGroupGenerator]

example : entityGenerators.map Generator.name =
    ["business-object-schema", "business-object", "business-object-route", "business-object-client",
      "business-object-form-group"] := by
  decide

/-- What a generator of entities is: one of all generators, for the server or the client, with one
trigger. -/
structure OfEntities (generator : Generator) : Prop where
  known : ∃ place : Nat, allGenerators[place]? = some generator
  target : generator.target = "server" ∨ generator.target = "client"
  separate : generator.isAggregate = false
  single : ∃ accepts, generator.triggers = [⟨.entity, accepts⟩] ∧
    (accepts = serverEntity ∨ accepts = notLibrary)

theorem ofEntities {generator : Generator} (listed : generator ∈ entityGenerators) :
    OfEntities generator := by
  simp only [entityGenerators, List.mem_cons, List.not_mem_nil, or_false] at listed
  rcases listed with rfl | rfl | rfl | rfl | rfl
  · exact ⟨⟨0, rfl⟩, Or.inl rfl, rfl, _, rfl, Or.inl rfl⟩
  · exact ⟨⟨1, rfl⟩, Or.inl rfl, rfl, _, rfl, Or.inl rfl⟩
  · exact ⟨⟨2, rfl⟩, Or.inl rfl, rfl, _, rfl, Or.inl rfl⟩
  · exact ⟨⟨10, rfl⟩, Or.inr rfl, rfl, _, rfl, Or.inr rfl⟩
  · exact ⟨⟨12, rfl⟩, Or.inr rfl, rfl, _, rfl, Or.inr rfl⟩

variable {registry : Registry} {targets : List String} {workers : Int} {choices : Nat → Nat}
  {finished : Run} {generator : Generator}

/-- A generator of entities has a result for every entity, in order. -/
theorem results_of_entities
    (returned : run registry allGenerators targets workers choices = .ok finished)
    (listed : generator ∈ entityGenerators) (selected : generator.target ∈ targets) :
    finished.outcome.of generator.name = (registry.ofKind .entity).map fun unit =>
      Site.result registry ⟨0, generator, some unit⟩ := by
  obtain ⟨⟨place, known⟩, _, separate, accepts, single, _⟩ := ofEntities listed
  exact results_of_units returned known selected separate single

/-- The result of a generator for an entity is the only one under its name. -/
theorem results_of_entity
    (returned : run registry allGenerators targets workers choices = .ok finished)
    (listed : generator ∈ entityGenerators) (selected : generator.target ∈ targets)
    {declared : Declared Design.Unit} (member : declared ∈ registry.units)
    (kind : declared.kind = .entity) :
    (finished.outcome.of generator.name).filter (·.unit == some declared.name) =
      [Site.result registry ⟨0, generator, some declared⟩] := by
  obtain ⟨⟨place, known⟩, _, separate, accepts, single, _⟩ := ofEntities listed
  exact results_of_unit returned known selected separate single member kind

/-- A generator of entities asks its one condition. -/
theorem accepted_entity (registry : Registry) (listed : generator ∈ entityGenerators) {declared : Declared Design.Unit}
    (kind : declared.kind = .entity) : ∃ accepts, (accepts = serverEntity ∨ accepts = notLibrary) ∧
      Site.accepted registry ⟨0, generator, some declared⟩ = accepts declared registry := by
  obtain ⟨_, _, _, accepts, single, either⟩ := ofEntities listed
  refine ⟨accepts, either, ?_⟩
  have looks : Trigger.matches ⟨.entity, accepts⟩ declared = true := by
    rw [Trigger.matches, kind]
    rfl
  simp only [Site.accepted, Generator.triggerFor?, single, List.find?_singleton, looks, ↓reduceIte]

end Entities

end Blueprint.Generation
