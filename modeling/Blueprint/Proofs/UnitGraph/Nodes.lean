import Blueprint.Proofs.Distinct
import Blueprint.Proofs.Registry
import Blueprint.Proofs.UnitGraph.Edges

namespace Blueprint.UnitGraph

open Design

/-- The nodes of the units. -/
def unitNodes (registry : Registry) : List Node :=
  registry.units.map fun declared => ⟨declared.key, declared.isLibrary, false⟩

/-- The node of a key that nobody declares. -/
def missingNode (key : Key) : Node := ⟨key, false, true⟩

/-- Adds a missing node for a key that has none. -/
def addTarget (nodes : List Node) (key : Key) : List Node :=
  if nodes.any (·.key == key) then nodes else nodes ++ [missingNode key]

/-- Adds missing nodes for the targets of edges, in order. -/
def addTargets (edges : List Edge) (nodes : List Node) : List Node :=
  edges.foldl (fun nodes edge => addTarget nodes edge.target) nodes

section Adding

variable {registry : Registry}

theorem nodes_addEdges (edges : List Edge) (graph : UnitGraph) :
    (graph.addEdges edges).nodes = addTargets edges graph.nodes := by
  induction edges generalizing graph with
  | nil => rfl
  | cons edge edges ih => exact ih (graph.addEdge edge)

private theorem nodes_addEntity (registry : Registry) (graph : UnitGraph) (entity : Entity) :
    (addEntity registry graph entity).nodes =
      addTargets (entityEdges registry entity) graph.nodes := by
  unfold addEntity entityEdges
  cases (Relationship.resolveOwn registry entity).outcome with
  | error failure =>
    simp only
    split <;> rfl
  | ok relationships =>
    simp only [nodes_addEdges]
    split <;> rfl

private theorem nodes_foldl_addEntity (entities : List (Declared Entity)) (graph : UnitGraph) :
    (entities.foldl (fun graph entity => addEntity registry graph entity.unit) graph).nodes =
      addTargets (entities.flatMap fun entity => entityEdges registry entity.unit) graph.nodes := by
  induction entities generalizing graph with
  | nil => rfl
  | cons entity entities ih =>
    rw [List.foldl_cons, ih, nodes_addEntity, List.flatMap_cons, addTargets, addTargets, addTargets,
      List.foldl_append]

/-- New targets get a node each, at their first places. -/
theorem addTargets_eq (edges : List Edge) (nodes : List Node) :
    addTargets edges nodes = nodes ++
      (((edges.map Edge.target).filter fun key => !nodes.any (·.key == key)).eraseDups).map
        missingNode := by
  induction edges generalizing nodes with
  | nil => exact (List.append_nil nodes).symm
  | cons edge edges ih =>
    change addTargets edges (addTarget nodes edge.target) = _
    rw [ih, addTarget, List.map_cons]
    cases known : nodes.any (·.key == edge.target) with
    | true => rw [if_pos rfl, List.filter_cons_of_neg (by simp [known])]
    | false =>
      have others : (edges.map Edge.target).filter
            (fun key => !(nodes ++ [missingNode edge.target]).any (·.key == key)) =
          ((edges.map Edge.target).filter fun key => !nodes.any (·.key == key)).filter
            (!· == edge.target) := by
        rw [List.filter_filter]
        refine List.filter_congr fun key _ => ?_
        rw [List.any_append, Bool.not_or, Bool.and_comm, List.any_cons, List.any_nil, Bool.or_false]
        exact congrArg (!· && _) (Bool.beq_comm)
      rw [if_neg (by simp), others, List.filter_cons_of_pos (by simp [known]),
        List.eraseDups_cons, List.map_cons, List.append_assoc, List.singleton_append]

end Adding

section Nodes

variable {registry : Registry}

/-- The names of the mixins that units apply, in order. -/
def appliedMixins (registry : Registry) : List String :=
  (registry.ofKind .entity ++ registry.ofKind .component).flatMap (·.unit.mixins)

/-- The applied mixins that nobody declares, each once. -/
def unknownMixins (registry : Registry) : List String :=
  ((appliedMixins registry).filter fun name => !registry.has .mixin name).eraseDups

/-- An entity or a component applies a mixin of this name. -/
def Applied (registry : Registry) (name : String) : Prop :=
  ∃ carrier ∈ registry.units,
    (carrier.unit.kind = .entity ∨ carrier.unit.kind = .component) ∧ name ∈ carrier.unit.mixins

private theorem mem_appliedMixins {name : String} :
    name ∈ appliedMixins registry ↔ Applied registry name := by
  simp only [appliedMixins, Registry.ofKind, List.mem_flatMap, List.mem_append, List.mem_filter,
    beq_iff_eq, Applied, Declared.kind]
  constructor
  · rintro ⟨carrier, ⟨member, kind⟩ | ⟨member, kind⟩, applied⟩
    · exact ⟨carrier, member, Or.inl kind, applied⟩
    · exact ⟨carrier, member, Or.inr kind, applied⟩
  · rintro ⟨carrier, member, kind | kind, applied⟩
    · exact ⟨carrier, Or.inl ⟨member, kind⟩, applied⟩
    · exact ⟨carrier, Or.inr ⟨member, kind⟩, applied⟩

theorem mem_unknownMixins {name : String} :
    name ∈ unknownMixins registry ↔
      Applied registry name ∧ ∀ declared ∈ registry.units, declared.key ≠ (.mixin, name) := by
  rw [unknownMixins, List.mem_eraseDups, List.mem_filter, mem_appliedMixins, Bool.not_eq_true',
    ← Bool.not_eq_true, Registry.has_iff]
  simp only [not_exists, not_and, ne_eq]

theorem any_unitNodes (key : Key) :
    (unitNodes registry).any (·.key == key) = registry.has key.1 key.2 := by
  rw [Bool.eq_iff_iff, Registry.has_iff, unitNodes, List.any_map, List.any_eq_true]
  simp only [Function.comp_apply, beq_iff_eq]

private theorem has_of_mem_views {view : Key × String} (listed : view ∈ views registry) :
    registry.has view.1.1 view.1.2 = true := by
  rcases List.mem_append.mp listed with page | component
  · obtain ⟨_, declared, rfl⟩ := List.mem_map.mp page
    exact Registry.has_of_mem_list page?_shows declared
  · obtain ⟨_, declared, rfl⟩ := List.mem_map.mp component
    exact Registry.has_of_mem_list component?_shows declared

private theorem has_of_selectors {element : String} {used : Key}
    (found : (selectors registry).lookup element = some used) :
    registry.has used.1 used.2 = true := by
  rcases List.mem_append.mp (OrderedMap.mem_of_mem_ofList (OrderedMap.mem_of_lookup found)) with
    own | own
  · obtain ⟨_, declared, same⟩ := List.mem_map.mp own
    obtain rfl := congrArg Prod.snd same
    exact Registry.has_of_mem_list component?_shows declared
  · obtain ⟨_, declared, same⟩ := List.mem_map.mp own
    obtain rfl := congrArg Prod.snd same
    exact Registry.has_of_mem_list page?_shows declared

/-- References start at units. -/
theorem has_source {edge : Edge} (member : edge ∈ references registry) :
    registry.has edge.source.1 edge.source.2 = true := by
  rcases mem_references_iff.mp member with ⟨entity, listed, own⟩ | applied | attached | shown
  · have source : edge.source = (.entity, entity.unit.name) := by
      rcases List.mem_append.mp own with stored | linked
      · split at stored
        · rw [List.mem_singleton.mp stored]
        · cases stored
      · split at linked
        · cases linked
        · obtain ⟨relationship, _, rfl⟩ := List.mem_map.mp linked
          rfl
    rw [source]
    exact Registry.has_of_mem_list entity?_shows listed
  · obtain ⟨declared, listed, named⟩ := List.mem_flatMap.mp applied
    obtain ⟨name, _, rfl⟩ := List.mem_map.mp named
    have member : declared ∈ registry.units := by
      rcases List.mem_append.mp listed with own | own <;> exact (List.mem_filter.mp own).1
    exact Registry.has_iff.mpr ⟨declared, member, rfl⟩
  · obtain ⟨behavior, listed, drawn⟩ := List.mem_filterMap.mp attached
    obtain ⟨kind, _, rfl⟩ := Option.map_eq_some_iff.mp drawn
    exact Registry.has_of_mem_list behavior?_shows listed
  · obtain ⟨view, listed, _, _, used, _, _, rfl⟩ := mem_viewEdges_iff.mp shown
    exact has_of_mem_views listed

/-- References other than those to mixins lead to units. -/
theorem has_target_of_entityEdges {entity : Entity} {edge : Edge}
    (member : edge ∈ entityEdges registry entity) :
    registry.has edge.target.1 edge.target.2 = true := by
  unfold entityEdges at member
  rcases List.mem_append.mp member with stored | linked
  · split at stored
    · rename_i declared
      rw [List.mem_singleton.mp stored]
      exact (Bool.and_eq_true _ _ ▸ declared).2
    · cases stored
  · split at linked
    · cases linked
    · rename_i relationships resolved
      obtain ⟨relationship, listed, rfl⟩ := List.mem_map.mp linked
      rw [Relationship.resolve_eq_ok resolved] at listed
      obtain ⟨target, found⟩ := Relationship.findEntity?_target listed
      have named := Registry.name_of_findEntity? found
      exact named ▸ Registry.has_of_mem_list entity?_shows (List.mem_of_find?_eq_some found)

private theorem has_target_of_behaviorEdges {edge : Edge} (member : edge ∈ behaviorEdges registry) :
    registry.has edge.target.1 edge.target.2 = true := by
  obtain ⟨behavior, _, drawn⟩ := List.mem_filterMap.mp member
  obtain ⟨kind, first, rfl⟩ := Option.map_eq_some_iff.mp drawn
  have owned : registry.has kind behavior.unit.owner = true := List.find?_some (p := fun kind =>
    registry.has kind behavior.unit.owner) first
  exact owned

private theorem has_target_of_viewEdges {edge : Edge} (member : edge ∈ viewEdges registry) :
    registry.has edge.target.1 edge.target.2 = true := by
  obtain ⟨_, _, _, _, used, _, found, rfl⟩ := mem_viewEdges_iff.mp member
  exact has_of_selectors found

/-- The targets that are no units are the applied mixins that nobody declares. -/
theorem new_targets (registry : Registry) :
    ((references registry).map Edge.target).filter
        (fun key => !(unitNodes registry).any (·.key == key)) =
      ((appliedMixins registry).filter fun name => !registry.has .mixin name).map
        (Prod.mk UnitKind.mixin) := by
  have known (edges : List Edge)
      (declared : ∀ edge ∈ edges, registry.has edge.target.1 edge.target.2 = true) :
      (edges.map Edge.target).filter (fun key => !(unitNodes registry).any (·.key == key)) = [] := by
    rw [List.filter_eq_nil_iff]
    intro key listed
    obtain ⟨edge, member, rfl⟩ := List.mem_map.mp listed
    simp [any_unitNodes, declared edge member]
  have mixins : (mixinEdges (registry.ofKind .entity ++ registry.ofKind .component)).map
      Edge.target = (appliedMixins registry).map (Prod.mk UnitKind.mixin) := by
    simp only [mixinEdges, appliedMixins, List.map_flatMap, List.map_map]
    rfl
  rw [references, List.map_append, List.map_append, List.map_append, List.filter_append,
    List.filter_append, List.filter_append, mixins,
    known _ (fun edge member => by
      obtain ⟨entity, _, own⟩ := List.mem_flatMap.mp member
      exact has_target_of_entityEdges own),
    known _ (fun edge => has_target_of_behaviorEdges),
    known _ (fun edge => has_target_of_viewEdges), List.nil_append, List.append_nil,
    List.append_nil, List.filter_map]
  congr 1
  refine List.filter_congr fun name _ => ?_
  rw [Function.comp_apply, any_unitNodes]

theorem nodes_eq_addTargets (registry : Registry) :
    (ofRegistry registry).nodes = addTargets (references registry) (unitNodes registry) := by
  unfold ofRegistry references
  simp only [nodes_addEdges, nodes_foldl_addEntity, addTargets, List.foldl_append]
  rfl

/-- The nodes of the graph are the units and a missing node for each unknown mixin. -/
theorem nodes_ofRegistry (registry : Registry) :
    (ofRegistry registry).nodes =
      unitNodes registry ++ (unknownMixins registry).map fun name => missingNode (.mixin, name) := by
  have injective : Function.Injective (Prod.mk UnitKind.mixin : String → Key) :=
    fun _ _ same => congrArg Prod.snd same
  rw [nodes_eq_addTargets, addTargets_eq, new_targets, eraseDups_map injective, List.map_map,
    unknownMixins]
  rfl

theorem hasNode_ofRegistry {declared : Declared Design.Unit} (member : declared ∈ registry.units) :
    (ofRegistry registry).hasNode declared.key = true := by
  rw [hasNode, nodes_ofRegistry, List.any_append, any_unitNodes, Bool.or_eq_true]
  exact Or.inl (Registry.has_iff.mpr ⟨declared, member, rfl⟩)

/-- The targets of edges are nodes. -/
theorem hasNode_target {edge : Edge} (member : edge ∈ references registry) :
    (ofRegistry registry).hasNode edge.target = true := by
  rw [hasNode, nodes_eq_addTargets, addTargets_eq, List.any_append, Bool.or_eq_true]
  by_cases known : (unitNodes registry).any (·.key == edge.target) = true
  · exact Or.inl known
  · refine Or.inr (List.any_eq_true.mpr ⟨missingNode edge.target, ?_, beq_self_eq_true _⟩)
    refine List.mem_map_of_mem (List.mem_eraseDups.mpr (List.mem_filter.mpr ⟨?_, ?_⟩))
    · exact List.mem_map_of_mem member
    · rwa [Bool.not_eq_true', ← Bool.not_eq_true]

end Nodes

end Blueprint.UnitGraph
