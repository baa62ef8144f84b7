import Blueprint.Proofs.OrderedMap
import Blueprint.UnitGraph.Basic

namespace Blueprint.UnitGraph

open Design

/-- Some edge says that a node refers to another in a way. -/
def Leads (edges : List Edge) (kind : EdgeKind) (source target : Key) : Prop :=
  ∃ edge ∈ edges, edge.kind = kind ∧ edge.source = source ∧ edge.target = target

/-- Puts edges in their places, one after the other. -/
def putEdges (edges done : List Edge) : List Edge :=
  edges.foldl (fun done edge => putEdge edge done) done

section Places

variable {edge other : Edge} {edges done : List Edge}

private theorem mem_putEdge (member : edge ∈ putEdge other edges) : edge = other ∨ edge ∈ edges := by
  induction edges with
  | nil => exact Or.inl (List.mem_singleton.mp member)
  | cons first edges ih =>
    unfold putEdge at member
    split at member
    · exact (List.mem_cons.mp member).imp_right (List.mem_cons_of_mem first)
    · rcases List.mem_cons.mp member with rfl | later
      · exact Or.inr List.mem_cons_self
      · exact (ih later).imp_right (List.mem_cons_of_mem first)

private theorem mem_putEdge_self (edge : Edge) (edges : List Edge) : edge ∈ putEdge edge edges := by
  induction edges with
  | nil => exact List.mem_singleton_self edge
  | cons first edges ih =>
    unfold putEdge
    split
    · exact List.mem_cons_self
    · exact List.mem_cons_of_mem first ih

/-- An edge that gives way leaves one between the same nodes. -/
theorem exists_mem_putEdge (member : edge ∈ edges) :
    ∃ kept ∈ putEdge other edges, kept.source = edge.source ∧ kept.target = edge.target := by
  induction edges with
  | nil => cases member
  | cons first edges ih =>
    unfold putEdge
    split
    · rename_i same
      rw [Bool.and_eq_true, beq_iff_eq, beq_iff_eq] at same
      rcases List.mem_cons.mp member with rfl | later
      · exact ⟨other, List.mem_cons_self, same.1.symm, same.2.symm⟩
      · exact ⟨edge, List.mem_cons_of_mem other later, rfl, rfl⟩
    · rcases List.mem_cons.mp member with rfl | later
      · exact ⟨edge, List.mem_cons_self, rfl, rfl⟩
      · obtain ⟨kept, present, ends⟩ := ih later
        exact ⟨kept, List.mem_cons_of_mem first present, ends⟩

theorem mem_putEdges (member : edge ∈ putEdges edges done) : edge ∈ done ∨ edge ∈ edges := by
  induction edges generalizing done with
  | nil => exact Or.inl member
  | cons first edges ih =>
    rcases ih member with earlier | later
    · rcases mem_putEdge earlier with rfl | old
      · exact Or.inr List.mem_cons_self
      · exact Or.inl old
    · exact Or.inr (List.mem_cons_of_mem first later)

theorem exists_mem_putEdges (member : edge ∈ done ∨ edge ∈ edges) :
    ∃ kept ∈ putEdges edges done, kept.source = edge.source ∧ kept.target = edge.target := by
  induction edges generalizing done edge with
  | nil => exact ⟨edge, member.resolve_right List.not_mem_nil, rfl, rfl⟩
  | cons first edges ih =>
    rcases member with old | new
    · obtain ⟨kept, present, fromSource, toTarget⟩ : ∃ kept ∈ putEdge first done,
          kept.source = edge.source ∧ kept.target = edge.target := exists_mem_putEdge old
      obtain ⟨last, there, ends⟩ := ih (Or.inl present)
      exact ⟨last, there, ends.1.trans fromSource, ends.2.trans toTarget⟩
    · rcases List.mem_cons.mp new with rfl | later
      · exact ih (Or.inl (mem_putEdge_self edge done))
      · exact ih (Or.inr later)

end Places

section References

/-- The references of an entity: to its data source, and to the targets of its associations. -/
def entityEdges (registry : Registry) (entity : Entity) : List Edge :=
  let source : Key := (.entity, entity.name)
  (if !entity.dataSource.isEmpty && registry.has .dataSource entity.dataSource then
    [{ source, target := (.dataSource, entity.dataSource), kind := .dataSource }] else []) ++
  match (Relationship.resolveOwn registry entity).outcome with
  | .error _ => []
  | .ok relationships => relationships.map fun relationship =>
      { source, target := (.entity, relationship.target), kind := .relationship
        label := relationship.name }

/-- All references between the units of a registry. -/
def references (registry : Registry) : List Edge :=
  (registry.entities.flatMap fun entity => entityEdges registry entity.unit) ++
    (mixinEdges (registry.ofKind .entity ++ registry.ofKind .component) ++
      (behaviorEdges registry ++ viewEdges registry))

variable {registry : Registry} {graph : UnitGraph}

theorem edges_addEdges (edges : List Edge) (graph : UnitGraph) :
    (graph.addEdges edges).edges = putEdges edges graph.edges := by
  induction edges generalizing graph with
  | nil => rfl
  | cons edge edges ih => exact ih (graph.addEdge edge)

private theorem edges_addEntity (registry : Registry) (graph : UnitGraph) (entity : Entity) :
    (addEntity registry graph entity).edges = putEdges (entityEdges registry entity) graph.edges := by
  unfold addEntity entityEdges
  cases (Relationship.resolveOwn registry entity).outcome with
  | error failure =>
    simp only
    split <;> rfl
  | ok relationships =>
    simp only [edges_addEdges]
    split <;> rfl

private theorem edges_foldl_addEntity (entities : List (Declared Entity)) (graph : UnitGraph) :
    (entities.foldl (fun graph entity => addEntity registry graph entity.unit) graph).edges =
      putEdges (entities.flatMap fun entity => entityEdges registry entity.unit) graph.edges := by
  induction entities generalizing graph with
  | nil => rfl
  | cons entity entities ih =>
    rw [List.foldl_cons, ih, edges_addEntity, List.flatMap_cons, putEdges, putEdges, putEdges,
      List.foldl_append]

theorem edges_ofRegistry (registry : Registry) :
    (ofRegistry registry).edges = putEdges (references registry) [] := by
  unfold ofRegistry references
  simp only [edges_addEdges, edges_foldl_addEntity, putEdges, List.foldl_append]

/-- What an edge says between units of two kinds. -/
def kindBetween : UnitKind → UnitKind → Option EdgeKind
  | .entity, .entity => some .relationship
  | .entity, .dataSource => some .dataSource
  | .entity, .mixin | .component, .mixin => some .mixin
  | .behavior, .entity | .behavior, .mixin | .behavior, .project => some .behavior
  | .page, .page | .page, .component | .component, .page | .component, .component => some .uses
  | _, _ => none

/-- The kinds of its nodes say what kind an edge is of. -/
def Edge.Fits (edge : Edge) : Prop := kindBetween edge.source.1 edge.target.1 = some edge.kind

theorem fits_of_mem_entityEdges {entity : Entity} {edge : Edge}
    (member : edge ∈ entityEdges registry entity) :
    edge.Fits ∧ (edge.kind = .dataSource ∨ edge.kind = .relationship) := by
  unfold entityEdges at member
  rcases List.mem_append.mp member with stored | linked
  · split at stored
    · obtain rfl := List.mem_singleton.mp stored
      exact ⟨rfl, Or.inl rfl⟩
    · cases stored
  · split at linked
    · cases linked
    · obtain ⟨relationship, _, rfl⟩ := List.mem_map.mp linked
      exact ⟨rfl, Or.inr rfl⟩

private theorem fits_of_mem_mixinEdges {edge : Edge}
    (member : edge ∈ mixinEdges (registry.ofKind .entity ++ registry.ofKind .component)) :
    edge.Fits ∧ edge.kind = .mixin := by
  obtain ⟨declared, listed, member⟩ := List.mem_flatMap.mp member
  obtain ⟨name, _, rfl⟩ := List.mem_map.mp member
  have kind : declared.unit.kind = .entity ∨ declared.unit.kind = .component := by
    rcases List.mem_append.mp listed with own | own
    · exact Or.inl (eq_of_beq (List.mem_filter.mp own).2)
    · exact Or.inr (eq_of_beq (List.mem_filter.mp own).2)
  refine ⟨?_, rfl⟩
  unfold Edge.Fits
  rcases kind with same | same <;> simp only [Declared.key, same] <;> rfl

theorem fits_of_mem_behaviorEdges {edge : Edge} (member : edge ∈ behaviorEdges registry) :
    edge.Fits ∧ edge.kind = .behavior := by
  obtain ⟨behavior, _, drawn⟩ := List.mem_filterMap.mp member
  obtain ⟨kind, first, rfl⟩ := Option.map_eq_some_iff.mp drawn
  refine ⟨?_, rfl⟩
  have listed := List.mem_of_find?_eq_some first
  simp only [List.mem_cons, List.not_mem_nil, or_false] at listed
  rcases listed with rfl | rfl | rfl <;> rfl

/-- Pages and components are what templates use. -/
def IsView (kind : UnitKind) : Prop := kind = .page ∨ kind = .component

private theorem isView_of_mem_views {view : Key × String} (listed : view ∈ views registry) :
    IsView view.1.1 := by
  rcases List.mem_append.mp listed with page | component
  · obtain ⟨_, _, rfl⟩ := List.mem_map.mp page
    exact Or.inl rfl
  · obtain ⟨_, _, rfl⟩ := List.mem_map.mp component
    exact Or.inr rfl

private theorem isView_of_selectors {element : String} {used : Key}
    (found : (selectors registry).lookup element = some used) : IsView used.1 := by
  rcases List.mem_append.mp (OrderedMap.mem_of_mem_ofList (OrderedMap.mem_of_lookup found)) with own | own
  · obtain ⟨_, _, same⟩ := List.mem_map.mp own
    exact Or.inr (congrArg (·.2.1) same).symm
  · obtain ⟨_, _, same⟩ := List.mem_map.mp own
    exact Or.inl (congrArg (·.2.1) same).symm

/-- An edge of a view leads from its node to another whose element its template uses. -/
theorem mem_viewEdges_iff {edge : Edge} :
    edge ∈ viewEdges registry ↔ ∃ view ∈ views registry,
      ∃ element ∈ Markup.elementSelectors view.2, ∃ used, used ≠ view.1 ∧
        (selectors registry).lookup element = some used ∧ edge = ⟨view.1, used, .uses, ""⟩ := by
  simp only [viewEdges, List.mem_flatMap, List.mem_filterMap]
  constructor
  · rintro ⟨view, listed, element, used, drawn⟩
    split at drawn
    · rename_i target found
      split at drawn
      · cases drawn
      · rename_i other
        cases drawn
        exact ⟨view, listed, element, used, target, by simpa using other, found, rfl⟩
    · cases drawn
  · rintro ⟨view, listed, element, used, target, other, found, rfl⟩
    refine ⟨view, listed, element, used, ?_⟩
    rw [found]
    exact if_neg (by simpa using other)

theorem fits_of_mem_viewEdges {edge : Edge} (member : edge ∈ viewEdges registry) :
    edge.Fits ∧ edge.kind = .uses := by
  obtain ⟨view, listed, element, _, used, _, found, rfl⟩ := mem_viewEdges_iff.mp member
  refine ⟨?_, rfl⟩
  unfold Edge.Fits
  rcases isView_of_mem_views listed with kind | kind <;>
    rcases isView_of_selectors found with other | other <;> simp only [kind, other] <;> rfl

theorem mem_references_iff {edge : Edge} :
    edge ∈ references registry ↔
      (∃ entity ∈ registry.entities, edge ∈ entityEdges registry entity.unit) ∨
      edge ∈ mixinEdges (registry.ofKind .entity ++ registry.ofKind .component) ∨
      edge ∈ behaviorEdges registry ∨ edge ∈ viewEdges registry := by
  simp only [references, List.mem_append, List.mem_flatMap]

theorem fits_of_mem_references {edge : Edge} (member : edge ∈ references registry) : edge.Fits := by
  rcases mem_references_iff.mp member with ⟨entity, _, own⟩ | applied | attached | shown
  · exact (fits_of_mem_entityEdges own).1
  · exact (fits_of_mem_mixinEdges applied).1
  · exact (fits_of_mem_behaviorEdges attached).1
  · exact (fits_of_mem_viewEdges shown).1

/-- The kinds of their nodes leave references between them only one thing to say. -/
theorem kind_eq_of_ends {edge other : Edge} (member : edge ∈ references registry)
    (present : other ∈ references registry) (source : edge.source = other.source)
    (target : edge.target = other.target) : edge.kind = other.kind := by
  have here := fits_of_mem_references member
  have there := fits_of_mem_references present
  unfold Edge.Fits at here there
  rw [source, target] at here
  exact Option.some.inj (here.symm.trans there)

/-- The kind of a reference says which of them it is. -/
theorem mem_edges_of_kind {edge : Edge} (member : edge ∈ references registry) :
    match edge.kind with
    | .relationship | .dataSource => ∃ entity ∈ registry.entities,
        edge ∈ entityEdges registry entity.unit
    | .mixin => edge ∈ mixinEdges (registry.ofKind .entity ++ registry.ofKind .component)
    | .behavior => edge ∈ behaviorEdges registry
    | .uses => edge ∈ viewEdges registry := by
  rcases mem_references_iff.mp member with ⟨entity, listed, own⟩ | applied | attached | shown
  · rcases (fits_of_mem_entityEdges own).2 with kind | kind <;> rw [kind] <;>
      exact ⟨entity, listed, own⟩
  · rw [(fits_of_mem_mixinEdges applied).2]
    exact applied
  · rw [(fits_of_mem_behaviorEdges attached).2]
    exact attached
  · rw [(fits_of_mem_viewEdges shown).2]
    exact shown

theorem mem_behaviorEdges_iff {edge : Edge} :
    edge ∈ behaviorEdges registry ↔ edge ∈ references registry ∧ edge.kind = .behavior := by
  constructor
  · exact fun member =>
      ⟨mem_references_iff.mpr (by simp [member]), (fits_of_mem_behaviorEdges member).2⟩
  · rintro ⟨member, kind⟩
    have own := mem_edges_of_kind member
    rwa [kind] at own

theorem mem_viewEdges_iff_uses {edge : Edge} :
    edge ∈ viewEdges registry ↔ edge ∈ references registry ∧ edge.kind = .uses := by
  constructor
  · exact fun member =>
      ⟨mem_references_iff.mpr (by simp [member]), (fits_of_mem_viewEdges member).2⟩
  · rintro ⟨member, kind⟩
    have own := mem_edges_of_kind member
    rwa [kind] at own

theorem mem_references_of_mem {edge : Edge} (member : edge ∈ (ofRegistry registry).edges) :
    edge ∈ references registry := by
  rw [edges_ofRegistry] at member
  exact (mem_putEdges member).resolve_left List.not_mem_nil

/-- The graph has an edge exactly where a unit refers to another. -/
theorem leads_ofRegistry_iff {kind : EdgeKind} {source target : Key} :
    Leads (ofRegistry registry).edges kind source target ↔
      Leads (references registry) kind source target := by
  constructor
  · rintro ⟨edge, member, joins⟩
    exact ⟨edge, mem_references_of_mem member, joins⟩
  · rintro ⟨edge, member, rfl, rfl, rfl⟩
    obtain ⟨kept, present, fromSource, toTarget⟩ : ∃ kept ∈ (ofRegistry registry).edges,
        kept.source = edge.source ∧ kept.target = edge.target := by
      rw [edges_ofRegistry]
      exact exists_mem_putEdges (Or.inr member)
    have kind := kind_eq_of_ends (mem_references_of_mem present) member fromSource toTarget
    exact ⟨kept, present, kind, fromSource, toTarget⟩

end References

end Blueprint.UnitGraph
