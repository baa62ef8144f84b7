import Mathlib.Logic.Relation
import Blueprint.Proofs.Text
import Blueprint.Proofs.UnitGraph.Nodes

/-!
The dependents of a unit. The search adds the nodes that refer to those found so far, round after
round. Every round but the last finds a node, and the nodes are at least as many as the rounds that
find one, so the search ends with all nodes from which references lead to the unit, and no others.
They are listed in ascending order.
-/

namespace Blueprint.UnitGraph

open Design Relation

/-- A node refers to another in some way. -/
def Refers (edges : List Edge) (source target : Key) : Prop :=
  ∃ edge ∈ edges, edge.source = source ∧ edge.target = target

section Names

private theorem ofName?_name (kind : UnitKind) : UnitKind.ofName? kind.name = some kind := by
  cases kind <;> decide

theorem kindName_noDot (kind : UnitKind) : ∀ c ∈ kind.name.toList, (c != '.') = true := by
  cases kind <;> decide

/-- A key can be read back from the way it is shown: no kind has a dot in its name. -/
theorem idOf_injective : Function.Injective idOf := by
  intro one other same
  have shown (key : Key) : (idOf key).toList = key.1.name.toList ++ '.' :: key.2.toList := by
    simp [idOf, String.toList_append]
  have stops (key : Key) : ∀ c ∈ ('.' :: key.2.toList).head?, (c != '.') = false := by
    simp
  have texts := congrArg String.toList same
  rw [shown, shown] at texts
  have kinds := congrArg (List.takeWhile (· != '.')) texts
  rw [Text.takeWhile_append_stop (kindName_noDot one.1) (stops one),
    Text.takeWhile_append_stop (kindName_noDot other.1) (stops other)] at kinds
  have names := congrArg (List.dropWhile (· != '.')) texts
  rw [Text.dropWhile_append_stop (kindName_noDot one.1) (stops one),
    Text.dropWhile_append_stop (kindName_noDot other.1) (stops other)] at names
  refine Prod.ext ?_ (String.toList_inj.mp (List.cons.inj names).2)
  have found := congrArg UnitKind.ofName? (String.toList_inj.mp kinds)
  rw [ofName?_name, ofName?_name] at found
  exact Option.some.inj found

end Names

section Search

variable {edges : List Edge} {found nodes : List Key} {target : Key}

theorem mem_referrers_iff {key : Key} :
    key ∈ referrers edges found ↔ key ∉ found ∧ ∃ next ∈ found, Refers edges key next := by
  simp only [referrers, List.mem_eraseDups, List.mem_map, List.mem_filter, Bool.and_eq_true,
    Bool.not_eq_true', List.contains_iff_mem, ← Bool.not_eq_true, Refers]
  constructor
  · rintro ⟨edge, ⟨member, known, new⟩, rfl⟩
    exact ⟨new, edge.target, known, edge, member, rfl, rfl⟩
  · rintro ⟨new, _, known, edge, member, rfl, rfl⟩
    exact ⟨edge, ⟨member, known, new⟩, rfl⟩

private theorem subset_reach (rounds : Nat) : found ⊆ reach edges rounds found := by
  induction rounds generalizing found with
  | zero => exact List.Subset.refl found
  | succ rounds ih =>
    unfold reach
    split
    · exact List.Subset.refl found
    · exact List.Subset.trans (List.subset_append_left _ _) ih

theorem refers_of_mem_reach {rounds : Nat}
    (leads : ∀ key ∈ found, ReflTransGen (Refers edges) key target) :
    ∀ key ∈ reach edges rounds found, ReflTransGen (Refers edges) key target := by
  induction rounds generalizing found with
  | zero => exact leads
  | succ rounds ih =>
    unfold reach
    split
    · exact leads
    · refine ih fun key member => ?_
      rcases List.mem_append.mp member with old | new
      · exact leads key old
      · obtain ⟨_, next, known, refers⟩ := mem_referrers_iff.mp new
        exact (leads next known).head refers

private theorem nodup_append_referrers (distinct : found.Nodup) :
    (found ++ referrers edges found).Nodup := by
  refine List.nodup_append.mpr ⟨distinct, nodup_eraseDups _, fun old listed new fresh => ?_⟩
  rintro rfl
  exact (mem_referrers_iff.mp fresh).1 listed

theorem nodup_reach (rounds : Nat) (distinct : found.Nodup) : (reach edges rounds found).Nodup := by
  induction rounds generalizing found with
  | zero => exact distinct
  | succ rounds ih =>
    unfold reach
    split
    · exact distinct
    · exact ih (nodup_append_referrers distinct)

/-- A round that finds nothing comes before the rounds run out: there are not enough nodes for each
of them to find one. -/
theorem referrers_reach {rounds : Nat} (sources : ∀ edge ∈ edges, edge.source ∈ nodes)
    (distinct : found.Nodup) (inside : found ⊆ nodes)
    (enough : nodes.length < rounds + found.length) :
    referrers edges (reach edges rounds found) = [] := by
  induction rounds generalizing found with
  | zero =>
    have := distinct.length_le_of_subset inside
    omega
  | succ rounds ih =>
    unfold reach
    split
    · assumption
    · rename_i more
      refine ih (nodup_append_referrers distinct) ?_ ?_
      · refine List.append_subset.mpr ⟨inside, fun key fresh => ?_⟩
        obtain ⟨_, _, _, edge, member, rfl, _⟩ := mem_referrers_iff.mp fresh
        exact sources edge member
      · have := List.length_pos_iff.mpr more
        rw [List.length_append]
        omega

theorem mem_reach_iff (sources : ∀ edge ∈ edges, edge.source ∈ nodes) (node : target ∈ nodes)
    {key : Key} :
    key ∈ reach edges nodes.length [target] ↔ ReflTransGen (Refers edges) key target := by
  constructor
  · refine refers_of_mem_reach (fun key member => ?_) key
    rw [List.mem_singleton.mp member]
  · intro refers
    induction refers using ReflTransGen.head_induction_on with
    | refl => exact subset_reach _ (List.mem_singleton_self target)
    | head refers _ reached =>
      by_contra missing
      have new := mem_referrers_iff.mpr ⟨missing, _, reached, refers⟩
      have single : [target] ⊆ nodes := fun _ listed => List.mem_singleton.mp listed ▸ node
      rw [referrers_reach sources (List.nodup_singleton target) single (Nat.lt_succ_self _)] at new
      cases new

end Search

section Dependents

variable {graph : UnitGraph} {registry : Registry} {source target : Key}

theorem hasNode_iff {key : Key} :
    graph.hasNode key = true ↔ key ∈ graph.nodes.map Node.key := by
  rw [hasNode, List.any_eq_true, List.mem_map]
  simp only [beq_iff_eq]

theorem mem_dependents_iff (sources : ∀ edge ∈ graph.edges, graph.hasNode edge.source = true)
    (node : graph.hasNode target = true) :
    idOf source ∈ graph.dependents target ↔
      source ≠ target ∧ ReflTransGen (Refers graph.edges) source target := by
  have reached : source ∈ reach graph.edges (graph.nodes.map Node.key).length [target] ↔
      ReflTransGen (Refers graph.edges) source target :=
    mem_reach_iff (fun edge member => hasNode_iff.mp (sources edge member)) (hasNode_iff.mp node)
  rw [List.length_map] at reached
  rw [dependents, if_pos node, Text.sorted, List.mem_mergeSort,
    List.mem_map_of_injective idOf_injective, List.mem_filter, reached, and_comm, bne_iff_ne]

theorem kindBetween_of_refers (refers : Refers (ofRegistry registry).edges source target) :
    ∃ kind, kindBetween source.1 target.1 = some kind ∧
      Leads (ofRegistry registry).edges kind source target := by
  obtain ⟨edge, drawn, rfl, rfl⟩ := refers
  exact ⟨edge.kind, fits_of_mem_references (mem_references_of_mem drawn),
    edge, drawn, rfl, rfl, rfl⟩

theorem hasNode_source {edge : Edge} (drawn : edge ∈ (ofRegistry registry).edges) :
    (ofRegistry registry).hasNode edge.source = true := by
  obtain ⟨carrier, listed, key⟩ := Registry.has_iff.mp (has_source (mem_references_of_mem drawn))
  have node := hasNode_ofRegistry listed
  rwa [key] at node

theorem mem_dependents_ofRegistry (node : (ofRegistry registry).hasNode target = true) :
    idOf source ∈ (ofRegistry registry).dependents target ↔
      source ≠ target ∧ ReflTransGen (Refers (ofRegistry registry).edges) source target :=
  mem_dependents_iff (fun _ drawn => hasNode_source drawn) node

theorem mem_dependents_of_leads {kind : EdgeKind}
    (node : (ofRegistry registry).hasNode target = true) (other : source ≠ target)
    (refers : Leads (ofRegistry registry).edges kind source target) :
    idOf source ∈ (ofRegistry registry).dependents target := by
  obtain ⟨edge, drawn, _, ends⟩ := refers
  exact (mem_dependents_ofRegistry node).mpr ⟨other, .single ⟨edge, drawn, ends⟩⟩

private theorem pairwise_dependents (graph : UnitGraph) (target : Key) :
    (graph.dependents target).Pairwise (· < ·) := by
  unfold dependents
  split
  · have found : (reach graph.edges graph.nodes.length [target]).Nodup :=
      nodup_reach _ (List.nodup_singleton target)
    exact Text.pairwise_sorted ((found.filter _).map idOf_injective)
  · exact List.Pairwise.nil

private theorem exists_key_of_mem_dependents {id : String} (listed : id ∈ graph.dependents target) :
    ∃ source, idOf source = id := by
  unfold dependents at listed
  split at listed
  · rw [Text.sorted, List.mem_mergeSort] at listed
    obtain ⟨source, _, shown⟩ := List.mem_map.mp listed
    exact ⟨source, shown⟩
  · cases listed

theorem hasNode_of_transGen (way : TransGen (Refers (ofRegistry registry).edges) source target) :
    (ofRegistry registry).hasNode source = true := by
  obtain ⟨_, ⟨edge, drawn, rfl, _⟩, _⟩ := TransGen.head'_iff.mp way
  exact hasNode_source drawn

/-- The dependents of a node are the other nodes from which references, one or more, lead to it, in
ascending order. What is no node has none. -/
theorem dependents_transitive (registry : Registry) (target : Key) :
    ((ofRegistry registry).dependents target).Pairwise (· < ·) ∧
    ((ofRegistry registry).hasNode target = true →
      ∀ id, id ∈ (ofRegistry registry).dependents target ↔
        ∃ source, (ofRegistry registry).hasNode source = true ∧ source ≠ target ∧
          TransGen (Refers (ofRegistry registry).edges) source target ∧ idOf source = id) ∧
    ((ofRegistry registry).hasNode target = false →
      (ofRegistry registry).dependents target = []) := by
  refine ⟨pairwise_dependents _ target, fun node id => ⟨fun listed => ?_, ?_⟩, fun absent => ?_⟩
  · obtain ⟨source, rfl⟩ := exists_key_of_mem_dependents listed
    obtain ⟨other, leads⟩ := (mem_dependents_ofRegistry node).mp listed
    have way := (reflTransGen_iff_eq_or_transGen.mp leads).resolve_left other.symm
    exact ⟨source, hasNode_of_transGen way, other, way, rfl⟩
  · rintro ⟨source, _, other, way, rfl⟩
    exact (mem_dependents_ofRegistry node).mpr ⟨other, way.to_reflTransGen⟩
  · rw [dependents, if_neg (by simp [absent])]

/-- A thread of posts, which point back to it; its mixin is declared nowhere. -/
def threads : Registry where
  units := Registry.declare none false 0
    [.entity { offset := 0, name := "Thread", mixins := ["Audited"], properties := [
        { offset := 0, name := "posts", optional := true, type := { name := "Post", array := true }
          written := [], initializer := "" }] },
      .entity { offset := 0, name := "Post", properties := [
        { offset := 0, name := "thread", optional := true, type := { name := "Thread" }
          written := [], initializer := "" }] }]
  distinct := by decide

theorem dependents_transitive_threads :
    (ofRegistry threads).dependents (.entity, "Thread") = ["Entity.Post"] ∧
    "Entity.Post" ∈ (ofRegistry threads).dependents (.mixin, "Audited") := by
  have node : (ofRegistry threads).hasNode (.mixin, "Audited") = true := by decide
  have first : Refers (ofRegistry threads).edges (.entity, "Post") (.entity, "Thread") := by
    unfold Refers
    decide
  have second : Refers (ofRegistry threads).edges (.entity, "Thread") (.mixin, "Audited") := by
    unfold Refers
    decide
  refine ⟨by decide +kernel, ((dependents_transitive threads _).2.1 node _).mpr ?_⟩
  exact ⟨(.entity, "Post"), by decide, by decide, .tail (.single first) second, rfl⟩

end Dependents

end Blueprint.UnitGraph
