import Blueprint.Proofs.UnitGraph.Dependents

namespace Blueprint.UnitGraph

open Design Relation

/-- Nodes each of which refers to all of them, directly or not. -/
def Connected (edges : List Edge) (cycle : List Key) : Prop :=
  ∀ one ∈ cycle, ∀ other ∈ cycle, TransGen (Refers edges) one other

/-- A path leads from its start to its last node, by way of the others. -/
structure Along (edges : List Edge) (start : Key) (path : List Key) (last : Key) : Prop where
  ends : last ∈ path
  reached : ∀ key ∈ path, ReflTransGen (Refers edges) start key
  reaches : ∀ key ∈ path, ReflTransGen (Refers edges) key last

/-- The nodes by which references lead from a node back to the start of its path. -/
inductive Route (edges : List Edge) (start : Key) : List Key → Key → Prop where
  | back {last : Key} (refers : Refers edges last start) : Route edges start [] last
  | along {last next : Key} {route : List Key} (refers : Refers edges last next)
      (rest : Route edges start route next) : Route edges start (next :: route) last

section Search

variable {edges : List Edge} {start last next : Key} {path cycle : List Key}

theorem Along.single (edges : List Edge) (start : Key) : Along edges start [start] start where
  ends := List.mem_singleton_self start
  reached _ member := List.mem_singleton.mp member ▸ .refl
  reaches _ member := List.mem_singleton.mp member ▸ .refl

theorem Along.step (along : Along edges start path last) (refers : Refers edges last next) :
    Along edges start (next :: path) next where
  ends := List.mem_cons_self
  reached key member := by
    rcases List.mem_cons.mp member with rfl | earlier
    · exact (along.reached last along.ends).tail refers
    · exact along.reached key earlier
  reaches key member := by
    rcases List.mem_cons.mp member with rfl | earlier
    · exact .refl
    · exact (along.reaches key earlier).tail refers

theorem Along.connected (along : Along edges start path last) (refers : Refers edges last start) :
    Connected edges path := by
  intro one here other there
  exact (TransGen.tail' (along.reaches one here) refers).trans_left (along.reached other there)

theorem connected_of_mem_cyclesFrom {fuel : Nat} (along : Along edges start path last)
    (found : cycle ∈ cyclesFrom edges start fuel path last) :
    path ⊆ cycle ∧ Connected edges cycle := by
  induction fuel generalizing path last with
  | zero => cases found
  | succ fuel ih =>
    unfold cyclesFrom at found
    obtain ⟨edge, leaving, found⟩ := List.mem_flatMap.mp found
    obtain ⟨drawn, source⟩ := List.mem_filter.mp leaving
    have refers : Refers edges last edge.target := ⟨edge, drawn, eq_of_beq source, rfl⟩
    split at found
    · rename_i back
      rw [eq_of_beq back] at refers
      rw [List.mem_singleton.mp found]
      exact ⟨List.Subset.refl path, along.connected refers⟩
    · split at found
      · cases found
      · obtain ⟨longer, closed⟩ := ih (along.step refers) found
        exact ⟨List.Subset.trans (List.subset_cons_self _ path) longer, closed⟩

theorem Connected.mono {inside : List Edge} (joined : Connected inside cycle)
    (kept : ∀ edge ∈ inside, edge ∈ edges) : Connected edges cycle := by
  intro one here other there
  refine TransGen.mono (fun key next refers => ?_) _ _ (joined one here other there)
  obtain ⟨edge, member, ends⟩ := refers
  exact ⟨edge, kept edge member, ends⟩

theorem connected_of_mem_cyclesOver {nodes : List Key} (found : cycle ∈ cyclesOver edges nodes) :
    cycle ≠ [] ∧ Connected edges cycle := by
  induction nodes with
  | nil => cases found
  | cons start rest ih =>
    rcases List.mem_append.mp found with here | later
    · obtain ⟨longer, joined⟩ := connected_of_mem_cyclesFrom (Along.single _ start) here
      refine ⟨List.ne_nil_of_mem (longer (List.mem_singleton_self start)), joined.mono ?_⟩
      exact fun edge member => (List.mem_filter.mp member).1
    · exact ih later

end Search

section Found

variable {edges : List Edge} {start last key : Key} {path route : List Key}

/-- The search follows a route that meets neither the path nor itself, and finds a cycle. -/
theorem exists_mem_cyclesFrom {fuel : Nat} (leads : Route edges start route last)
    (begins : start ∈ path) (distinct : route.Nodup) (apart : ∀ key ∈ route, key ∉ path)
    (enough : route.length < fuel) : ∃ cycle, cycle ∈ cyclesFrom edges start fuel path last := by
  induction leads generalizing path fuel with
  | back refers =>
    obtain ⟨edge, drawn, rfl, home⟩ := refers
    cases fuel with
    | zero => cases enough
    | succ fuel =>
      refine ⟨path, List.mem_flatMap.mpr
        ⟨edge, List.mem_filter.mpr ⟨drawn, beq_self_eq_true _⟩, ?_⟩⟩
      rw [if_pos (beq_iff_eq.mpr home)]
      exact List.mem_singleton_self path
  | @along last next route refers _ ih =>
    obtain ⟨edge, drawn, rfl, rfl⟩ := refers
    obtain ⟨fresh, distinct⟩ := List.nodup_cons.mp distinct
    have new : edge.target ∉ path := apart _ List.mem_cons_self
    cases fuel with
    | zero => cases enough
    | succ fuel =>
      obtain ⟨cycle, found⟩ : ∃ cycle, cycle ∈
          cyclesFrom edges start fuel (edge.target :: path) edge.target := by
        refine ih (List.mem_cons_of_mem _ begins) distinct ?_ (Nat.lt_of_succ_lt_succ enough)
        intro key listed
        refine List.not_mem_cons_of_ne_of_not_mem ?_ (apart key (List.mem_cons_of_mem _ listed))
        rintro rfl
        exact fresh listed
      refine ⟨cycle, List.mem_flatMap.mpr
        ⟨edge, List.mem_filter.mpr ⟨drawn, beq_self_eq_true _⟩, ?_⟩⟩
      have onward : ¬ (edge.target == start) = true := by
        rw [beq_iff_eq]
        rintro rfl
        exact new begins
      rw [if_neg onward, if_neg (by simpa using new)]
      exact found

/-- From every node of a route another leads on, of what is left of it. -/
theorem Route.drop (leads : Route edges start route last) (member : key ∈ last :: route) :
    ∃ rest, Route edges start rest key ∧ (key :: rest) <:+ (last :: route) := by
  induction leads with
  | @back last refers =>
    rw [List.mem_singleton.mp member]
    exact ⟨[], .back refers, List.suffix_refl _⟩
  | @along last next route refers rest ih =>
    rcases List.mem_cons.mp member with rfl | later
    · exact ⟨next :: route, .along refers rest, List.suffix_refl _⟩
    · obtain ⟨left, leads, suffix⟩ := ih later
      exact ⟨left, leads, suffix.trans (List.suffix_cons _ _)⟩

/-- A way back can be gone without meeting a node twice. -/
theorem exists_route (refers : ReflTransGen (Refers edges) last start) (other : last ≠ start) :
    ∃ route, Route edges start route last ∧ (last :: route).Nodup ∧ start ∉ route := by
  induction refers using ReflTransGen.head_induction_on with
  | refl => exact absurd rfl other
  | @head last next refers _ ih =>
    by_cases home : next = start
    · subst home
      exact ⟨[], .back refers, List.nodup_singleton last, List.not_mem_nil⟩
    · obtain ⟨route, leads, distinct, apart⟩ := ih home
      by_cases met : last ∈ next :: route
      · obtain ⟨rest, onward, suffix⟩ := leads.drop met
        refine ⟨rest, onward, distinct.sublist suffix.sublist, fun listed => ?_⟩
        rcases List.mem_cons.mp (suffix.subset (List.mem_cons_of_mem last listed)) with same | later
        · exact home same.symm
        · exact apart later
      · refine ⟨next :: route, .along refers leads, List.nodup_cons.mpr ⟨met, distinct⟩, ?_⟩
        exact List.not_mem_cons_of_ne_of_not_mem (Ne.symm home) apart

private theorem exists_loop_route (loop : TransGen (Refers edges) start start) :
    ∃ route, Route edges start route start ∧ (start :: route).Nodup := by
  obtain ⟨next, refers, back⟩ := TransGen.head'_iff.mp loop
  by_cases home : next = start
  · subst home
    exact ⟨[], .back refers, List.nodup_singleton next⟩
  · obtain ⟨route, leads, distinct, apart⟩ := exists_route back home
    refine ⟨next :: route, .along refers leads, List.nodup_cons.mpr ⟨?_, distinct⟩⟩
    exact List.not_mem_cons_of_ne_of_not_mem (Ne.symm home) apart

theorem Route.refers_into (leads : Route edges start route last) :
    ∀ key ∈ route, ∃ source, Refers edges source key := by
  induction leads with
  | back => exact fun key none => absurd none List.not_mem_nil
  | @along last next route refers _ ih =>
    intro key listed
    rcases List.mem_cons.mp listed with rfl | later
    · exact ⟨last, refers⟩
    · exact ih key later

/-- A route that meets no node twice is no longer than the nodes to which edges lead. -/
theorem Route.length_le {rest : List Key} (leads : Route edges start route last)
    (distinct : (start :: route).Nodup) (inside : ∀ edge ∈ edges, edge.target ∈ start :: rest) :
    route.length ≤ rest.length := by
  obtain ⟨apart, distinct⟩ := List.nodup_cons.mp distinct
  refine distinct.length_le_of_subset fun key member => ?_
  obtain ⟨_, edge, drawn, _, rfl⟩ := leads.refers_into key member
  refine (List.mem_cons.mp (inside edge drawn)).resolve_left fun same => ?_
  exact apart (same ▸ member)

/-- A loop runs over the edges whose ends lie on loops. -/
theorem loop_inside {inside : List Edge} (kept : ∀ edge ∈ edges,
      TransGen (Refers edges) edge.source edge.source →
      TransGen (Refers edges) edge.target edge.target → edge ∈ inside)
    (back : TransGen (Refers edges) last start) (reached : ReflTransGen (Refers edges) start last) :
    TransGen (Refers inside) last start := by
  have on {source target : Key} (refers : Refers edges source target)
      (fromStart : ReflTransGen (Refers edges) start source)
      (toStart : ReflTransGen (Refers edges) target start) : Refers inside source target := by
    obtain ⟨edge, drawn, rfl, rfl⟩ := refers
    have refers : Refers edges edge.source edge.target := ⟨edge, drawn, rfl, rfl⟩
    exact ⟨edge, kept edge drawn (.head' refers (toStart.trans fromStart))
      (.tail' (toStart.trans fromStart) refers), rfl, rfl⟩
  induction back using TransGen.head_induction_on with
  | single refers => exact .single (on refers reached .refl)
  | head refers rest ih =>
    exact (ih (reached.tail refers)).head (on refers reached rest.to_reflTransGen)

/-- The search finds a cycle if some node refers to itself. -/
theorem exists_mem_cyclesOver {nodes : List Key} (loop : TransGen (Refers edges) key key)
    (listed : ∀ key, TransGen (Refers edges) key key → key ∈ nodes) :
    ∃ cycle, cycle ∈ cyclesOver edges nodes := by
  induction nodes with
  | nil => exact absurd (listed key loop) List.not_mem_nil
  | cons start rest ih =>
    by_cases first : TransGen (Refers edges) start start
    · have kept (edge : Edge) (drawn : edge ∈ edges)
          (source : TransGen (Refers edges) edge.source edge.source)
          (target : TransGen (Refers edges) edge.target edge.target) :
          edge ∈ edges.filter fun edge =>
            (start :: rest).contains edge.source && (start :: rest).contains edge.target := by
        rw [List.mem_filter, Bool.and_eq_true, List.contains_iff_mem, List.contains_iff_mem]
        exact ⟨drawn, listed _ source, listed _ target⟩
      obtain ⟨route, leads, distinct⟩ := exists_loop_route (loop_inside kept first .refl)
      have short : route.length ≤ rest.length := by
        refine leads.length_le distinct fun edge drawn => ?_
        have ends := (List.mem_filter.mp drawn).2
        rw [Bool.and_eq_true] at ends
        exact List.contains_iff_mem.mp ends.2
      obtain ⟨apart, distinct⟩ := List.nodup_cons.mp distinct
      obtain ⟨cycle, found⟩ := exists_mem_cyclesFrom leads (List.mem_singleton_self start) distinct
        (fun key member same => apart (List.mem_singleton.mp same ▸ member))
        (Nat.lt_succ_of_le short)
      exact ⟨cycle, List.mem_append_left _ found⟩
    · -- The first node is on no loop, so all loops are found among the others.
      obtain ⟨cycle, found⟩ := ih fun key loop =>
        (List.mem_cons.mp (listed key loop)).resolve_left (fun same => first (same ▸ loop))
      exact ⟨cycle, List.mem_append_right _ found⟩

end Found

section Entries

variable {graph : UnitGraph} {edges : List Edge} {cycle : List Key}

theorem mem_cyclesOf {entry : List String} :
    entry ∈ graph.cyclesOf edges ↔
      ∃ cycle ∈ cyclesOver edges (graph.nodes.map (·.key)), Text.sorted (cycle.map idOf) = entry := by
  rw [cyclesOf, List.mem_mergeSort, List.mem_map]

private theorem mem_sorted_idOf {id : String} :
    id ∈ Text.sorted (cycle.map idOf) ↔ ∃ key ∈ cycle, idOf key = id := by
  rw [Text.sorted, List.mem_mergeSort, List.mem_map]

/-- There are no cycles exactly if no node refers to itself, directly or not. -/
theorem cyclesOf_eq_nil_iff (sources : ∀ edge ∈ edges, graph.hasNode edge.source = true) :
    graph.cyclesOf edges = [] ↔ ∀ key, ¬ TransGen (Refers edges) key key := by
  constructor
  · intro none key loop
    have listed (key : Key) (loop : TransGen (Refers edges) key key) :
        key ∈ graph.nodes.map (·.key) := by
      obtain ⟨_, ⟨edge, drawn, rfl, _⟩, _⟩ := TransGen.head'_iff.mp loop
      exact hasNode_iff.mp (sources edge drawn)
    obtain ⟨cycle, found⟩ := exists_mem_cyclesOver loop listed
    have entry := mem_cyclesOf.mpr ⟨cycle, found, rfl⟩
    rw [none] at entry
    cases entry
  · intro loopless
    refine List.eq_nil_iff_forall_not_mem.mpr fun entry listed => ?_
    obtain ⟨cycle, found, _⟩ := mem_cyclesOf.mp listed
    obtain ⟨filled, joined⟩ := connected_of_mem_cyclesOver found
    obtain ⟨start, rest, rfl⟩ := List.exists_cons_of_ne_nil filled
    exact loopless start (joined start List.mem_cons_self start List.mem_cons_self)

end Entries

section Kinds

variable {registry : Registry} {start finish : Key}

theorem carried_back (holds : UnitKind → Prop)
    (carries : ∀ source target kind, kindBetween source target = some kind →
      holds target → holds source)
    (refers : ReflTransGen (Refers (ofRegistry registry).edges) start finish)
    (held : holds finish.1) : holds start.1 := by
  induction refers using ReflTransGen.head_induction_on with
  | refl => exact held
  | head refers _ ih =>
    obtain ⟨kind, fits, _⟩ := kindBetween_of_refers refers
    exact carries _ _ kind fits ih

private theorem kinds_of_fits {source target : UnitKind} {kind : EdgeKind}
    (fits : kindBetween source target = some kind) :
    (source = .entity ∨ source = .behavior ∨ IsView source) ∧ target ≠ .behavior := by
  unfold kindBetween at fits
  split at fits <;> simp_all [IsView]

theorem kinds_of_mixin {source target : UnitKind} (fits : kindBetween source target = some .mixin) :
    source ≠ .mixin ∧ target = .mixin := by
  unfold kindBetween at fits
  split at fits <;> simp_all

theorem kind_of_loop {key : Key} (loop : TransGen (Refers (ofRegistry registry).edges) key key) :
    key.1 = .entity ∨ IsView key.1 := by
  obtain ⟨next, leaving, _⟩ := TransGen.head'_iff.mp loop
  obtain ⟨last, _, entering⟩ := TransGen.tail'_iff.mp loop
  obtain ⟨_, away, _⟩ := kindBetween_of_refers leaving
  obtain ⟨_, into, _⟩ := kindBetween_of_refers entering
  rcases (kinds_of_fits away).1 with entity | behavior | view
  · exact Or.inl entity
  · exact absurd behavior (kinds_of_fits into).2
  · exact Or.inr view

/-- The nodes of a cycle are all entities or all views. -/
theorem kinds_of_connected {cycle : List Key} (joined : Connected (ofRegistry registry).edges cycle) :
    (∀ key ∈ cycle, key.1 = .entity) ∨ ∀ key ∈ cycle, IsView key.1 := by
  cases cycle with
  | nil => exact Or.inl fun key none => by cases none
  | cons start rest =>
    have toStart (key : Key) (member : key ∈ start :: rest) :=
      (joined key member start List.mem_cons_self).to_reflTransGen
    rcases kind_of_loop (joined start List.mem_cons_self start List.mem_cons_self) with
      entity | view
    · -- What leads to an entity is an entity or a behavior.
      refine Or.inl fun key member => ?_
      have back := carried_back (fun kind => kind = .entity ∨ kind = .behavior)
        (by intro source target kind; cases source <;> cases target <;> simp [kindBetween])
        (toStart key member) (Or.inl entity)
      rcases kind_of_loop (joined key member key member) with same | page | component
      · exact same
      · simp [page] at back
      · simp [component] at back
    · refine Or.inr fun key member => ?_
      exact carried_back IsView
        (by intro source target kind; cases source <;> cases target <;> simp [kindBetween, IsView])
        (toStart key member) view

private theorem mem_edgesOf {graph : UnitGraph} {kinds : List EdgeKind} {edge : Edge}
    (member : edge ∈ graph.edgesOf kinds) : edge ∈ graph.edges ∧ edge.kind ∈ kinds := by
  obtain ⟨ordered, kind⟩ := List.mem_filter.mp member
  obtain ⟨_, _, drawn⟩ := List.mem_flatMap.mp ordered
  exact ⟨(List.mem_filter.mp drawn).1, List.contains_iff_mem.mp kind⟩

theorem not_loop_mixins (key : Key) :
    ¬ TransGen (Refers ((ofRegistry registry).edgesOf [.mixin])) key key := by
  intro loop
  have ends {source target : Key}
      (refers : Refers ((ofRegistry registry).edgesOf [.mixin]) source target) :
      kindBetween source.1 target.1 = some .mixin := by
    obtain ⟨edge, member, rfl, rfl⟩ := refers
    obtain ⟨drawn, kind⟩ := mem_edgesOf member
    rw [← List.mem_singleton.mp kind]
    exact fits_of_mem_references (mem_references_of_mem drawn)
  obtain ⟨next, leaving, _⟩ := TransGen.head'_iff.mp loop
  obtain ⟨last, _, entering⟩ := TransGen.tail'_iff.mp loop
  exact (kinds_of_mixin (ends leaving)).1 (kinds_of_mixin (ends entering)).2

end Kinds

/-- The kinds of nodes that an edge of a kind joins. -/
def Edge.Typed (edge : Edge) : Prop :=
  match edge.kind with
  | .relationship => edge.source.1 = .entity ∧ edge.target.1 = .entity
  | .mixin => (edge.source.1 = .entity ∨ edge.source.1 = .component) ∧ edge.target.1 = .mixin
  | .behavior => edge.source.1 = .behavior ∧
      (edge.target.1 = .entity ∨ edge.target.1 = .mixin ∨ edge.target.1 = .project)
  | .uses => IsView edge.source.1 ∧ IsView edge.target.1 ∧ edge.source ≠ edge.target
  | .dataSource => edge.source.1 = .entity ∧ edge.target.1 = .dataSource

/-- The units, with some references between them added in order. -/
def joined (registry : Registry) (edges : List Edge) : UnitGraph :=
  UnitGraph.addEdges { nodes := unitNodes registry } edges

section Edges

variable {registry : Registry} {edge : Edge}

private theorem typed_of_mem_references (member : edge ∈ references registry) : edge.Typed := by
  have fits := fits_of_mem_references member
  have apart : edge.kind = .uses → edge.source ≠ edge.target := by
    intro uses
    obtain ⟨view, _, _, _, used, other, _, rfl⟩ :=
      mem_viewEdges_iff.mp (mem_viewEdges_iff_uses.mpr ⟨member, uses⟩)
    exact other.symm
  obtain ⟨⟨sourceKind, source⟩, ⟨targetKind, target⟩, kind, label⟩ := edge
  unfold Edge.Fits at fits
  unfold Edge.Typed IsView
  -- The kinds of the ends leave one kind of edge; only between views is there more to say.
  cases sourceKind <;> cases targetKind <;> cases fits <;> simp_all

private theorem nodes_joined (registry : Registry) :
    (joined registry (references registry)).nodes = (ofRegistry registry).nodes := by
  rw [joined, nodes_addEdges, nodes_eq_addTargets]

private theorem edges_joined (registry : Registry) :
    (joined registry (references registry)).edges = (ofRegistry registry).edges := by
  rw [joined, edges_addEdges, edges_ofRegistry]

theorem kind_of_replaced {before later : List Edge} {next : Edge}
    (order : references registry = before ++ next :: later)
    (present : edge ∈ (joined registry before).edges) (source : edge.source = next.source)
    (target : edge.target = next.target) : edge.kind = next.kind := by
  rw [joined, edges_addEdges] at present
  have earlier := (mem_putEdges present).resolve_left List.not_mem_nil
  have here : edge ∈ references registry := order ▸ List.mem_append_left _ earlier
  have there : next ∈ references registry :=
    order ▸ List.mem_append_right _ List.mem_cons_self
  exact kind_eq_of_ends here there source target

end Edges

section Missing

/-- The missing nodes are the unknown mixins, in ascending order. -/
theorem missing_ofRegistry (registry : Registry) :
    (ofRegistry registry).missing =
      Text.sortedSet ((unknownMixins registry).map fun name => idOf (.mixin, name)) := by
  have distinct : ((unknownMixins registry).map fun name => idOf (.mixin, name)).Nodup := by
    refine (nodup_eraseDups _).map fun one other same => ?_
    exact congrArg Prod.snd (idOf_injective same)
  have units : (unitNodes registry).filter (·.missing) = [] := by
    rw [List.filter_eq_nil_iff]
    intro node listed
    obtain ⟨declared, _, rfl⟩ := List.mem_map.mp listed
    exact Bool.false_ne_true
  have others : ((unknownMixins registry).map fun name => missingNode (.mixin, name)).filter
      (·.missing) = (unknownMixins registry).map fun name => missingNode (.mixin, name) := by
    rw [List.filter_eq_self]
    intro node listed
    obtain ⟨name, _, rfl⟩ := List.mem_map.mp listed
    rfl
  rw [missing, nodes_ofRegistry, List.filter_append, units, others, List.nil_append, List.map_map,
    Text.sortedSet, eraseDups_eq_self distinct]
  rfl

end Missing

section Cycles

variable {registry : Registry} {entry : List String}

/-- The cycles consist of entities or of views. -/
theorem kinds_of_mem_cycles (found : entry ∈ (ofRegistry registry).cycles) :
    (∀ id ∈ entry, ∃ declared ∈ registry.units,
      declared.unit.kind = .entity ∧ id = idOf declared.key) ∨
    ∀ id ∈ entry, ∃ declared ∈ registry.units,
      IsView declared.unit.kind ∧ id = idOf declared.key := by
  obtain ⟨cycle, closed, rfl⟩ := mem_cyclesOf.mp found
  obtain ⟨_, connected⟩ := connected_of_mem_cyclesOver closed
  -- Every node of a cycle is the source of an edge, so it is a unit.
  have unit (key : Key) (member : key ∈ cycle) : ∃ declared ∈ registry.units,
      declared.key = key := by
    obtain ⟨_, ⟨edge, drawn, rfl, _⟩, _⟩ :=
      TransGen.head'_iff.mp (connected key member key member)
    exact Registry.has_iff.mp (has_source (mem_references_of_mem drawn))
  have shown (holds : UnitKind → Prop) (all : ∀ key ∈ cycle, holds key.1) :
      ∀ id ∈ Text.sorted (cycle.map idOf), ∃ declared ∈ registry.units,
        holds declared.unit.kind ∧ id = idOf declared.key := by
    intro id listed
    obtain ⟨key, member, rfl⟩ := mem_sorted_idOf.mp listed
    obtain ⟨declared, own, rfl⟩ := unit key member
    exact ⟨declared, own, all _ member, rfl⟩
  exact (kinds_of_connected connected).imp (shown (· = .entity)) (shown IsView)

private theorem cycles_eq_nil_iff (registry : Registry) : (ofRegistry registry).cycles = [] ↔
    ∀ key, ¬ TransGen (Refers (ofRegistry registry).edges) key key :=
  cyclesOf_eq_nil_iff fun _ drawn => hasNode_source drawn

theorem mixinCycles_ofRegistry (registry : Registry) : (ofRegistry registry).mixinCycles = [] :=
  (cyclesOf_eq_nil_iff fun _ member => hasNode_source (mem_edgesOf member).1).mpr not_loop_mixins

end Cycles

/-- What the nodes, the edges and the cycles of a registry's graph look like. -/
structure Shaped (registry : Registry) : Prop where
  nodes : (ofRegistry registry).nodes =
    unitNodes registry ++ (unknownMixins registry).map fun name => missingNode (.mixin, name)
  unknown : (unknownMixins registry).Nodup ∧ ∀ name, name ∈ unknownMixins registry ↔
    Applied registry name ∧ ∀ declared ∈ registry.units, declared.key ≠ (.mixin, name)
  missing : (ofRegistry registry).missing.Pairwise (· < ·) ∧
    ∀ id, id ∈ (ofRegistry registry).missing ↔
      ∃ name ∈ unknownMixins registry, idOf (.mixin, name) = id
  typed : ∀ edge ∈ (ofRegistry registry).edges, edge.Typed ∧
    registry.has edge.source.1 edge.source.2 = true ∧
    (ofRegistry registry).hasNode edge.target = true
  added : (joined registry (references registry)).nodes = (ofRegistry registry).nodes ∧
    (joined registry (references registry)).edges = (ofRegistry registry).edges
  replaced : ∀ before next later, references registry = before ++ next :: later →
    ∀ edge ∈ (joined registry before).edges, edge.source = next.source →
      edge.target = next.target → edge.kind = next.kind
  mixinCycles : (ofRegistry registry).mixinCycles = []
  loopless : (ofRegistry registry).cycles = [] ↔
    ∀ key, ¬ TransGen (Refers (ofRegistry registry).edges) key key
  cycles : ∀ cycle ∈ (ofRegistry registry).cycles,
    (∀ id ∈ cycle, ∃ declared ∈ registry.units,
      declared.unit.kind = .entity ∧ id = idOf declared.key) ∨
    ∀ id ∈ cycle, ∃ declared ∈ registry.units,
      IsView declared.unit.kind ∧ id = idOf declared.key

/-- The graph of every registry has this shape. -/
theorem shaped_ofRegistry (registry : Registry) : Shaped registry where
  nodes := nodes_ofRegistry registry
  unknown := ⟨nodup_eraseDups _, fun _ => mem_unknownMixins⟩
  missing := by
    rw [missing_ofRegistry]
    exact ⟨Text.pairwise_sortedSet _, fun id => by rw [Text.mem_sortedSet, List.mem_map]⟩
  typed edge drawn := by
    have member := mem_references_of_mem drawn
    exact ⟨typed_of_mem_references member, has_source member, hasNode_target member⟩
  added := ⟨nodes_joined registry, edges_joined registry⟩
  replaced _ _ _ order _ present source target := kind_of_replaced order present source target
  mixinCycles := mixinCycles_ofRegistry registry
  loopless := cycles_eq_nil_iff registry
  cycles _ found := kinds_of_mem_cycles found

/-- What a post answers. -/
def answered : Property :=
  { offset := 0, name := "answered", optional := true, type := { name := "Post" }, written := []
    initializer := "" }

/-- A forum in which posts answer posts. -/
def forum : Registry where
  units := Registry.declare none false 0 [.entity
    { offset := 0, name := "Post", mixins := ["Audited"], properties := [answered] }]
  distinct := by decide

theorem shaped_ofRegistry_forum : Shaped forum ∧
    (ofRegistry forum).missing = ["Mixin.Audited"] ∧
    (ofRegistry forum).cycles = [["Entity.Post"]] := by
  refine ⟨shaped_ofRegistry forum, ?_, ?_⟩
  · decide +kernel
  · decide +kernel

end Blueprint.UnitGraph
