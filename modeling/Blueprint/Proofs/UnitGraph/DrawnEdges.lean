import Blueprint.Proofs.Resolve.Attachment
import Blueprint.Proofs.UnitGraph.Dependents

namespace Blueprint.UnitGraph

open Design Relation

/-- The kinds of units that own behaviors, in the order in which the graph looks for an owner. -/
def ownerKinds : List UnitKind := [.entity, .mixin, .project]

/-- A unit of an earlier kind has the same name. -/
def Shadowed (registry : Registry) (unit : Declared Design.Unit) : Prop :=
  ∃ kind ∈ ownerKinds.takeWhile (· != unit.unit.kind), registry.has kind unit.unit.name = true

section Behaviors

variable {registry : Registry} {behavior : Declared Behavior}

/-- The kind of unit to which the graph draws the behaviors of an owner. -/
def drawnKind? (registry : Registry) (owner : String) : Option UnitKind :=
  ownerKinds.find? fun kind => registry.has kind owner

/-- The edge of a behavior leads to the first kind of unit with its owner's name. -/
theorem leads_behavior_iff (declared : behavior ∈ registry.behaviors) {target : Key} :
    Leads (ofRegistry registry).edges .behavior (.behavior, behavior.unit.name) target ↔
      drawnKind? registry behavior.unit.owner = some target.1 ∧
        target.2 = behavior.unit.owner := by
  rw [leads_ofRegistry_iff]
  constructor
  · rintro ⟨edge, member, kind, source, rfl⟩
    obtain ⟨other, listed, drawn⟩ := List.mem_filterMap.mp
      (mem_behaviorEdges_iff.mpr ⟨member, kind⟩)
    obtain ⟨first, found, rfl⟩ := Option.map_eq_some_iff.mp drawn
    have same : other = behavior :=
      Registry.eq_of_mem_list behavior?_shows listed declared (congrArg Prod.snd source)
    subst same
    exact ⟨found, rfl⟩
  · rintro ⟨found, named⟩
    have drawn : (⟨(.behavior, behavior.unit.name), target, .behavior, ""⟩ : Edge) ∈
        behaviorEdges registry :=
      List.mem_filterMap.mpr ⟨behavior, declared,
        Option.map_eq_some_iff.mpr ⟨target.1, found, by rw [← named]⟩⟩
    exact ⟨_, (mem_behaviorEdges_iff.mp drawn).1, rfl, rfl, rfl⟩

theorem drawnKind?_eq_some_iff {unit : Declared Design.Unit} (member : unit ∈ registry.units)
    (owns : unit.unit.kind ∈ ownerKinds) :
    drawnKind? registry unit.unit.name = some unit.unit.kind ↔ ¬ Shadowed registry unit := by
  have present := Registry.has_of_mem member
  unfold drawnKind? Shadowed
  simp only [ownerKinds, List.mem_cons, List.not_mem_nil, or_false] at owns
  rcases owns with kind | kind | kind <;> rw [kind] at present ⊢ <;>
    simp [ownerKinds, List.find?_cons, present]
  · cases registry.has .entity unit.unit.name <;> simp
  · cases registry.has .entity unit.unit.name <;>
      cases registry.has .mixin unit.unit.name <;> simp

end Behaviors

/-- A unit that holds a behavior has the behavior's edge, and so the behavior among its dependents,
exactly if no earlier kind of owner has a unit of its name; in any case the behavior has one edge,
to a unit of this name. -/
theorem behavior_edge_iff_unshadowed (registry : Registry) :
    ∀ behavior ∈ registry.behaviors, ∀ unit ∈ registry.units, unit.unit.kind ∈ ownerKinds →
      ActiveBehavior.Holds registry unit.unit.kind unit.unit.name behavior →
      (Leads (ofRegistry registry).edges .behavior (.behavior, behavior.unit.name) unit.key ↔
        ¬ Shadowed registry unit) ∧
      (¬ Shadowed registry unit →
        idOf (.behavior, behavior.unit.name) ∈ (ofRegistry registry).dependents unit.key) ∧
      ∃ kind ∈ ownerKinds, ∀ target,
        Leads (ofRegistry registry).edges .behavior (.behavior, behavior.unit.name) target ↔
          target = (kind, unit.unit.name) := by
  intro behavior declared unit member owns held
  have owner := ((ActiveBehavior.holds_iff declared).mp held).1
  have drawn := drawnKind?_eq_some_iff member owns
  have direct : Leads (ofRegistry registry).edges .behavior (.behavior, behavior.unit.name)
      unit.key ↔ ¬ Shadowed registry unit := by
    rw [leads_behavior_iff declared, ← drawn, owner]
    exact and_iff_left rfl
  refine ⟨direct, ?_, ?_⟩
  · intro unshadowed
    refine mem_dependents_of_leads (hasNode_ofRegistry member) ?_ (direct.mpr unshadowed)
    intro same
    have kind : unit.unit.kind = .behavior := (congrArg Prod.fst same).symm
    rw [kind] at owns
    exact absurd owns (by decide)
  · have known : (drawnKind? registry unit.unit.name).isSome = true :=
      List.find?_isSome.mpr ⟨_, owns, Registry.has_of_mem member⟩
    obtain ⟨kind, found⟩ := Option.isSome_iff_exists.mp known
    refine ⟨kind, List.mem_of_find?_eq_some found, fun target => ?_⟩
    rw [leads_behavior_iff declared, owner, found, Option.some.injEq, Prod.ext_iff]
    exact and_congr_left' eq_comm

/-- A behavior that runs after the start of a shop. -/
def boot : Behavior :=
  { offset := 0, name := "Boot", owner := "Shop", type := some "After Start"
    function := some ⟨"boot", false, [], none, "pass"⟩ }

/-- A shop that sells orders. -/
def orderShop : Registry where
  units := Registry.declare none false 0 [.project { offset := 0, name := "Shop" },
    .entity { offset := 0, name := "Order" }, .behavior boot]
  distinct := by decide

theorem behavior_edge_iff_unshadowed_shop :
    (⟨boot, false, none, 2⟩ : Declared Behavior) ∈ orderShop.behaviors ∧
    (⟨.project { offset := 0, name := "Shop" }, false, none, 0⟩ : Declared Design.Unit) ∈
      orderShop.units ∧
    ActiveBehavior.Holds orderShop .project "Shop" ⟨boot, false, none, 2⟩ ∧
    Leads (ofRegistry orderShop).edges .behavior (.behavior, "Boot") (.project, "Shop") ∧
    "Behavior.Boot" ∈ (ofRegistry orderShop).dependents (.project, "Shop") := by
  have declared : (⟨boot, false, none, 2⟩ : Declared Behavior) ∈ orderShop.behaviors :=
    List.mem_singleton_self _
  have member : (⟨.project { offset := 0, name := "Shop" }, false, none, 0⟩ :
      Declared Design.Unit) ∈ orderShop.units := List.mem_cons_self
  have held : ActiveBehavior.Holds orderShop .project "Shop" ⟨boot, false, none, 2⟩ :=
    (ActiveBehavior.holds_iff declared).mpr ⟨rfl, by decide⟩
  have alone : ¬ Shadowed orderShop
      ⟨.project { offset := 0, name := "Shop" }, false, none, 0⟩ := by
    unfold Shadowed
    decide
  obtain ⟨edge, dependent, _⟩ := behavior_edge_iff_unshadowed orderShop _ declared _ member
    (by decide) held
  exact ⟨declared, member, held, edge.mpr alone, dependent alone⟩

/-- A shop with an entity of its own name. -/
def namesakes : Registry where
  units := Registry.declare none false 0 [.project { offset := 0, name := "Shop" },
    .entity { offset := 0, name := "Shop" }, .behavior boot]
  distinct := by decide

/-- What runs after the start of a project is drawn to the entity that bears the project's name. -/
theorem boot_drawn_to_namesake :
    ActiveBehavior.Holds namesakes .project "Shop" ⟨boot, false, none, 2⟩ ∧
    ¬ ActiveBehavior.Holds namesakes .entity "Shop" ⟨boot, false, none, 2⟩ ∧
    ¬ Leads (ofRegistry namesakes).edges .behavior (.behavior, "Boot") (.project, "Shop") ∧
    Leads (ofRegistry namesakes).edges .behavior (.behavior, "Boot") (.entity, "Shop") ∧
    (ofRegistry namesakes).dependents (.project, "Shop") = [] := by
  have declared : (⟨boot, false, none, 2⟩ : Declared Behavior) ∈ namesakes.behaviors :=
    List.mem_singleton_self _
  refine ⟨(ActiveBehavior.holds_iff declared).mpr ⟨rfl, by decide⟩, ?_, ?_, ?_, ?_⟩
  · exact fun held => absurd ((ActiveBehavior.holds_iff declared).mp held) (by decide)
  · exact fun drawn => absurd ((leads_behavior_iff declared).mp drawn) (by decide)
  · exact (leads_behavior_iff declared).mpr (by decide)
  · decide +kernel

/-- An entity is stored in a data source that it names itself. -/
def Names (registry : Registry) (entity : Entity) (source : Declared DataSource) : Prop :=
  registry.dataSourceFor entity = .ok (some source) ∧ entity.dataSource ≠ ""

section DataSources

variable {registry : Registry} {entity : Entity} {source : Declared DataSource}

private theorem names_iff (listed : source ∈ registry.dataSources) :
    Names registry entity source ↔
      entity.dataSource ≠ "" ∧ entity.dataSource = source.unit.name := by
  rw [Names, and_comm]
  refine and_congr_right fun named => ?_
  have own : registry.dataSourceName entity = entity.dataSource := by
    rw [Registry.dataSourceName, if_neg (by simpa [String.isEmpty_iff] using named)]
  constructor
  · exact fun stored => own.symm.trans (Registry.dataSourceName_of_dataSourceFor stored)
  · intro same
    rw [Registry.dataSourceFor_eq_iff listed (same ▸ named), own, same]

/-- The edges of an entity to data sources. -/
theorem mem_entityEdges_dataSource {edge : Edge} :
    edge ∈ entityEdges registry entity ∧ edge.kind = .dataSource ↔
      (entity.dataSource ≠ "" ∧ registry.has .dataSource entity.dataSource = true) ∧
        edge = ⟨(.entity, entity.name), (.dataSource, entity.dataSource), .dataSource, ""⟩ := by
  unfold entityEdges
  simp only [List.mem_append]
  constructor
  · rintro ⟨stored | linked, kind⟩
    · split at stored
      · rename_i declared
        rw [Bool.and_eq_true, Bool.not_eq_true', ← Bool.not_eq_true, String.isEmpty_iff] at declared
        exact ⟨declared, List.mem_singleton.mp stored⟩
      · cases stored
    · split at linked
      · cases linked
      · obtain ⟨relationship, _, rfl⟩ := List.mem_map.mp linked
        cases kind
  · rintro ⟨⟨named, declared⟩, rfl⟩
    refine ⟨Or.inl ?_, rfl⟩
    rw [if_pos (by simp [named, declared])]
    exact List.mem_singleton_self _

/-- An edge to a data source leads from an entity that names it. -/
theorem leads_dataSource_iff (listed : source ∈ registry.dataSources) {key : Key} :
    Leads (ofRegistry registry).edges .dataSource key (.dataSource, source.unit.name) ↔
      ∃ holder ∈ registry.entities, key = (.entity, holder.unit.name) ∧
        Names registry holder.unit source := by
  rw [leads_ofRegistry_iff]
  constructor
  · rintro ⟨edge, member, kind, rfl, target⟩
    have owned := mem_edges_of_kind member
    rw [kind] at owned
    obtain ⟨holder, declared, own⟩ := owned
    obtain ⟨⟨named, _⟩, rfl⟩ := mem_entityEdges_dataSource.mp ⟨own, kind⟩
    exact ⟨holder, declared, rfl, (names_iff listed).mpr ⟨named, congrArg Prod.snd target⟩⟩
  · rintro ⟨holder, declared, rfl, names⟩
    obtain ⟨named, same⟩ := (names_iff listed).mp names
    have known : registry.has .dataSource holder.unit.dataSource = true :=
      same ▸ Registry.has_of_mem_list dataSource?_shows listed
    obtain ⟨drawn, kind⟩ := mem_entityEdges_dataSource.mpr ⟨⟨named, known⟩, rfl⟩
    exact ⟨_, mem_references_iff.mpr (Or.inl ⟨holder, declared, drawn⟩), kind, rfl,
      congrArg (Prod.mk UnitKind.dataSource) same⟩

end DataSources

section Ways

variable {registry : Registry} {start finish : Key}

theorem eq_of_no_way (refers : ReflTransGen (Refers (ofRegistry registry).edges) start finish)
    (silent : ∀ kind, kindBetween start.1 kind = none) : start = finish := by
  cases refers.cases_head with
  | inl same => exact same
  | inr further =>
    obtain ⟨next, refers, _⟩ := further
    obtain ⟨kind, fits, _⟩ := kindBetween_of_refers refers
    rw [silent] at fits
    cases fits

/-- References lead from an entity to a data source along associations. -/
theorem refers_dataSource_iff {source : String} (isEntity : start.1 = .entity) :
    ReflTransGen (Refers (ofRegistry registry).edges) start (.dataSource, source) ↔
      ∃ holder, ReflTransGen (Leads (ofRegistry registry).edges .relationship) start holder ∧
        Leads (ofRegistry registry).edges .dataSource holder (.dataSource, source) := by
  constructor
  · intro refers
    induction refers using ReflTransGen.head_induction_on with
    | refl => cases isEntity
    | @head start next refers rest ih =>
      obtain ⟨kind, fits, leads⟩ := kindBetween_of_refers refers
      obtain ⟨nextKind, name⟩ := next
      rw [isEntity] at fits
      -- The way goes on at entities only.
      cases nextKind with
      | entity =>
        obtain ⟨holder, linked, stored⟩ := ih rfl
        cases fits
        exact ⟨holder, linked.head leads, stored⟩
      | dataSource =>
        cases fits
        rw [eq_of_no_way rest fun kind => rfl] at leads
        exact ⟨start, .refl, leads⟩
      | mixin => cases eq_of_no_way rest fun kind => rfl
      | _ => cases fits
  · rintro ⟨holder, linked, edge, drawn, _, ends⟩
    have links (key next : Key)
        (leads : Leads (ofRegistry registry).edges .relationship key next) :
        Refers (ofRegistry registry).edges key next := by
      obtain ⟨edge, drawn, _, ends⟩ := leads
      exact ⟨edge, drawn, ends⟩
    exact (ReflTransGen.mono links _ _ linked).tail ⟨edge, drawn, ends⟩

end Ways

/-- The graph has an edge from an entity to a data source exactly if the entity is stored in it and
names it itself, and an entity depends on a data source exactly if associations lead from it to such
an entity. -/
theorem dataSource_edge_iff_names (registry : Registry) :
    ∀ entity ∈ registry.entities, ∀ source ∈ registry.dataSources,
      (Leads (ofRegistry registry).edges .dataSource (.entity, entity.unit.name)
          (.dataSource, source.unit.name) ↔
        registry.dataSourceFor entity.unit = .ok (some source) ∧ entity.unit.dataSource ≠ "") ∧
      (idOf (.entity, entity.unit.name) ∈
          (ofRegistry registry).dependents (.dataSource, source.unit.name) ↔
        ∃ holder ∈ registry.entities,
          ReflTransGen (Leads (ofRegistry registry).edges .relationship)
            (.entity, entity.unit.name) (.entity, holder.unit.name) ∧
          registry.dataSourceFor holder.unit = .ok (some source) ∧
          holder.unit.dataSource ≠ "") := by
  intro entity declared source listed
  refine ⟨?_, ?_⟩
  · rw [leads_dataSource_iff listed]
    constructor
    · rintro ⟨holder, member, same, names⟩
      rwa [Registry.eq_of_mem_list entity?_shows declared member (congrArg Prod.snd same)]
    · exact fun names => ⟨entity, declared, rfl, names⟩
  · have node : (ofRegistry registry).hasNode (.dataSource, source.unit.name) = true := by
      obtain ⟨unit, member, key⟩ :=
        Registry.has_iff.mp (Registry.has_of_mem_list dataSource?_shows listed)
      exact key ▸ hasNode_ofRegistry member
    rw [mem_dependents_ofRegistry node, refers_dataSource_iff rfl]
    constructor
    · rintro ⟨_, _, linked, stored⟩
      obtain ⟨holder, member, rfl, names⟩ := (leads_dataSource_iff listed).mp stored
      exact ⟨holder, member, linked, names⟩
    · rintro ⟨holder, member, linked, names⟩
      refine ⟨fun same => ?_, _, linked,
        (leads_dataSource_iff listed).mpr ⟨holder, member, rfl, names⟩⟩
      cases same

/-- A shop that keeps its tokens apart from its orders. -/
def tokenShop : Registry where
  units := Registry.declare none false 0 [
    .project { offset := 0, name := "Shop", defaultDataSource := "Main" },
    .dataSource { offset := 0, name := "Main", persistenceType := "Memory" },
    .dataSource { offset := 0, name := "Cache", persistenceType := "Memory" },
    .entity { offset := 0, name := "Token", dataSource := "Cache" },
    .entity { offset := 0, name := "Order" }]
  distinct := by decide

theorem dataSource_edge_iff_names_token :
    (⟨{ offset := 0, name := "Token", dataSource := "Cache" }, false, none, 3⟩ : Declared Entity) ∈
      tokenShop.entities ∧
    (⟨{ offset := 0, name := "Cache", persistenceType := "Memory" }, false, none, 2⟩ :
      Declared DataSource) ∈ tokenShop.dataSources ∧
    Leads (ofRegistry tokenShop).edges .dataSource (.entity, "Token") (.dataSource, "Cache") ∧
    "Entity.Token" ∈ (ofRegistry tokenShop).dependents (.dataSource, "Cache") := by
  have token : (⟨{ offset := 0, name := "Token", dataSource := "Cache" }, false, none, 3⟩ :
      Declared Entity) ∈ tokenShop.entities := List.mem_cons_self
  have cache : (⟨{ offset := 0, name := "Cache", persistenceType := "Memory" }, false, none, 2⟩ :
      Declared DataSource) ∈ tokenShop.dataSources := List.mem_cons_of_mem _ List.mem_cons_self
  obtain ⟨edge, dependent⟩ := dataSource_edge_iff_names tokenShop _ token _ cache
  exact ⟨token, cache, edge.mpr ⟨rfl, by decide⟩,
    dependent.mpr ⟨_, token, .refl, rfl, by decide⟩⟩

/-- What is stored in the default data source has no edge to it and does not depend on it. -/
theorem default_dataSource_not_drawn :
    tokenShop.dataSourceFor { offset := 0, name := "Order" } =
      .ok (some ⟨{ offset := 0, name := "Main", persistenceType := "Memory" }, false, none, 1⟩) ∧
    ¬ Leads (ofRegistry tokenShop).edges .dataSource (.entity, "Order") (.dataSource, "Main") ∧
    (ofRegistry tokenShop).dependents (.dataSource, "Main") = [] := by
  refine ⟨rfl, ?_, ?_⟩
  · unfold Leads
    decide
  · decide +kernel

end Blueprint.UnitGraph
