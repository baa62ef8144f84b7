import Mathlib.Data.List.Nodup
import Blueprint.Proofs.Resolve.Associations

namespace Blueprint

open Design

/-- A view of units shows those of one kind, and keeps their names. -/
structure ShowsKind {α : Type} (view : Design.Unit → Option α) (kind : UnitKind)
    (name : α → String) : Prop where
  kind_eq : ∀ {unit item}, view unit = some item → unit.kind = kind
  name_eq : ∀ {unit item}, view unit = some item → unit.name = name item

theorem entity?_shows : ShowsKind Unit.entity? .entity Entity.name := by
  constructor <;> intro unit item shown <;> cases unit <;> cases shown <;> rfl

theorem dataSource?_shows : ShowsKind Unit.dataSource? .dataSource DataSource.name := by
  constructor <;> intro unit item shown <;> cases unit <;> cases shown <;> rfl

theorem behavior?_shows : ShowsKind Unit.behavior? .behavior Behavior.name := by
  constructor <;> intro unit item shown <;> cases unit <;> cases shown <;> rfl

theorem page?_shows : ShowsKind Unit.page? .page Page.name := by
  constructor <;> intro unit item shown <;> cases unit <;> cases shown <;> rfl

theorem component?_shows : ShowsKind Unit.component? .component Component.name := by
  constructor <;> intro unit item shown <;> cases unit <;> cases shown <;> rfl

theorem project?_shows : ShowsKind Unit.project? .project Project.name := by
  constructor <;> intro unit item shown <;> cases unit <;> cases shown <;> rfl

namespace Registry

variable {registry : Registry} {α : Type} {view : Design.Unit → Option α} {kind : UnitKind}
  {name : α → String}

/-- Declarations of one kind are told apart by their names. -/
theorem eq_of_mem_list (shows : ShowsKind view kind name) {first second : Declared α}
    (one : first ∈ registry.list view) (other : second ∈ registry.list view)
    (same : name first.unit = name second.unit) : first = second := by
  obtain ⟨unit, member, shown, whole⟩ := unit_of_mem_list one
  obtain ⟨another, further, seen, equal⟩ := unit_of_mem_list other
  have keys : unit.key = another.key := by
    refine Prod.ext ((shows.kind_eq shown).trans (shows.kind_eq seen).symm) ?_
    exact (shows.name_eq shown).trans (same.trans (shows.name_eq seen).symm)
  have single := List.inj_on_of_nodup_map registry.distinct member further keys
  subst single
  have items : first.unit = second.unit := Option.some.inj (shown.symm.trans seen)
  rw [← whole, ← equal, items]

/-- The names of all declarations of one kind are distinct. -/
theorem nodup_names_list (registry : Registry) (shows : ShowsKind view kind name) :
    ((registry.list view).map fun item => name item.unit).Nodup := by
  have distinct := registry.distinct
  rw [List.Nodup, List.pairwise_map] at distinct
  rw [List.Nodup, List.pairwise_map, list, List.pairwise_filterMap]
  refine distinct.imp fun {one other} apart item first another second same => apart ?_
  obtain ⟨unit, shown, rfl⟩ := Option.map_eq_some_iff.mp first
  obtain ⟨further, seen, rfl⟩ := Option.map_eq_some_iff.mp second
  refine Prod.ext ((shows.kind_eq shown).trans (shows.kind_eq seen).symm) ?_
  exact (shows.name_eq shown).trans (same.trans (shows.name_eq seen).symm)

theorem has_of_mem {declared : Declared Design.Unit} (member : declared ∈ registry.units) :
    registry.has declared.unit.kind declared.unit.name = true :=
  List.find?_isSome.mpr ⟨declared, member, by simp [Declared.kind, Declared.name]⟩

/-- A kind and a name find the unit that bears them, and no other. -/
theorem find?_eq_some_iff {kind : UnitKind} {name : String} {declared : Declared Design.Unit} :
    registry.find? kind name = some declared ↔
      declared ∈ registry.units ∧ declared.key = (kind, name) := by
  constructor
  · intro found
    have bears := List.find?_some found
    rw [Bool.and_eq_true, beq_iff_eq, beq_iff_eq] at bears
    exact ⟨List.mem_of_find?_eq_some found, Prod.ext bears.1 bears.2⟩
  · rintro ⟨member, bears⟩
    obtain ⟨other, found⟩ := Option.isSome_iff_exists.mp (has_of_mem member)
    have kept := List.find?_some found
    rw [Bool.and_eq_true, beq_iff_eq, beq_iff_eq] at kept
    have same : other = declared := List.inj_on_of_nodup_map registry.distinct
      (List.mem_of_find?_eq_some found) member (Prod.ext kept.1 kept.2)
    rw [← same, ← found]
    obtain ⟨rfl, rfl⟩ := Prod.mk.inj bears
    rfl

theorem has_iff {kind : UnitKind} {name : String} :
    registry.has kind name = true ↔ ∃ declared ∈ registry.units, declared.key = (kind, name) := by
  rw [has, Option.isSome_iff_exists]
  exact exists_congr fun declared => find?_eq_some_iff

theorem has_of_mem_list (shows : ShowsKind view kind name) {item : Declared α}
    (listed : item ∈ registry.list view) : registry.has kind (name item.unit) = true := by
  obtain ⟨declared, member, shown, _⟩ := unit_of_mem_list listed
  exact has_iff.mpr ⟨declared, member, Prod.ext (shows.kind_eq shown) (shows.name_eq shown)⟩

private theorem find?_dataSources {source : Declared DataSource}
    (listed : source ∈ registry.dataSources) :
    registry.dataSources.find? (·.unit.name == source.unit.name) = some source := by
  have found : (registry.dataSources.find? (·.unit.name == source.unit.name)).isSome = true :=
    List.find?_isSome.mpr ⟨source, listed, beq_self_eq_true _⟩
  obtain ⟨other, found⟩ := Option.isSome_iff_exists.mp found
  have named : other.unit.name = source.unit.name := by simpa using List.find?_some found
  rw [found, eq_of_mem_list dataSource?_shows (List.mem_of_find?_eq_some found) listed named]

private theorem find?_of_dataSourceFor {entity : Entity} {source : Declared DataSource}
    (stored : registry.dataSourceFor entity = .ok (some source)) :
    registry.dataSources.find? (·.unit.name == registry.dataSourceName entity) = some source := by
  unfold dataSourceFor at stored
  simp only at stored
  split at stored
  · cases stored
  · split at stored
    · rename_i found
      cases stored
      exact found
    · cases stored

theorem mem_of_dataSourceFor {entity : Entity} {source : Declared DataSource}
    (stored : registry.dataSourceFor entity = .ok (some source)) : source ∈ registry.dataSources :=
  List.mem_of_find?_eq_some (find?_of_dataSourceFor stored)

theorem dataSourceName_of_dataSourceFor {entity : Entity} {source : Declared DataSource}
    (stored : registry.dataSourceFor entity = .ok (some source)) :
    registry.dataSourceName entity = source.unit.name := by
  have same : source.unit.name = registry.dataSourceName entity := by
    simpa using List.find?_some (find?_of_dataSourceFor stored)
  exact same.symm

/-- Where no data source has an empty name, an entity is stored in the one that it names. -/
theorem dataSourceFor_eq_iff {source : Declared DataSource}
    (listed : source ∈ registry.dataSources) (named : source.unit.name ≠ "") (entity : Entity) :
    registry.dataSourceFor entity = .ok (some source) ↔
      registry.dataSourceName entity = source.unit.name := by
  refine ⟨dataSourceName_of_dataSourceFor, fun same => ?_⟩
  have nonempty : source.unit.name.isEmpty = false := by simpa [String.isEmpty_iff] using named
  unfold dataSourceFor
  simp only
  rw [same, nonempty, find?_dataSources listed]
  rfl

end Registry

end Blueprint
