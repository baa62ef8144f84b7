import Mathlib.Data.List.Nodup
import Blueprint.Proofs.Design.Names
import Blueprint.Proofs.Generation.AllGenerators
import Blueprint.Proofs.Generation.ModulePaths
import Blueprint.Proofs.Generation.RouterMounts
import Blueprint.Proofs.Generation.WrittenCode
import Blueprint.Proofs.Server.StartupCalls

namespace Blueprint

open Design

/-- An entity as a unit. -/
def Declared.asUnit (entity : Declared Entity) : Declared Design.Unit :=
  entity.withUnit (.entity entity.unit)

namespace Registry

/-- The entities with a property are the units that are such entities. -/
theorem map_asUnit_filter (registry : Registry) (keeps : Declared Entity → Bool) :
    (registry.entities.filter keeps).map Declared.asUnit = registry.units.filter fun unit =>
      unit.unit.entity?.any fun entity => keeps (unit.withUnit entity) := by
  have general (units : List (Declared Design.Unit)) :
      ((units.filterMap fun unit => unit.unit.entity?.map unit.withUnit).filter keeps).map
        Declared.asUnit = units.filter fun unit =>
          unit.unit.entity?.any fun entity => keeps (unit.withUnit entity) := by
    induction units with
    | nil => rfl
    | cons first units ih =>
      cases shown : first.unit.entity? with
      | none => simpa [shown] using ih
      | some entity =>
        have same : (first.withUnit entity).asUnit = first := by
          obtain ⟨unit, isLibrary, source, order⟩ := first
          cases unit <;> simp_all [Unit.entity?, Declared.asUnit, Declared.withUnit]
        by_cases kept : keeps (first.withUnit entity) = true
        · simp [shown, kept, same, ih]
        · simp [shown, kept, ih]
  exact general registry.units

/-- The data source of a name is declared exactly if it is found. -/
theorem isSome_find?_dataSources (registry : Registry) (name : String) :
    (registry.dataSources.find? (·.unit.name == name)).isSome = registry.has .dataSource name := by
  rw [Bool.eq_iff_iff, has, find?, List.find?_isSome, List.find?_isSome]
  constructor
  · rintro ⟨source, listed, named⟩
    obtain ⟨unit, member, shown, _⟩ := unit_of_mem_list listed
    refine ⟨unit, member, ?_⟩
    rw [Generation.kind_of_dataSource? shown, Generation.name_of_dataSource? shown]
    exact named
  · rintro ⟨unit, member, same⟩
    rw [Bool.and_eq_true, beq_iff_eq] at same
    obtain ⟨source, shown⟩ : ∃ source, unit.unit.dataSource? = some source := by
      have kind := same.1
      unfold Declared.kind at kind
      cases shape : unit.unit <;> simp_all [Unit.kind, Unit.dataSource?]
    refine ⟨unit.withUnit source, Generation.mem_list member shown, ?_⟩
    rw [Generation.name_of_dataSource? shown] at same
    exact same.2

theorem exists_dataSourceFor_iff {registry : Registry}
    (named : ∀ source ∈ registry.dataSources, source.unit.name ≠ "") (entity : Entity) :
    (∃ source ∈ registry.dataSources, registry.dataSourceFor entity = .ok (some source)) ↔
      registry.has .dataSource (registry.dataSourceName entity) = true := by
  rw [← isSome_find?_dataSources, List.find?_isSome]
  constructor
  · rintro ⟨source, listed, stored⟩
    rw [dataSourceFor_eq_iff listed (named source listed)] at stored
    exact ⟨source, listed, by simp [stored]⟩
  · rintro ⟨source, listed, same⟩
    refine ⟨source, listed, ?_⟩
    rw [dataSourceFor_eq_iff listed (named source listed)]
    exact (beq_iff_eq.mp same).symm

end Registry

namespace Generation

open Server

/-- The units for which a generator runs: its condition accepts them and does not raise. -/
def triggered (registry : Registry) (generator : Generator) : List (Declared Design.Unit) :=
  registry.units.filter fun unit =>
    Site.accepted registry ⟨0, generator, some unit⟩ matches .ok true

/-- The unit is an entity whose data source is this one. -/
def KeptIn (registry : Registry) (source : Declared DataSource) (unit : Declared Design.Unit) :
    Prop :=
  ∃ entity, unit.unit.entity? = some entity ∧ registry.dataSourceFor entity = .ok (some source)

/-- The routers of an entity are made exactly if it is of the main design and has a data source. -/
theorem accepted_route_iff {registry : Registry} {unit : Declared Design.Unit} :
    (Site.accepted registry ⟨0, routeGenerator, some unit⟩ matches .ok true) = true ↔
      unit.isLibrary = false ∧ ∃ source, KeptIn registry source unit := by
  cases shown : unit.unit.entity? with
  | none =>
    have other : routeGenerator.triggerFor? unit = none := by
      have kind : unit.kind ≠ .entity := by
        unfold Declared.kind
        cases shape : unit.unit <;> simp_all [Unit.entity?, Unit.kind]
      simp [Generator.triggerFor?, routeGenerator, Trigger.matches, kind]
    simp [Site.accepted, other, KeptIn, shown]
  | some entity =>
    have found : routeGenerator.triggerFor? unit = some ⟨.entity, serverEntity⟩ := by
      simp [Generator.triggerFor?, routeGenerator, Trigger.matches, kind_of_entity? shown]
    simp only [Site.accepted, found, serverEntity, shown, KeptIn, Option.some.injEq,
      exists_eq_left']
    cases unit.isLibrary with
    | true => simp
    | false =>
      cases stored : registry.dataSourceFor entity with
      | error failure => simp [Except.map]
      | ok store => cases store <;> simp [Except.map]

variable {registry : Registry}

/-- The entities that get server code are those for which routers are made. -/
theorem serverEntities_eq (named : ∀ source ∈ registry.dataSources, source.unit.name ≠ "") :
    registry.serverEntities.map Declared.asUnit = triggered registry routeGenerator := by
  rw [Registry.serverEntities, Registry.map_asUnit_filter, triggered]
  apply List.filter_congr
  intro unit _
  rw [Bool.eq_iff_iff, accepted_route_iff]
  cases shown : unit.unit.entity? with
  | none => simp [KeptIn, shown]
  | some entity =>
    have stored := Registry.exists_dataSourceFor_iff named entity
    simp only [Option.any_some, Bool.and_eq_true, Bool.not_eq_true', KeptIn, shown,
      Option.some.injEq, exists_eq_left']
    refine and_congr Iff.rfl ?_
    refine stored.symm.trans ?_
    constructor
    · rintro ⟨source, _, stored⟩
      exact ⟨source, stored⟩
    · rintro ⟨source, stored⟩
      exact ⟨source, Registry.mem_of_dataSourceFor stored, stored⟩

open Classical in
/-- The entities of the main design that name a data source are those for which routers are made and
that are stored in it. -/
theorem entitiesFor_eq {source : Declared DataSource} (listed : source ∈ registry.dataSources)
    (named : source.unit.name ≠ "") :
    ((registry.entitiesFor source.unit.name).filter (!·.isLibrary)).map Declared.asUnit =
      (triggered registry routeGenerator).filter (KeptIn registry source) := by
  rw [Registry.entitiesFor, List.filter_filter, Registry.map_asUnit_filter, triggered,
    List.filter_filter]
  apply List.filter_congr
  intro unit _
  rw [Bool.eq_iff_iff, Bool.and_eq_true, accepted_route_iff, decide_eq_true_iff]
  cases shown : unit.unit.entity? with
  | none => simp [KeptIn, shown]
  | some entity =>
    have stored := Registry.dataSourceFor_eq_iff listed named entity
    simp only [Option.any_some, Bool.and_eq_true, Bool.not_eq_true', beq_iff_eq, KeptIn, shown,
      Option.some.injEq, exists_eq_left']
    constructor
    · rintro ⟨isMain, same⟩
      exact ⟨stored.mpr same, isMain, source, stored.mpr same⟩
    · rintro ⟨same, isMain, _⟩
      exact ⟨isMain, stored.mp same⟩

theorem nodup_triggered (registry : Registry) (generator : Generator) :
    (triggered registry generator).Nodup :=
  (List.Nodup.of_map _ registry.distinct).filter _

open Classical in
/-- Every entity for which routers are made is stored in one data source. -/
theorem flatMap_entitiesFor_perm
    (named : ∀ source ∈ registry.dataSources, source.unit.name ≠ "") :
    (registry.dataSources.flatMap fun source =>
      ((registry.entitiesFor source.unit.name).filter (!·.isLibrary)).map Declared.asUnit).Perm
        (triggered registry routeGenerator) := by
  have each : registry.dataSources.flatMap (fun source =>
      ((registry.entitiesFor source.unit.name).filter (!·.isLibrary)).map Declared.asUnit) =
        registry.dataSources.flatMap fun source =>
          (triggered registry routeGenerator).filter (KeptIn registry source) :=
    List.flatMap_congr fun source listed => entitiesFor_eq listed (named source listed)
  have distinct : registry.dataSources.Nodup := by
    refine (List.Nodup.of_map _ registry.distinct).filterMap ?_
    intro one two source first second
    obtain ⟨kept, shown, rfl⟩ := Option.map_eq_some_iff.mp first
    obtain ⟨other, seen, same⟩ := Option.map_eq_some_iff.mp second
    obtain ⟨unit, isLibrary, path, order⟩ := one
    obtain ⟨unit', isLibrary', path', order'⟩ := two
    cases same
    cases unit <;> cases shown
    cases unit' <;> cases seen
    rfl
  have whole : (registry.dataSources.flatMap fun source =>
      (triggered registry routeGenerator).filter (KeptIn registry source)).Nodup := by
    rw [List.nodup_flatMap]
    refine ⟨fun source _ => (nodup_triggered registry routeGenerator).filter _, ?_⟩
    refine distinct.imp ?_
    -- A unit is stored in one data source only.
    intro one two differ unit here there
    obtain ⟨entity, shown, stored⟩ := of_decide_eq_true (List.mem_filter.mp here).2
    obtain ⟨same, seen, kept⟩ := of_decide_eq_true (List.mem_filter.mp there).2
    cases shown.symm.trans seen
    cases stored.symm.trans kept
    exact differ rfl
  rw [each, List.perm_ext_iff_of_nodup whole (nodup_triggered registry routeGenerator)]
  intro unit
  rw [List.mem_flatMap]
  constructor
  · rintro ⟨source, _, member⟩
    exact (List.mem_filter.mp member).1
  · intro member
    obtain ⟨_, source, entity, shown, stored⟩ :=
      accepted_route_iff.mp (List.mem_filter.mp member).2
    refine ⟨source, Registry.mem_of_dataSourceFor stored, ?_⟩
    exact List.mem_filter.mpr ⟨member, decide_eq_true ⟨entity, shown, stored⟩⟩

section Mounts

/-- The name of an entity's router in a module of this name. -/
def routeOf? (origin : String × String) : Option String :=
  (Text.after? "app.routes.".toList origin.1.toList).map String.ofList

/-- The routers of entities that the index mounts, in order, by the names of their modules. -/
def mountedRoutes (module : ServerCode.Module) : List String :=
  (mountCalls indexPackage [] module.body).filterMap fun call => call.2.bind routeOf?

private theorem routeOf?_entity (name : String) :
    routeOf? (routerOrigin ⟨"app.routes", name⟩) = some name := by
  have parts : (routerOrigin ⟨"app.routes", name⟩).1.toList = "app.routes.".toList ++ name.toList := by
    rw [← String.toList_append]
    rfl
  rw [routeOf?, parts, Text.after?_append, Option.map_some, String.ofList_toList]

private theorem routeOf?_behavior (name : String) :
    routeOf? (routerOrigin ⟨"app.app_behaviors", name⟩) = none := by
  have parts : (routerOrigin ⟨"app.app_behaviors", name⟩).1.toList =
      "app.app_behaviors.".toList ++ name.toList := by
    rw [← String.toList_append]
    rfl
  rw [routeOf?, parts]
  rfl

private theorem lastWith_append {α β : Type} [DecidableEq β] {key : α → β} (front back : List α)
    (wanted : β) : ServerCode.lastWith key (front ++ back) wanted =
      (ServerCode.lastWith key back wanted).or (ServerCode.lastWith key front wanted) := by
  rw [ServerCode.lastWith, List.reverse_append, List.find?_append]
  rfl

/-- The router of an entity is mounted, as it is imported, unless a behavior has a module of its
name. -/
theorem mountedRoutes_eq {module : ServerCode.Module}
    (made : routesIndex (indexRouters registry) = .ok module) :
    mountedRoutes module = (entityRouters registry).filterMap fun router =>
      if importedName router ∈ (appRouters registry).map importedName then none
      else some (importedName router) := by
  have ofBehavior {router : MountedRouter} (listed : router ∈ appRouters registry) :
      routeOf? (routerOrigin (asImported router)) = none := by
    obtain ⟨behavior, _, rfl⟩ := List.mem_map.mp listed
    rw [asImported_eq, routeOf?_behavior]
  have ofEntity {router : MountedRouter} (listed : router ∈ entityRouters registry) :
      routeOf? (routerOrigin (asImported router)) = some (importedName router) := by
    obtain ⟨entity, _, rfl⟩ := List.mem_map.mp listed
    rw [asImported_eq, routeOf?_entity]
  rw [mountedRoutes, mountCalls_routesIndex made (placed_indexRouters made), List.filterMap_map,
    indexRouters, List.filterMap_append]
  have none : (appRouters registry).filterMap ((fun call => call.2.bind routeOf?) ∘ fun router =>
      (some (ServerCode.Meaning.defined indexRouter), (ServerCode.lastWith importedName
        (entityRouters registry ++ appRouters registry) (importedName router)).map fun last =>
          routerOrigin (asImported last))) = [] := by
    refine List.filterMap_eq_nil_iff.mpr fun router listed => ?_
    obtain ⟨last, found⟩ : ∃ last, ServerCode.lastWith importedName (appRouters registry)
        (importedName router) = some last := ServerCode.exists_lastWith listed
    rw [Function.comp_apply, lastWith_append, found]
    exact ofBehavior (ServerCode.of_lastWith found).1
  rw [none, List.append_nil]
  refine List.filterMap_congr fun router listed => ?_
  rw [Function.comp_apply, lastWith_append]
  cases found : ServerCode.lastWith importedName (appRouters registry) (importedName router) with
  | some last =>
    obtain ⟨inside, same⟩ := ServerCode.of_lastWith found
    rw [if_pos (List.mem_map.mpr ⟨last, inside, same⟩)]
    exact ofBehavior inside
  | none =>
    have apart := ServerCode.lastWith_eq_none_iff.mp found
    rw [if_neg fun inside => by
      obtain ⟨other, there, same⟩ := List.mem_map.mp inside
      exact apart other there same]
    obtain ⟨last, own⟩ : ∃ last, ServerCode.lastWith importedName (entityRouters registry)
        (importedName router) = some last := ServerCode.exists_lastWith listed
    obtain ⟨inside, same⟩ := ServerCode.of_lastWith own
    rw [own, ← same]
    exact ofEntity inside

private theorem filterMap_eq_map_iff {α β : Type} {keeps : α → Option β} {make : α → β}
    {items : List α} :
    items.filterMap keeps = items.map make ↔ ∀ item ∈ items, keeps item = some (make item) := by
  induction items with
  | nil => simp
  | cons item items ih =>
    rw [List.forall_mem_cons, ← ih, List.map_cons]
    cases kept : keeps item with
    | none =>
      -- What is left out is missing at the end.
      rw [List.filterMap_cons_none kept]
      refine iff_of_false (fun same => ?_) nofun
      have length := congrArg List.length same
      have most := List.length_filterMap_le keeps items
      rw [List.length_cons, List.length_map] at length
      omega
    | some value => rw [List.filterMap_cons_some kept, List.cons_eq_cons, Option.some_inj]

/-- The index mounts the routers of the entities for which routers are made, in order and no others,
exactly if the names of their modules are in normal form and no behavior has a module of such a name. -/
theorem mountedRoutes_eq_iff (named : ∀ source ∈ registry.dataSources, source.unit.name ≠ "")
    {module : ServerCode.Module} (made : routesIndex (indexRouters registry) = .ok module) :
    mountedRoutes module =
        (triggered registry routeGenerator).map (fun unit => routeModule unit.name) ↔
      ∀ unit ∈ triggered registry routeGenerator,
        ServerCode.identifier (routeModule unit.name) = routeModule unit.name ∧
        ∀ router ∈ appRouters registry,
          ServerCode.identifier router.module ≠ routeModule unit.name := by
  have names : (triggered registry routeGenerator).map (fun unit => routeModule unit.name) =
      (entityRouters registry).map MountedRouter.module := by
    rw [← serverEntities_eq named, entityRouters, List.map_map, List.map_map]
    rfl
  rw [names, mountedRoutes_eq made, filterMap_eq_map_iff, ← serverEntities_eq named, entityRouters,
    List.forall_mem_map, List.forall_mem_map]
  refine forall₂_congr fun entity _ => ?_
  have taken_iff (name : String) : name ∈ (appRouters registry).map importedName ↔
      ∃ router ∈ appRouters registry, ServerCode.identifier router.module = name := List.mem_map
  have own : entity.asUnit.name = entity.unit.name := rfl
  rw [importedName, own]
  dsimp only
  generalize ServerCode.identifier (routeModule entity.unit.name) = imported
  constructor
  · intro same
    split at same
    · cases same
    · rename_i apart
      have normal := Option.some.inj same
      refine ⟨normal, fun router listed taken => apart ?_⟩
      rw [taken_iff, normal]
      exact ⟨router, listed, taken⟩
  · rintro ⟨rfl, apart⟩
    rw [if_neg]
    intro inside
    obtain ⟨router, listed, taken⟩ := (taken_iff _).mp inside
    exact apart router listed taken

end Mounts

/-- The data source whose module this is. -/
def sourceModule? (module : String) : Option String :=
  (Text.after? "app.data_sources.".toList module.toList).map String.ofList

/-- The entry point imports the data sources that it is made of, in normal form. -/
theorem sources_startup {project : String} {sources : List String}
    {behaviors : List ActiveBehavior} {module : ServerCode.Module}
    (made : Startup.module project sources behaviors = .ok module) :
    module.modules.filterMap sourceModule? = sources.map ServerCode.identifier := by
  obtain ⟨_, _, made⟩ := bind_eq_ok_iff.mp made
  cases made
  have own : ((sources.map Startup.importSource).flatMap ServerCode.Statement.modules).filterMap
      sourceModule? = sources.map ServerCode.identifier := by
    have named (name : String) : sourceModule? ("app.data_sources." ++ name) = some name := by
      rw [sourceModule?, String.toList_append, Text.after?_append, Option.map_some,
        String.ofList_toList]
    simp only [List.flatMap_map, Startup.importSource, ServerCode.Statement.modules_importingAs]
    rw [← List.map_eq_flatMap, List.filterMap_map, ← List.filterMap_eq_map]
    refine List.filterMap_congr fun source _ => ?_
    rw [Function.comp_apply, named, Function.comp_apply]
  have others : ((behaviors.map Startup.importBehavior).flatMap
      ServerCode.Statement.modules).filterMap sourceModule? = [] := by
    simp only [List.flatMap_map, Startup.importBehavior, ServerCode.Statement.modules_importing,
      List.map_singleton]
    rw [← List.map_eq_flatMap, List.filterMap_map, List.filterMap_eq_nil_iff]
    intro behavior _
    rw [Function.comp_apply]
    generalize ServerCode.identifier (appBehaviorModule behavior.name) = imported
    rw [sourceModule?, String.toList_append]
    rfl
  have silent {statements : List ServerCode.Statement}
      (known : ∀ name ∈ statements.flatMap ServerCode.Statement.modules,
        name ∈ "app.routes" :: startupModules) :
      (statements.flatMap ServerCode.Statement.modules).filterMap sourceModule? = [] := by
    have plain : ∀ name ∈ "app.routes" :: startupModules, sourceModule? name = none := by
      decide
    rw [List.filterMap_eq_nil_iff]
    exact fun name listed => plain name (known name listed)
  simp only [ServerCode.Module.modules_eq, List.flatMap_append, List.filterMap_append, own, others,
    List.append_nil]
  rw [silent, silent, List.nil_append, List.append_nil]
  · intro name listed
    cases listed
  · simp [startupModules]

/-- A data source is generated exactly if it is used and says how it keeps records. -/
theorem generated_dataSource_iff (registry : Registry) {unit : Declared Design.Unit}
    {source : DataSource} (shown : unit.unit.dataSource? = some source) :
    (Site.result registry ⟨0, dataSourceGenerator, some unit⟩).state = .generated ↔
      usedByServer (unit.withUnit source) registry = true ∧ source.persistenceType ≠ "" := by
  have asked : Site.accepted registry ⟨0, dataSourceGenerator, some unit⟩ =
      .ok (usedByServer (unit.withUnit source) registry) := by
    have found : dataSourceGenerator.triggerFor? unit = some ⟨.dataSource, isUsedDataSource⟩ := by
      simp [Generator.triggerFor?, dataSourceGenerator, Trigger.matches, kind_of_dataSource? shown]
    simp only [Site.accepted, found, isUsedDataSource, shown]
  have runs : dataSourceGenerator.generate (some unit) registry =
      generateDataSource (unit.withUnit source) registry := by
    simp only [dataSourceGenerator, onUnit, shown]
  cases used : usedByServer (unit.withUnit source) registry with
  | false =>
    rw [used] at asked
    simp [Site.result, asked]
  | true =>
    rw [used] at asked
    by_cases said : source.persistenceType = ""
    · have unkept : (unit.withUnit source).unit.persistenceType = "" := said
      have skipped := generateDataSource_of_unkept registry unkept
      rw [Site.result_of_accepted asked]
      simp [Task.close, Site.task, runs, skipped, said]
    · have kept : (unit.withUnit source).unit.persistenceType ≠ "" := said
      have given := generateDataSource_of_kept registry kept
      rw [← runs] at given
      simp [(Site.generated_of_text _ asked rfl given).1, said]

variable {targets : List String} {workers : Int} {choices : Nat → Nat} {finished : Run}

/-- The data sources that the entry point connects are those that are generated. -/
theorem connectedSources_eq
    (returned : run registry allGenerators targets workers choices = .ok finished)
    (server : "server" ∈ targets) :
    connectedSources registry =
      ((finished.outcome.of dataSourceGenerator.name).filter (·.state == .generated)).filterMap
        fun result => result.unit.map snakeCase := by
  have known : allGenerators[3]? = some dataSourceGenerator := rfl
  rw [results_of_units returned known server rfl rfl, connectedSources, usedDataSources,
    Registry.dataSources, Registry.list, Registry.ofKind]
  simp only [← List.filterMap_eq_filter, ← List.filterMap_eq_map, List.filterMap_filterMap]
  apply List.filterMap_congr
  intro unit _
  cases shown : unit.unit.dataSource? with
  | none =>
    have other : unit.kind ≠ .dataSource := by
      unfold Declared.kind
      cases shape : unit.unit <;> simp_all [Unit.dataSource?, Unit.kind]
    simp [Option.guard, other]
  | some source =>
    have named : (Site.result registry ⟨0, dataSourceGenerator, some unit⟩).unit =
        some source.name :=
      ((answers_result registry _).unit).trans (congrArg some (name_of_dataSource? shown))
    have same : (unit.withUnit source).unit = source := rfl
    have state := generated_dataSource_iff registry shown
    by_cases used : usedByServer (unit.withUnit source) registry = true
    · by_cases said : source.persistenceType = ""
      · simp [Option.guard, kind_of_dataSource? shown, state, used, said, same]
      · simp [Option.guard, kind_of_dataSource? shown, state, used, said, named, same]
    · simp [Option.guard, kind_of_dataSource? shown, state, used]

section Tables

/-- The table that a line of a data source's module imports: its module, and its name. -/
def importedTable? (line : String) : Option (String × String) :=
  (Text.after? "from app.schemas.".toList line.toList).bind fun rest =>
    (Text.after? " import ".toList (rest.dropWhile (· != ' '))).map fun name =>
      (String.ofList (rest.takeWhile (· != ' ')), String.ofList name)

/-- The table that a line of a data source's module lists: the value of an entry that is no text. -/
def listedTable? (line : String) : Option String :=
  (Text.after? "        ".toList line.toList).bind fun entry =>
    match (entry.reverse.drop 1).takeWhile (· != ' ') with
    | [] | '\'' :: _ | '"' :: _ => none
    | name => some (String.ofList name.reverse)

private theorem importedTable?_import (module name : String) (unbroken : ' ' ∉ module.toList) :
    importedTable? ("from app.schemas." ++ module ++ " import " ++ name) = some (module, name) := by
  have parts : ("from app.schemas." ++ module ++ " import " ++ name).toList =
      "from app.schemas.".toList ++ (module.toList ++ (" import ".toList ++ name.toList)) := by
    simp only [String.toList_append, List.append_assoc]
  have whole : ∀ c ∈ module.toList, (c != ' ') = true :=
    fun c listed => bne_iff_ne.mpr fun blank => unbroken (blank ▸ listed)
  have blank : " import ".toList ++ name.toList = ' ' :: ("import ".toList ++ name.toList) := rfl
  rw [importedTable?, parts, Text.after?_append, Option.bind_some, List.takeWhile_append_of_pos whole,
    List.dropWhile_append_of_pos whole, blank, List.takeWhile_cons_of_neg (by simp),
    List.dropWhile_cons_of_neg (by simp), ← blank, Text.after?_append, Option.map_some,
    List.append_nil, String.ofList_toList, String.ofList_toList]

private theorem listedTable?_of_entry {line : String} {entry : List Char}
    (parts : line.toList = "        ".toList ++ (entry ++ [','])) :
    listedTable? line = match entry.reverse.takeWhile (· != ' ') with
      | [] | '\'' :: _ | '"' :: _ => none
      | name => some (String.ofList name.reverse) := by
  rw [listedTable?, parts, Text.after?_append, Option.bind_some, List.reverse_append]
  rfl

theorem listedTable?_name (name : String) {value : String} (worded : Design.IsWordName value) :
    listedTable? ("        " ++ Text.quoted name ++ ": " ++ value ++ ",") = some value := by
  have parts : ("        " ++ Text.quoted name ++ ": " ++ value ++ ",").toList =
      "        ".toList ++ (((Text.quoted name).toList ++ [':', ' '] ++ value.toList) ++ [',']) := by
    simp
  have plain {c : Char} (other : Text.isWord c = false) : c ∉ value.toList.reverse := by
    intro inside
    have word := List.all_eq_true.mp worded.2 c (List.mem_reverse.mp inside)
    exact Bool.false_ne_true (other.symm.trans word)
  have blank : ∀ c ∈ value.toList.reverse, (c != ' ') = true := by
    intro c listed
    exact bne_iff_ne.mpr fun same => plain (by decide) (same ▸ listed)
  have back : ((Text.quoted name).toList ++ [':', ' '] ++ value.toList).reverse.takeWhile (· != ' ') =
      value.toList.reverse := by
    simp [List.takeWhile_append_of_pos blank]
  rw [listedTable?_of_entry parts, back]
  cases same : value.toList.reverse with
  | nil => exact absurd (String.toList_eq_nil_iff.mp (List.reverse_eq_nil_iff.mp same)) worded.1
  | cons last rest =>
    have first : last ∈ value.toList.reverse := same ▸ List.mem_cons_self
    split
    · rename_i none
      cases none
    · rename_i quote
      cases quote
      exact absurd first (plain (by decide))
    · rename_i quote
      cases quote
      exact absurd first (plain (by decide))
    · rw [← same, List.reverse_reverse, String.ofList_toList]

theorem listedTable?_text (name value : String) :
    listedTable? ("        " ++ Text.quoted name ++ ": " ++ Text.quoted value ++ ",") = none := by
  obtain ⟨front, quote, shape, kind⟩ : ∃ front quote, (Text.quoted value).toList = front ++ [quote] ∧
      (quote = '\'' ∨ quote = '"') := by
    rw [Text.quoted, String.toList_ofList, Text.quotedChars]
    refine ⟨_, _, rfl, ?_⟩
    unfold Text.quoteFor
    split
    · exact Or.inr rfl
    · exact Or.inl rfl
  have parts : ("        " ++ Text.quoted name ++ ": " ++ Text.quoted value ++ ",").toList =
      "        ".toList ++ (((Text.quoted name).toList ++ [':', ' '] ++ front ++ [quote]) ++ [',']) := by
    simp [shape]
  rw [listedTable?_of_entry parts, List.reverse_append]
  rcases kind with rfl | rfl <;> rfl

private theorem after?_of_head {first : Char} {lead text : List Char} (other : text.head? ≠ some first) :
    Text.after? (first :: lead) text = none := by
  cases text with
  | nil => rfl
  | cons c text => exact if_neg fun same => other (by rw [same]; rfl)

theorem importedTable?_of_head {line : String} (other : line.toList.head? ≠ some 'f') :
    importedTable? line = none := by
  have lead : "from app.schemas.".toList = 'f' :: "rom app.schemas.".toList := rfl
  rw [importedTable?, lead, after?_of_head other, Option.bind_none]

theorem listedTable?_of_head {line : String} (other : line.toList.head? ≠ some ' ') :
    listedTable? line = none := by
  have lead : "        ".toList = ' ' :: "       ".toList := rfl
  rw [listedTable?, lead, after?_of_head other, Option.bind_none]

theorem listedTable?_indented {line : String} (rest : List Char)
    (shape : line.toList = "    ".toList ++ rest) (other : rest.head? ≠ some ' ') :
    listedTable? line = none := by
  have shallow : Text.after? "        ".toList line.toList =
      Text.after? (' ' :: "   ".toList) rest := by
    rw [shape]
    rfl
  rw [listedTable?, shallow, after?_of_head other, Option.bind_none]

private theorem importedTable?_core {line : String} (rest : List Char)
    (shape : line.toList = "from app.".toList ++ rest) (other : rest.head? ≠ some 's') :
    importedTable? line = none := by
  have apart : Text.after? "from app.schemas.".toList line.toList =
      Text.after? ('s' :: "chemas.".toList) rest := by
    rw [shape]
    rfl
  rw [importedTable?, apart, after?_of_head other, Option.bind_none]

variable (source : DataSource) {entities : List Entity}

/-- A data source's module imports the tables of its entities. -/
theorem importedTables_dataSourceLines : (dataSourceLines source entities).filterMap importedTable? =
    entities.map fun entity => (snakeCase entity.name, entity.name) := by
  have quiet (lines : List String) (other : ∀ line ∈ lines, line.toList.head? ≠ some 'f') :
      lines.filterMap importedTable? = [] :=
    List.filterMap_eq_nil_iff.mpr fun line listed => importedTable?_of_head (other line listed)
  have entries (value : Entity → String) :
      (entities.map fun entity => "        " ++ Text.quoted entity.name ++ ": " ++ value entity ++
        ",").filterMap importedTable? = [] := by
    refine quiet _ (List.forall_mem_map.mpr fun entity _ => ?_)
    rw [head?_sourceEntry]
    decide
  have imports : (entities.map fun entity =>
      "from app.schemas." ++ snakeCase entity.name ++ " import " ++ entity.name).filterMap
        importedTable? = entities.map fun entity => (snakeCase entity.name, entity.name) := by
    rw [List.filterMap_map, ← List.filterMap_eq_map]
    refine List.filterMap_congr fun entity _ => ?_
    rw [Function.comp_apply, importedTable?_import _ _ (blank_not_mem_snakeCase entity.name),
      Function.comp_apply]
  have front : ∀ line ∈ ["\"\"\"" ++ source.name ++ " data source (" ++ source.persistenceType ++
      ").\"\"\"", "", "from app.core.config import settings",
      "from app.core.persistence import create_data_source"], importedTable? line = none := by
    have documented : (("\"\"\"" ++ source.name ++ " data source (" ++ source.persistenceType ++
        ").\"\"\"").toList.head? ≠ some 'f') := by
      rw [head?_sourceHeading]
      decide
    simp only [List.forall_mem_cons]
    exact ⟨importedTable?_of_head documented, importedTable?_of_head nofun,
      importedTable?_core _ (Text.toList_of_eq rfl) nofun,
      importedTable?_core _ (Text.toList_of_eq rfl) nofun, nofun⟩
  delta dataSourceLines
  simp only [List.filterMap_append, List.filterMap_eq_nil_iff.mpr front, imports, entries]
  rw [quiet ["", _, _, _, _, _] ?call, quiet ["    \x7d,", _] ?between,
    quiet ["    \x7d,", _, _, _] ?ending]
  · simp only [List.nil_append, List.append_nil]
  all_goals
    simp (disch := rfl) only [List.forall_mem_cons, String.toList_append, Text.toList_of_eq,
      List.append_assoc, List.cons_append, List.head?_cons]
    simp

private theorem listedTable?_quoted (text : String) :
    listedTable? ("    " ++ Text.quoted text ++ ",") = none := by
  refine listedTable?_indented ((Text.quoted text).toList ++ [',']) ?_ ?_
  · rw [String.toList_append, String.toList_append, List.append_assoc]
    rfl
  rw [Text.quoted, String.toList_ofList, Text.quotedChars, Text.quoteFor]
  split <;> simp

private theorem listedTable?_url (value : String) :
    listedTable? ("    url=" ++ value ++ ",") = none :=
  listedTable?_indented ('u' :: ("rl=".toList ++ value.toList ++ [','])) (by
    simp (disch := rfl) only [String.toList_append, Text.toList_of_eq]
    rfl) (by simp)

private theorem listedTable?_options (value : String) :
    listedTable? ("    options=" ++ value ++ ",") = none :=
  listedTable?_indented ('o' :: ("ptions=".toList ++ value.toList ++ [','])) (by
    simp (disch := rfl) only [String.toList_append, Text.toList_of_eq]
    rfl) (by simp)

/-- A data source's module lists the tables of its entities. -/
theorem listedTables_dataSourceLines (worded : ∀ entity ∈ entities, Design.IsWordName entity.name) :
    (dataSourceLines source entities).filterMap listedTable? = entities.map (·.name) := by
  have silent (lines : List String) (other : ∀ line ∈ lines, listedTable? line = none) :
      lines.filterMap listedTable? = [] := List.filterMap_eq_nil_iff.mpr other
  have tables : (entities.map fun entity => "from app.schemas." ++ snakeCase entity.name ++
      " import " ++ entity.name).filterMap listedTable? = [] := by
    refine silent _ (List.forall_mem_map.mpr fun entity _ => listedTable?_of_head ?_)
    rw [head?_tableImport]
    decide
  have models : (entities.map fun entity => "        " ++ Text.quoted entity.name ++ ": " ++
      entity.name ++ ",").filterMap listedTable? = entities.map (·.name) := by
    rw [List.filterMap_map, ← List.filterMap_eq_map]
    refine List.filterMap_congr fun entity listed => ?_
    rw [Function.comp_apply, listedTable?_name _ (worded entity listed), Function.comp_apply]
  have identities : (entities.map fun entity => "        " ++ Text.quoted entity.name ++ ": " ++
      Text.quoted (Identity.of entity).name ++ ",").filterMap listedTable? = [] :=
    silent _ (List.forall_mem_map.mpr fun entity _ => listedTable?_text _ _)
  have opened : listedTable? "    models=\x7b" = none :=
    listedTable?_indented _ (Text.toList_of_eq rfl) (by decide)
  have reopened : listedTable? "    id_fields=\x7b" = none :=
    listedTable?_indented _ (Text.toList_of_eq rfl) (by decide)
  have closed : listedTable? "    \x7d," = none :=
    listedTable?_indented _ (Text.toList_of_eq rfl) (by decide)
  delta dataSourceLines
  simp only [List.filterMap_append, tables, models, identities]
  rw [silent [_, "", _, _], silent ["", _, _, _, _, _], silent ["    \x7d,", _],
    silent ["    \x7d,", _, _, _]]
  · simp only [List.nil_append, List.append_nil]
  all_goals simp only [List.forall_mem_cons]
  · exact ⟨closed, listedTable?_options _, listedTable?_of_head (by simp), listedTable?_of_head (by simp), nofun⟩
  · exact ⟨closed, reopened, nofun⟩
  · exact ⟨listedTable?_of_head nofun, listedTable?_of_head (by decide), listedTable?_quoted _,
      listedTable?_quoted _, listedTable?_url _, opened, nofun⟩
  · refine ⟨listedTable?_of_head (by rw [head?_sourceHeading]; decide), listedTable?_of_head nofun,
      listedTable?_of_head ?_, listedTable?_of_head ?_, nofun⟩
    · simp (disch := rfl) only [Text.toList_of_eq, List.head?_cons]
      decide
    · simp (disch := rfl) only [Text.toList_of_eq, List.head?_cons]
      decide

end Tables

open Classical in
/-- The files of the server that stand for all units agree with what is generated for each. The index
mounts the routers of the entities for which routers are made, exactly if their modules are told apart
from those of behaviors and named in normal form; a data source lists the entities that are stored in
it, so that each is listed once; the entry point imports the data sources that are generated, exactly if
their modules are named in normal form. -/
structure ServerAgrees (registry : Registry) (outcome : RunResult) : Prop where
  mounted : ∀ produced, (generateRoutesIndex registry).outcome = .ok produced →
    ∃ module, Prints module produced ∧ (mountedRoutes module =
        (triggered registry routeGenerator).map (fun unit => routeModule unit.name) ↔
      ∀ unit ∈ triggered registry routeGenerator,
        ServerCode.identifier (routeModule unit.name) = routeModule unit.name ∧
        ∀ router ∈ appRouters registry,
          ServerCode.identifier router.module ≠ routeModule unit.name)
  stored : ∀ source ∈ registry.dataSources,
    ((registry.entitiesFor source.unit.name).filter (!·.isLibrary)).map Declared.asUnit =
      (triggered registry routeGenerator).filter (KeptIn registry source)
  listed : ∀ source ∈ registry.dataSources, source.unit.persistenceType ≠ "" → ∃ entities,
    (generateDataSource source registry).outcome = .ok (.text (generatedHeader ++ "\n" ++
      Text.unlines (dataSourceLines source.unit entities))) ∧
    (dataSourceLines source.unit entities).filterMap importedTable? =
      ((triggered registry routeGenerator).filter (KeptIn registry source)).map
        (fun unit => (snakeCase unit.name, unit.name)) ∧
    (dataSourceLines source.unit entities).filterMap listedTable? =
      ((triggered registry routeGenerator).filter (KeptIn registry source)).map Declared.name
  once : (registry.dataSources.flatMap fun source =>
    ((registry.entitiesFor source.unit.name).filter (!·.isLibrary)).map Declared.asUnit).Perm
      (triggered registry routeGenerator) ∧ (triggered registry routeGenerator).Nodup
  connected : ∀ produced, (generateStartup registry).outcome = .ok produced →
    ∃ module, Prints module produced ∧ (module.modules.filterMap sourceModule? =
        ((outcome.of "data-source").filter (·.state == .generated)).filterMap
          (fun result => result.unit.map snakeCase) ↔
      ∀ source ∈ connectedSources registry, ServerCode.identifier source = source)

open Classical in
/-- In every run for the server the files that stand for all units agree with those for each, apart from
what is imported. -/
theorem server_files_agree (wellNamed : WellNamed registry)
    (returned : run registry allGenerators targets workers choices = .ok finished)
    (server : "server" ∈ targets) : ServerAgrees registry finished.outcome := by
  have named (source : Declared DataSource) (listed : source ∈ registry.dataSources) :
      source.unit.name ≠ "" :=
    (wellNamed.of_listed listed fun _ => name_of_dataSource?).1
  refine ⟨?_, ?_, ?_, ?_, ?_⟩
  · intro produced success
    obtain ⟨module, made, printed⟩ := exists_module_of_generateRoutesIndex success
    exact ⟨module, printed, mountedRoutes_eq_iff named made⟩
  · exact fun source listed => entitiesFor_eq listed (named source listed)
  · intro source listed kept
    refine ⟨_, generateDataSource_of_kept registry kept, ?_⟩
    have worded : ∀ entity ∈ storedEntities registry source.unit, Design.IsWordName entity.name := by
      intro entity inside
      obtain ⟨declared, stored, rfl⟩ := List.mem_map.mp inside
      have member := (List.mem_filter.mp (List.mem_filter.mp stored).1).1
      exact wellNamed.of_listed member fun _ => name_of_entity?
    rw [importedTables_dataSourceLines, listedTables_dataSourceLines _ worded, ← entitiesFor_eq listed (named source listed), storedEntities]
    simp only [List.map_map]
    exact ⟨rfl, rfl⟩
  · exact ⟨flatMap_entitiesFor_perm named, nodup_triggered registry routeGenerator⟩
  · intro produced success
    obtain ⟨module, made, printed⟩ := exists_module_of_generateStartup success
    refine ⟨module, printed, ?_⟩
    have generated : connectedSources registry =
        ((finished.outcome.of "data-source").filter (·.state == .generated)).filterMap
          fun result => result.unit.map snakeCase := connectedSources_eq returned server
    rw [sources_startup made, ← generated]
    conv_lhs => rw [← List.map_id (connectedSources registry), List.map_map]
    exact List.map_inj_left

/-- A shop with an entity in its data source, and with one whose data source is missing. -/
def misplaced : Registry where
  units := Registry.declare none false 0 (stored ++ [.entity { offset := 0, name := "Order" },
    .entity { offset := 0, name := "Note", dataSource := "Drawer" }])
  distinct := by decide

theorem server_files_agree_misplaced : ∃ finished,
    run misplaced allGenerators ["server"] 2 id = .ok finished ∧
    ServerAgrees misplaced finished.outcome ∧
    (triggered misplaced routeGenerator).map Declared.name = ["Order"] ∧
    (connectedSources misplaced) = ["main"] := by
  have wellNamed : WellNamed misplaced := by
    have named : ∀ declared ∈ misplaced.units, declared.name ≠ "" ∧
        declared.name.toList.all Text.isWord = true := by decide
    exact named
  obtain ⟨finished, returned⟩ := exists_run misplaced ["server"] 2 id
  refine ⟨finished, returned, server_files_agree wellNamed returned List.mem_cons_self, ?_, ?_⟩
  · decide
  · decide

/-- A behavior has the name of the router of the only entity for which one is made, and this router is not
mounted. -/
theorem route_not_mounted_ordering : ∃ produced module,
    (generateRoutesIndex ordering).outcome = .ok produced ∧ Prints module produced ∧
    (triggered ordering routeGenerator).map (fun unit => routeModule unit.name) = ["orders"] ∧
    mountedRoutes module = [] := by
  obtain ⟨produced, module, success, made, printed⟩ := exists_orderingIndex
  refine ⟨produced, module, success, printed, by decide, ?_⟩
  rw [mountedRoutes_eq made]
  decide

end Generation

end Blueprint
