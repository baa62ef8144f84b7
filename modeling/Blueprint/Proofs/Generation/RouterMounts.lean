import Mathlib.Data.List.Nodup
import Blueprint.Proofs.NormalForm
import Blueprint.Proofs.Naming
import Blueprint.Proofs.Server.BehaviorMethods
import Blueprint.Proofs.ServerCode.Editing
import Blueprint.Proofs.ServerCode.Scope

/-!
The routers that the index mounts. It imports each under the name of the router's module, whichever
package the module belongs to, and mounts them all behind the imports. So routers whose modules have one
name are one router to the index, the last of them, which it mounts once for each. What is imported is
the normal form of a name, and a module keeps its name as it is written.

The index is the code of a package, so that a module of this package that it imports is bound in it
too. Such a module is called by a plural, like nothing else in the index.
-/

namespace Blueprint.Generation

open Design ServerCode Server

/-- The name of the router that a statement mounts. -/
def mountedRouter? : Statement → Option String
  | .expr (.call (.attribute (.name "router") "include_router") [.name bound] []) => some bound
  | _ => none

private theorem mounted_mounts (routers : List MountedRouter) :
    (routers.map MountedRouter.mount).filterMap mountedRouter? = routers.map MountedRouter.bound := by
  rw [List.filterMap_map, ← List.filterMap_eq_map]
  rfl

/-- The calls that mount routers while the statements of a module run, in order, when other statements
have run before: what the router is mounted in, and the place that it was imported from. -/
def mountCalls (package : Option String) (before : List Statement) :
    List Statement → List (Option Meaning × Option (String × String))
  | [] => []
  | statement :: rest =>
    (mountedRouter? statement).toList.map (fun name =>
      (meaning? package before "router", (meaning? package before name).bind Meaning.origin?)) ++
      mountCalls package (before ++ [statement]) rest

section Calls

variable {package : Option String} {before body : List Statement}

private theorem mountCalls_append (package : Option String) (before front back : List Statement) :
    mountCalls package before (front ++ back) =
      mountCalls package before front ++ mountCalls package (before ++ front) back := by
  induction front generalizing before with
  | nil => rw [List.append_nil]; rfl
  | cons statement front ih =>
    rw [List.cons_append, mountCalls, mountCalls, ih, ← List.append_assoc, List.append_assoc before,
      List.singleton_append]

private theorem mountCalls_eq_nil (quiet : ∀ statement ∈ body, mountedRouter? statement = none) :
    mountCalls package before body = [] := by
  induction body generalizing before with
  | nil => rfl
  | cons statement body ih =>
    rw [List.forall_mem_cons] at quiet
    rw [mountCalls, quiet.1, ih quiet.2]
    rfl

/-- Statements that give no name a meaning mount what the names stood for before. -/
theorem mountCalls_of_scope (silent : ∀ statement ∈ body, statement.scope package = []) :
    mountCalls package before body = (body.filterMap mountedRouter?).map fun name =>
      (meaning? package before "router", (meaning? package before name).bind Meaning.origin?) := by
  induction body generalizing before with
  | nil => rfl
  | cons statement body ih =>
    rw [List.forall_mem_cons] at silent
    have same (name : String) :
        meaning? package (before ++ [statement]) name = meaning? package before name := by
      rw [meaning?_append, meaning?, List.flatMap_singleton, silent.1]
      rfl
    rw [mountCalls, ih silent.2]
    simp only [same]
    cases mounted : mountedRouter? statement with
    | none => rw [List.filterMap_cons_none mounted]; rfl
    | some name => rw [List.filterMap_cons_some mounted]; rfl

end Calls

/-- The package whose code the index is. -/
def indexPackage : Option String := some "app.routes"

/-- The router of the index itself. -/
def indexRouter : Statement := .bind "router" (.apply (.name "APIRouter") [])

/-- The module of a router, and the name that it has there. -/
def routerOrigin (router : MountedRouter) : String × String :=
  (router.package ++ "." ++ router.module, "router")

/-- A router as the index imports it: its module is known by the normal form of its name. -/
def asImported (router : MountedRouter) : MountedRouter :=
  { router with module := identifier router.module }

/-- The name of the module of a router, as the index imports it. -/
def importedName (router : MountedRouter) : String := identifier router.module

theorem asImported_eq (router : MountedRouter) :
    asImported router = ⟨router.package, importedName router⟩ := rfl

/-- The routers come from the package of the index, where an entity's module is called by its plural, or
from that of behaviors. -/
inductive Placed : MountedRouter → Prop
  | entity {name : String} (filled : name ≠ "") : Placed ⟨"app.routes", routeModule name⟩
  | behavior (module : String) : Placed ⟨"app.app_behaviors", module⟩

section Names

private theorem getLast?_routeModule {name : String} (filled : name ≠ "") :
    (routeModule name).toList.getLast? = some 's' := by
  rw [routeModule, snakeCase, String.toList_ofList, Naming.snake, pluralize, String.toList_ofList]
  exact Naming.getLast?_joined_plural '_' fun empty => filled (String.toList_eq_nil_iff.mp empty)

private theorem not_mem_routeModule (name : String) : '.' ∉ (routeModule name).toList := by
  rw [routeModule, snakeCase, String.toList_ofList]
  intro dot
  rcases Naming.mem_of_mem_joined (by decide) dot with joint | ⟨_, apart⟩
  · exact absurd joint (by decide)
  · exact absurd apart (by decide +kernel)

private theorem getLast?_identifier {name : String} {c : Char} (ends : name.toList.getLast? = some c)
    (ascii : c.toNat < 0x80) : (identifier name).toList.getLast? = some c := by
  obtain ⟨front, same⟩ := List.getLast?_eq_some_iff.mp ends
  rw [toList_identifier, same, Text.normalForm_append (by simpa using ascii)]
  simp

theorem bound_eq (router : MountedRouter) : router.bound = identifier router.module ++ "_router" :=
  identifier_append (by decide)

theorem getLast?_bound (router : MountedRouter) : router.bound.toList.getLast? = some 'r' := by
  rw [bound_eq, String.toList_append, List.getLast?_append]
  rfl

private theorem bound_ne_router {router : MountedRouter} : "router" ≠ router.bound := by
  intro same
  have length := congrArg String.length same
  rw [bound_eq, String.length_append] at length
  have longer : "router".length < "_router".length := by decide
  omega

end Names

section Index

variable {routers : List MountedRouter} {module : Module} {name : String}

/-- What an import of a router binds in the package of the index: its module, if it is one of this
package, and the router. -/
theorem scope_importStatement {router : MountedRouter} (placed : Placed router) :
    ∃ loaded, router.importStatement.scope indexPackage = loaded ++
        [(router.bound, Meaning.imported
          (.ofName (routerOrigin (asImported router)).1 0 ⟨"router", some router.bound⟩))] ∧
      ∀ entry ∈ loaded, entry.1.toList.getLast? = some 's' := by
  refine ⟨_, Statement.scope_importingAs_of_package _ _ _ _, ?_⟩
  cases placed with
  | entity filled =>
    rename_i name
    have dotless := dot_not_mem_identifier (not_mem_routeModule name)
    have ends := getLast?_identifier (getLast?_routeModule filled) (by decide)
    dsimp only
    generalize identifier (routeModule name) = imported at dotless ends ⊢
    rw [Binding.loaded?_ofName dotless]
    intro entry inside
    rw [List.mem_singleton.mp inside]
    exact ends
  | behavior module =>
    dsimp only
    generalize identifier module = imported
    have elsewhere (name : Alias) : Binding.loaded? "app.routes"
        (.ofName ("app.app_behaviors" ++ "." ++ imported) 0 name) = none := by
      have apart : Text.after? ("app.routes" ++ ".").toList
          ("app.app_behaviors" ++ "." ++ imported).toList = none := by
        rw [String.toList_append (t := imported)]
        rfl
      rw [Binding.loaded?, Binding.module_ofName, apart, Option.map_none]
    rw [elsewhere]
    exact fun _ none => absurd none List.not_mem_nil

/-- A name that is called like no module of the package is bound by imports of routers under it only. -/
theorem meaning?_imports (placed : ∀ router ∈ routers, Placed router)
    (singular : name.toList.getLast? = some 'r') :
    meaning? indexPackage (routers.map MountedRouter.importStatement) name =
      (lastWith MountedRouter.bound routers name).map fun router =>
        .imported (.ofName (routerOrigin (asImported router)).1 0 ⟨"router", some router.bound⟩) := by
  refine meaning?_map fun router listed => ?_
  obtain ⟨loaded, scope, plural⟩ := scope_importStatement (placed router listed)
  have other : OrderedMap.last? name loaded = none := by
    refine OrderedMap.last?_eq_none_iff.mpr fun inside => ?_
    obtain ⟨entry, here, rfl⟩ := List.mem_map.mp inside
    exact absurd ((plural entry here).symm.trans singular) (by decide)
  rw [meaning?, List.flatMap_singleton, scope, OrderedMap.last?_append, OrderedMap.last?_singleton,
    other, Option.or_none]

/-- The statements of the index ahead of those that mount routers. -/
def indexFront (routers : List MountedRouter) : List Statement :=
  [Statement.documentation "All generated routers, mounted under the API prefix by main.py.",
    .importing "fastapi" ["APIRouter"]] ++
    routers.map MountedRouter.importStatement ++ [indexRouter]

private theorem body_of_routesIndex (made : routesIndex routers = .ok module) :
    module.body = indexFront routers ++ routers.map MountedRouter.mount := by
  obtain ⟨_, _, made⟩ := bind_eq_ok_iff.mp made
  cases made
  rfl

/-- Once the index has imported the routers, its own name for a router stands for the last router whose
module has the same name. -/
theorem origin?_bound (placed : ∀ router ∈ routers, Placed router) {router : MountedRouter}
    (listed : router ∈ routers) :
    (meaning? indexPackage (indexFront routers) router.bound).bind Meaning.origin? =
      (lastWith importedName routers (importedName router)).map fun last =>
        routerOrigin (asImported last) := by
  have own : meaning? indexPackage [indexRouter] router.bound = none := by
    rw [meaning?_singleton rfl, if_neg bound_ne_router]
  have alike : lastWith MountedRouter.bound routers router.bound =
      lastWith importedName routers (importedName router) := by
    simp [lastWith, bound_eq, importedName, Bool.beq_eq_decide_eq]
  rw [indexFront, meaning?_append, meaning?_append, own, Option.none_or,
    meaning?_imports placed (getLast?_bound router), alike]
  obtain ⟨last, found⟩ : ∃ last, lastWith importedName routers (importedName router) = some last :=
    exists_lastWith listed
  rw [found]
  rfl

private theorem meaning?_router_front :
    meaning? indexPackage (indexFront routers) "router" = some (.defined indexRouter) := by
  rw [indexFront, meaning?_append]
  rfl

private theorem scope_mount : ∀ statement ∈ routers.map MountedRouter.mount,
    statement.scope indexPackage = [] :=
  List.forall_mem_map.mpr fun _ _ => rfl

private theorem meaning?_router (made : routesIndex routers = .ok module) :
    meaning? indexPackage module.body "router" = some (.defined indexRouter) := by
  have silent : meaning? indexPackage (routers.map MountedRouter.mount) "router" = none := by
    refine meaning?_eq_none_iff.mpr fun statement inside => ?_
    rw [scope_mount statement inside]
    exact List.not_mem_nil
  rw [body_of_routesIndex made, meaning?_append, silent, Option.none_or, meaning?_router_front]

/-- The index mounts for each router the last one whose module has the same name, in its own router. -/
theorem mountCalls_routesIndex (made : routesIndex routers = .ok module)
    (placed : ∀ router ∈ routers, Placed router) :
    mountCalls indexPackage [] module.body = routers.map fun router =>
      (some (.defined indexRouter), (lastWith importedName routers (importedName router)).map
        fun last => routerOrigin (asImported last)) := by
  have quiet : ∀ statement ∈ indexFront routers, mountedRouter? statement = none := by
    simp only [indexFront, List.forall_mem_append, List.forall_mem_cons, List.forall_mem_map]
    exact ⟨⟨⟨rfl, rfl, nofun⟩, fun _ _ => rfl⟩, rfl, nofun⟩
  rw [body_of_routesIndex made, mountCalls_append, mountCalls_eq_nil quiet, List.nil_append,
    List.nil_append, mountCalls_of_scope scope_mount, mounted_mounts, List.map_map]
  exact List.map_congr_left fun router listed =>
    Prod.ext meaning?_router_front (origin?_bound placed listed)

private theorem routes_ne_behaviors (module other : String) :
    "app.routes" ++ "." ++ module ≠ "app.app_behaviors" ++ "." ++ other := by
  intro same
  have starts := congrArg (fun text : String => text.toList.take 5) same
  simp only [String.toList_append (t := module), String.toList_append (t := other)] at starts
  have letters : "app.r".toList = "app.a".toList := starts
  exact absurd letters (by decide)

/-- A router of one of the two packages. -/
def InPackage (router : MountedRouter) : Prop :=
  router.package = "app.routes" ∨ router.package = "app.app_behaviors"

private theorem inPackage_of_placed {router : MountedRouter} (placed : Placed router) :
    InPackage router ∧ InPackage (asImported router) := by
  cases placed with
  | entity => exact ⟨Or.inl rfl, Or.inl rfl⟩
  | behavior => exact ⟨Or.inr rfl, Or.inr rfl⟩

theorem eq_of_routerOrigin_eq {router other : MountedRouter} (one : InPackage router)
    (two : InPackage other) (same : routerOrigin router = routerOrigin other) : router = other := by
  have joined : router.package ++ "." ++ router.module = other.package ++ "." ++ other.module :=
    (Prod.mk.inj same).1
  obtain ⟨package, module⟩ := router
  obtain ⟨package', module'⟩ := other
  rcases one with rfl | rfl <;> rcases two with rfl | rfl
  · exact congrArg (MountedRouter.mk _) ((String.append_right_inj _).mp joined)
  · exact absurd joined (routes_ne_behaviors _ _)
  · exact absurd joined.symm (routes_ne_behaviors _ _)
  · exact congrArg (MountedRouter.mk _) ((String.append_right_inj _).mp joined)

/-- The index mounts every one of some routers, nothing else, and nothing twice. -/
structure MountsOnce (module : Module) (routers : List MountedRouter) : Prop where
  mounted : ∀ given, given ∈ (mountCalls indexPackage [] module.body).map Prod.snd ↔
    ∃ router ∈ routers, given = some (routerOrigin router)
  once : ((mountCalls indexPackage [] module.body).map Prod.snd).Nodup

theorem mounted_of_nodup (made : routesIndex routers = .ok module)
    (placed : ∀ router ∈ routers, Placed router) (distinct : (routers.map importedName).Nodup) :
    (mountCalls indexPackage [] module.body).map Prod.snd =
      ((routers.map asImported).map routerOrigin).map some := by
  rw [mountCalls_routesIndex made placed, List.map_map, List.map_map, List.map_map]
  refine List.map_congr_left fun router listed => ?_
  simp only [Function.comp_apply, lastWith_of_nodup distinct listed, Option.map_some]

theorem mountsOnce_iff (made : routesIndex routers = .ok module)
    (placed : ∀ router ∈ routers, Placed router) :
    MountsOnce module routers ↔
      (routers.map importedName).Nodup ∧ ∀ router ∈ routers, asImported router ∈ routers := by
  have one {router : MountedRouter} (listed : router ∈ routers) := inPackage_of_placed (placed router listed)
  constructor
  · rintro ⟨mounted, once⟩
    -- What is mounted is told by the name of the module alone, so a shared name would make it be mounted
    -- twice.
    have distinct : (routers.map importedName).Nodup := by
      rw [mountCalls_routesIndex made placed, List.map_map] at once
      exact nodup_of_lastWith once
    refine ⟨distinct, fun router listed => ?_⟩
    rw [mounted_of_nodup made placed distinct] at mounted
    obtain ⟨other, there, same⟩ := (mounted (some (routerOrigin (asImported router)))).mp
      (List.mem_map_of_mem (List.mem_map_of_mem (List.mem_map_of_mem listed)))
    rwa [eq_of_routerOrigin_eq (one listed).2 (one there).1 (Option.some.inj same)]
  · rintro ⟨distinct, closed⟩
    have apart : (routers.map asImported).Nodup := .of_map MountedRouter.module (by rwa [List.map_map])
    -- What is imported are as many of the routers as there are, so it is all of them.
    have all : (routers.map asImported).Perm routers := by
      refine (List.subperm_of_subset apart fun router inside => ?_).perm_of_length_le
        (by rw [List.length_map])
      obtain ⟨given, listed, rfl⟩ := List.mem_map.mp inside
      exact closed given listed
    refine ⟨fun given => ?_, ?_⟩
    · rw [mounted_of_nodup made placed distinct, List.map_map, (all.map _).mem_iff]
      simp [eq_comm]
    · have origins : ((routers.map asImported).map routerOrigin).Nodup := by
        refine List.Nodup.map_on (fun router here other there => ?_) apart
        have own {router : MountedRouter} (here : router ∈ routers.map asImported) :=
          (one (all.mem_iff.mp here)).1
        exact eq_of_routerOrigin_eq (own here) (own there)
      rw [mounted_of_nodup made placed distinct]
      exact origins.map fun _ _ => Option.some.inj

end Index

section Registries

variable {registry : Registry} {produced : Produced}

/-- The routers that the index of a registry mounts. -/
def indexRouters (registry : Registry) : List MountedRouter :=
  entityRouters registry ++ appRouters registry

theorem placed_indexRouters {module : Module} (made : routesIndex (indexRouters registry) = .ok module) :
    ∀ router ∈ indexRouters registry, Placed router := by
  obtain ⟨_, checked, _⟩ := bind_eq_ok_iff.mp made
  have named := List.all_eq_true.mp (BusinessObject.all_isName_of_checkNames checked)
  intro router listed
  rcases List.mem_append.mp listed with served | called
  · obtain ⟨entity, _, rfl⟩ := List.mem_map.mp served
    have inside : routeModule entity.unit.name ∈
        (indexRouters registry).map MountedRouter.module := List.mem_map.mpr ⟨_, listed, rfl⟩
    have readable := named _ inside
    have unreadable : isName (routeModule "") = false := by decide +kernel
    refine .entity fun empty => ?_
    rw [empty, unreadable] at readable
    cases readable
  · obtain ⟨behavior, _, rfl⟩ := List.mem_map.mp called
    exact .behavior _

/-- An index that is generated is printed from its module. -/
theorem exists_module_of_generateRoutesIndex
    (success : (generateRoutesIndex registry).outcome = .ok produced) :
    ∃ module, routesIndex (indexRouters registry) = .ok module ∧ Prints module produced := by
  obtain ⟨module, made, success⟩ := Step.bind_eq_ok_iff.mp success
  obtain ⟨_, _, success⟩ := Step.bind_eq_ok_iff.mp success
  obtain ⟨text, printed, success⟩ := Step.bind_eq_ok_iff.mp success
  cases success
  exact ⟨module, made, text, printed, rfl⟩

/-- An index is generated if its module can be printed. -/
theorem exists_routesIndex_of_isPrintable (registry : Registry)
    (checked : Module.isPrintable (routesIndex (indexRouters registry)) = true) :
    ∃ text, (generateRoutesIndex registry).outcome = .ok (.text text) := by
  obtain ⟨module, text, made, printed⟩ := Module.exists_text_of_isPrintable generatedHeader checked
  rw [indexRouters] at made
  refine ⟨text, ?_⟩
  simp only [generateRoutesIndex, Step.outcome_bind, made, ok_bind, Step.outcome_ofExcept,
    Step.outcome_debug, printed, Step.outcome_pure]

/-- The index mounts the routers of all server entities and of all behaviors that clients may call, each
once and no other, exactly if their modules have names of their own, and what is imported for each of
them is one of them, as it is where their names are in normal form. It mounts in its own router, which
is the one that others import from it. -/
theorem routers_mounted_once_iff
    (success : (generateRoutesIndex registry).outcome = .ok produced) :
    ∃ module, Prints module produced ∧
      meaning? indexPackage module.body "router" = some (.defined indexRouter) ∧
      (∀ call ∈ mountCalls indexPackage [] module.body, call.1 = some (.defined indexRouter)) ∧
      (MountsOnce module (indexRouters registry) ↔
        ((indexRouters registry).map importedName).Nodup ∧
        ∀ router ∈ indexRouters registry, asImported router ∈ indexRouters registry) := by
  obtain ⟨module, made, printed⟩ := exists_module_of_generateRoutesIndex success
  have placed := placed_indexRouters made
  refine ⟨module, printed, meaning?_router made, ?_, mountsOnce_iff made placed⟩
  rw [mountCalls_routesIndex made placed]
  exact List.forall_mem_map.mpr fun _ _ => rfl

/-- A shop with an entity and a behavior that clients may call. -/
def shopUnits (behavior called : String) : List Design.Unit :=
  [.project { offset := 0, name := "Shop", defaultDataSource := "Main" },
    .dataSource { offset := 0, name := "Main", persistenceType := "Memory" },
    .entity { offset := 0, name := "Order" },
    .behavior
      { offset := 0, name := behavior, owner := "Shop", type := some "App"
        function := some ⟨called, false, [], none, "pass"⟩ }]

def restocking : Registry where
  units := Registry.declare none false 0 (shopUnits "Restock" "restock")
  distinct := by decide

theorem routers_mounted_once_restocking : ∃ produced module,
    (generateRoutesIndex restocking).outcome = .ok produced ∧ Prints module produced ∧
    MountsOnce module (indexRouters restocking) ∧
    (indexRouters restocking).map routerOrigin =
      [("app.routes.orders", "router"), ("app.app_behaviors.restock", "router")] := by
  obtain ⟨text, success⟩ := exists_routesIndex_of_isPrintable restocking (by decide)
  obtain ⟨module, printed, _, _, once⟩ := routers_mounted_once_iff success
  exact ⟨_, module, success, printed, once.mpr (by decide), by decide +kernel⟩

/-- A behavior that is called like the router of an entity. -/
def ordering : Registry where
  units := Registry.declare none false 0 (shopUnits "Orders" "orders")
  distinct := by decide

theorem exists_orderingIndex : ∃ produced module,
    (generateRoutesIndex ordering).outcome = .ok produced ∧
    routesIndex (indexRouters ordering) = .ok module ∧ Prints module produced := by
  obtain ⟨text, success⟩ := exists_routesIndex_of_isPrintable ordering (by decide +kernel)
  obtain ⟨module, made, printed⟩ := exists_module_of_generateRoutesIndex success
  exact ⟨_, module, success, made, printed⟩

/-- The router of the entity is never mounted, that of the behavior twice. -/
theorem behavior_router_mounted_twice : ∃ produced module,
    (generateRoutesIndex ordering).outcome = .ok produced ∧ Prints module produced ∧
    (indexRouters ordering).map routerOrigin =
      [("app.routes.orders", "router"), ("app.app_behaviors.orders", "router")] ∧
    (mountCalls indexPackage [] module.body).map Prod.snd =
      [some ("app.app_behaviors.orders", "router"), some ("app.app_behaviors.orders", "router")] ∧
    ¬MountsOnce module (indexRouters ordering) := by
  obtain ⟨produced, module, success, made, printed⟩ := exists_orderingIndex
  have placed := placed_indexRouters made
  refine ⟨produced, module, success, printed, by decide, ?_, ?_⟩
  · rw [mountCalls_routesIndex made placed]
    decide
  · rw [mountsOnce_iff made placed]
    decide

end Registries

end Blueprint.Generation
