import Mathlib.Data.List.Nodup
import Blueprint.Proofs.NormalForm
import Blueprint.Proofs.Server.BehaviorMethods
import Blueprint.Proofs.ServerCode.Editing
import Blueprint.Proofs.ServerCode.Scope

/-!
The behaviors that the entry point of a server runs once it has started. They are imported under the
names of their functions, one behind another, and called by these names when everything is defined. So
two functions of one name are one function to the entry point, that of the later behavior, and a
function that is called like something that the entry point defines itself is never reached. Names are
one if their normal forms are; a module is imported by the normal form of its name, too, while its file
keeps the name as it is written.
-/

namespace Blueprint.ServerCode

/-- A call of a function without arguments whose errors are caught and logged: whether it is awaited,
and the name of the function. -/
def Statement.attemptedCall? : Statement → Option (Bool × String)
  | attempt false [expr call] [.mk (some (.name "Exception")) none
      [expr (.call (.attribute (.name "logger") "exception") [.constant (.text _ _)] [])]] [] [] =>
    match call with
    | .await (.call (.name called) [] []) => some (true, called)
    | .call (.name called) [] [] => some (false, called)
    | _ => none
  | _ => none

/-- The calls that a function of a module attempts, in order, with the places that the functions they
reach were imported from. The function has no names of its own. -/
def Module.attemptedCalls (module : Module) (body : List Statement) :
    List (Bool × Option (String × String)) :=
  (body.filterMap Statement.attemptedCall?).map fun call =>
    (call.1, (meaning? none module.body call.2).bind Meaning.origin?)

end Blueprint.ServerCode

namespace Blueprint.Server

open Design ServerCode Generation

namespace Startup

/-- What stands at the start of every entry point. -/
def preamble (project : String) : List Statement :=
  [.documentation (project ++ " server."),
    .importingModule "logging",
    .importingModule "uuid",
    .importing "contextlib" ["asynccontextmanager"],
    .importing "fastapi" ["FastAPI", "Request"],
    .importing "fastapi.middleware.cors" ["CORSMiddleware"],
    .importing "app.core.config" ["settings"],
    .importing "app.core.errors" ["register_error_handlers"],
    .importing "app.core.logging" ["configure_logging", "set_request_id"],
    .importing "app.routes" ["router"]]

/-- What an entry point defines behind its imports. -/
def definitions (sources : List String) (behaviors : List ActiveBehavior) : List Statement :=
  [.expr (.call (.name "configure_logging") [] [.named "level" (setting "LOG_LEVEL")]),
    AppBehavior.loggerStatement "ddsl.main",
    .bind "DATA_SOURCES" (.list (sources.map fun source => .name (boundSource source))),
    runAfterStart behaviors,
    lifespan,
    createApp,
    .bind "app" (.apply (.name "create_app") [])]

/-- The names that every entry point defines itself. -/
def ownNames : List String :=
  ["logger", "DATA_SOURCES", "run_after_start", "lifespan", "create_app", "app"]

/-- The imports of an entry point, apart from those of behaviors. -/
def imports (project : String) (sources : List String) : List Statement :=
  preamble project ++ sources.map importSource

/-- The name under which a behavior is imported and called. -/
def calledName (behavior : ActiveBehavior) : String := identifier behavior.function.name

/-- What the entry point imports for a behavior: a module, and a function in it. -/
def origin (behavior : ActiveBehavior) : String × String :=
  ("app.app_behaviors." ++ identifier (appBehaviorModule behavior.name), calledName behavior)

/-- What is meant: the module of the behavior, and the function that it defines. -/
def meant (behavior : ActiveBehavior) : String × String :=
  ("app.app_behaviors." ++ appBehaviorModule behavior.name, calledName behavior)

variable {project name : String} {sources : List String} {behaviors : List ActiveBehavior}
  {module : Module}

theorem body_of_module (made : Startup.module project sources behaviors = .ok module) :
    module.body = imports project sources ++ behaviors.map importBehavior ++
      definitions sources behaviors := by
  obtain ⟨_, _, made⟩ := bind_eq_ok_iff.mp made
  cases made
  rfl

section Printing

private theorem filled_preamble (project : String) :
    (preamble project).tail.all (Module.isFilledStatement []) = true := by
  change (preamble "").tail.all (Module.isFilledStatement []) = true
  decide

private theorem filled_functions :
    [lifespan, createApp, .bind "app" (.apply (.name "create_app") [])].all
      (Module.isFilledStatement []) = true := by
  decide +kernel

/-- What an entry point has apart from what every entry point has. -/
def ownStatements (sources : List String) (behaviors : List ActiveBehavior) : List Statement :=
  sources.map importSource ++ behaviors.map importBehavior ++ (definitions sources behaviors).take 4

/-- An entry point can be printed if its documentation and its own statements can. -/
theorem isPrintable_module (named : checkNames (sources ++ behaviors.flatMap fun behavior =>
      [appBehaviorModule behavior.name, behavior.function.name]) = .ok ())
    (documented : Module.isFilledScope [] 0 [.documentation (project ++ " server.")] = true)
    (own : (ownStatements sources behaviors).all (Module.isFilledStatement []) = true) :
    Module.isPrintable (Startup.module project sources behaviors) = true := by
  have parts : (preamble project).tail ++ sources.map importSource ++ behaviors.map importBehavior ++
      definitions sources behaviors = (preamble project).tail ++ (ownStatements sources behaviors ++
        [lifespan, createApp, .bind "app" (.apply (.name "create_app") [])]) := by
    simp only [ownStatements, definitions, List.take_succ_cons, List.take_zero, List.append_assoc,
      List.cons_append, List.nil_append]
  have others : ((preamble project).tail ++ sources.map importSource ++
      behaviors.map importBehavior ++ definitions sources behaviors).all
        (Module.isFilledStatement []) = true := by
    rw [parts, List.all_append, List.all_append, filled_preamble, own, filled_functions]
    rfl
  rw [Startup.module, named]
  exact Bool.and_eq_true_iff.mpr ⟨documented, others⟩

end Printing

theorem names_definitions : ((definitions sources behaviors).flatMap (Statement.scope none)).map
    Prod.fst = ownNames := rfl

theorem meaning?_definitions_eq_none_iff :
    meaning? none (definitions sources behaviors) name = none ↔ name ∉ ownNames := by
  rw [meaning?, OrderedMap.last?_eq_none_iff, names_definitions]

theorem origin?_definitions {meaning : Meaning}
    (found : meaning? none (definitions sources behaviors) name = some meaning) :
    meaning.origin? = none := by
  have listed := List.mem_reverse.mp (OrderedMap.mem_of_lookup found)
  obtain ⟨statement, defined, here⟩ := List.mem_flatMap.mp listed
  have quiet : ∀ statement ∈ definitions sources behaviors, statement.bindings = [] := by
    simp only [definitions, List.forall_mem_cons]
    exact ⟨rfl, rfl, rfl, rfl, rfl, rfl, rfl, nofun⟩
  rw [Statement.scope, quiet statement defined, List.flatMap_nil, List.nil_append] at here
  obtain ⟨_, _, same⟩ := List.mem_map.mp here
  cases same
  rfl

private theorem meaning?_importBehaviors : meaning? none (behaviors.map importBehavior) name =
    (lastWith calledName behaviors name).map fun behavior =>
      .imported (.ofName (origin behavior).1 0 (.plain (origin behavior).2)) :=
  meaning?_map fun _ _ => meaning?_singleton (Statement.scope_importing _ _)

/-- What the name of a behavior's function stands for in the end: nothing that was imported if the entry
point defines the name itself, and else the function of the last behavior with this name. -/
theorem origin?_name (made : Startup.module project sources behaviors = .ok module)
    {behavior : ActiveBehavior} (listed : behavior ∈ behaviors) :
    (meaning? none module.body (calledName behavior)).bind Meaning.origin? =
      if calledName behavior ∈ ownNames then none
      else (lastWith calledName behaviors (calledName behavior)).map origin := by
  rw [body_of_module made, meaning?_append, meaning?_append, meaning?_importBehaviors]
  split
  · rename_i own
    cases defined : meaning? none (definitions sources behaviors) (calledName behavior) with
    | none => exact absurd own (meaning?_definitions_eq_none_iff.mp defined)
    | some meaning => exact origin?_definitions defined
  · rename_i other
    rw [meaning?_definitions_eq_none_iff.mpr other, Option.none_or]
    obtain ⟨last, found⟩ : ∃ last, lastWith calledName behaviors (calledName behavior) = some last :=
      exists_lastWith listed
    rw [found]
    rfl

theorem attemptedCall?_attempt (behavior : ActiveBehavior) : (attempt behavior).attemptedCall? =
    some (behavior.function.async, calledName behavior) := by
  unfold attempt calledName
  generalize identifier behavior.function.name = called
  cases behavior.function.async <;> rfl

/-- The statements of the function that runs the behaviors. -/
def runBody (behaviors : List ActiveBehavior) : List Statement :=
  if behaviors.isEmpty then [.pass] else behaviors.map attempt

private theorem filterMap_runBody : (runBody behaviors).filterMap Statement.attemptedCall? =
    behaviors.map fun behavior => (behavior.function.async, calledName behavior) := by
  cases behaviors with
  | nil => rfl
  | cons behavior behaviors =>
    rw [runBody, List.isEmpty_cons, if_neg Bool.false_ne_true, List.filterMap_map,
      ← List.filterMap_eq_map]
    exact List.filterMap_congr fun behavior _ => attemptedCall?_attempt behavior

theorem attemptedCalls_eq (made : Startup.module project sources behaviors = .ok module) :
    module.attemptedCalls (runBody behaviors) = behaviors.map fun behavior =>
      (behavior.function.async, if calledName behavior ∈ ownNames then none
        else (lastWith calledName behaviors (calledName behavior)).map origin) := by
  rw [Module.attemptedCalls, filterMap_runBody, List.map_map]
  exact List.map_congr_left fun behavior listed => Prod.ext rfl (origin?_name made listed)

/-- A function of a module calls the functions of some behaviors in order, each in an attempt of its own
and awaited if it is asynchronous, and none of them twice. -/
structure CallsOnce (module : Module) (body : List Statement) (behaviors : List ActiveBehavior) :
    Prop where
  attempts : ∀ statement ∈ body, statement = .pass ∨ statement.attemptedCall?.isSome
  reached : module.attemptedCalls body = behaviors.map fun behavior =>
    (behavior.function.async, some (meant behavior))
  distinct : (behaviors.map meant).Nodup

private theorem attempts_runBody : ∀ statement ∈ runBody behaviors,
    statement = .pass ∨ statement.attemptedCall?.isSome := by
  intro statement inside
  cases behaviors with
  | nil => exact Or.inl (List.mem_singleton.mp inside)
  | cons behavior behaviors =>
    obtain ⟨other, _, rfl⟩ := List.mem_map.mp inside
    exact Or.inr (by rw [attemptedCall?_attempt]; rfl)

private theorem origin_eq_meant_iff {behavior : ActiveBehavior} : origin behavior = meant behavior ↔
    identifier (appBehaviorModule behavior.name) = appBehaviorModule behavior.name := by
  unfold origin meant
  constructor
  · intro same
    have module := congrArg Prod.fst same
    exact (String.append_right_inj _).mp module
  · intro normal
    rw [normal]

/-- All calls reach the functions that are meant, each of which is called once, exactly if the
functions have names of their own that the entry point does not define, and the names of their modules
are in normal form. -/
theorem callsOnce_runBody_iff (made : Startup.module project sources behaviors = .ok module) :
    CallsOnce module (runBody behaviors) behaviors ↔ (behaviors.map calledName).Nodup ∧
      ∀ behavior ∈ behaviors, calledName behavior ∉ ownNames ∧
        identifier (appBehaviorModule behavior.name) = appBehaviorModule behavior.name := by
  constructor
  · rintro ⟨_, reached, distinct⟩
    rw [attemptedCalls_eq made, List.map_inj_left] at reached
    have kept (behavior : ActiveBehavior) (listed : behavior ∈ behaviors) :
        calledName behavior ∉ ownNames ∧
          (lastWith calledName behaviors (calledName behavior)).map origin =
            some (meant behavior) := by
      have same := (Prod.mk.inj (reached behavior listed)).2
      split at same
      · cases same
      · exact ⟨‹_›, same⟩
    -- What a call reaches is told by the name alone, so a shared name would make one function be called
    -- twice.
    have reaches : (behaviors.map fun behavior =>
        (lastWith calledName behaviors (calledName behavior)).map origin) =
          (behaviors.map meant).map some := by
      rw [List.map_map]
      exact List.map_congr_left fun behavior listed => (kept behavior listed).2
    have apart : (behaviors.map calledName).Nodup :=
      nodup_of_lastWith (reaches ▸ distinct.map fun _ _ => Option.some.inj)
    refine ⟨apart, fun behavior listed => ⟨(kept behavior listed).1, ?_⟩⟩
    have own := (kept behavior listed).2
    rw [lastWith_of_nodup apart listed, Option.map_some] at own
    exact origin_eq_meant_iff.mp (Option.some.inj own)
  · rintro ⟨distinct, apart⟩
    refine ⟨attempts_runBody, ?_, ?_⟩
    · rw [attemptedCalls_eq made]
      refine List.map_congr_left fun behavior listed => ?_
      obtain ⟨other, normal⟩ := apart behavior listed
      rw [if_neg other, lastWith_of_nodup distinct listed, Option.map_some,
        origin_eq_meant_iff.mpr normal]
    · refine .of_map Prod.snd ?_
      rwa [List.map_map]

section Imports

/-- The end of the names under which data sources are imported. -/
def sourceEnding : List Char := "_data_source".toList

theorem takeEnd_boundSource (source : String) :
    (boundSource source).toList.reverse.take 12 = sourceEnding.reverse := by
  rw [boundSource, identifier_append (by decide), String.toList_append, List.reverse_append]
  rfl

theorem names_preamble : (((preamble project).flatMap Statement.bindings).map Binding.name).Nodup ∧
    ∀ name ∈ ((preamble project).flatMap Statement.bindings).map Binding.name,
      name.toList.reverse.take 12 ≠ sourceEnding.reverse := by
  have names : ((preamble project).flatMap Statement.bindings).map Binding.name =
      ["logging", "uuid", "asynccontextmanager", "FastAPI", "Request", "CORSMiddleware", "settings",
        "register_error_handlers", "configure_logging", "set_request_id", "router"] := rfl
  rw [names]
  decide

theorem mem_bindings_imports {binding : Binding}
    (listed : binding ∈ (imports project sources).flatMap Statement.bindings) :
    binding ∈ (preamble project).flatMap Statement.bindings ∨ ∃ source, binding =
      .ofName ("app.data_sources." ++ identifier source) 0
        ⟨"data_source", some (boundSource source)⟩ := by
  rw [imports, List.flatMap_append, List.flatMap_map] at listed
  rcases List.mem_append.mp listed with fixed | stored
  · exact Or.inl fixed
  · obtain ⟨source, _, here⟩ := List.mem_flatMap.mp stored
    exact Or.inr ⟨source, List.mem_singleton.mp here⟩

theorem of_mem_imports {binding : Binding}
    (listed : binding ∈ (imports project sources).flatMap Statement.bindings) :
    binding.name ∉ ownNames ∧
      Text.after? "app.app_behaviors.".toList binding.module.toList = none := by
  rcases mem_bindings_imports listed with fixed | ⟨source, rfl⟩
  · have closed : ∀ binding ∈ (preamble "").flatMap Statement.bindings, binding.name ∉ ownNames ∧
        Text.after? "app.app_behaviors.".toList binding.module.toList = none := by
      decide
    exact closed binding fixed
  · refine ⟨fun own => ?_, ?_⟩
    · have apart : ∀ name ∈ ownNames, name.toList.reverse.take 12 ≠ sourceEnding.reverse := by decide
      exact apart _ own (takeEnd_boundSource source)
    · rw [Binding.module_ofName, String.toList_append]
      rfl

theorem eq_of_name_eq {binding other : Binding}
    (listed : binding ∈ (imports project sources).flatMap Statement.bindings)
    (listedToo : other ∈ (imports project sources).flatMap Statement.bindings)
    (same : other.name = binding.name) : other = binding := by
  rcases mem_bindings_imports listed with fixed | ⟨source, rfl⟩ <;>
    rcases mem_bindings_imports listedToo with fixedToo | ⟨sourceToo, rfl⟩
  · exact List.inj_on_of_nodup_map names_preamble.1 fixedToo fixed same
  · have ends := names_preamble.2 _ (List.mem_map_of_mem fixed)
    exact absurd (same ▸ takeEnd_boundSource sourceToo) ends
  · have ends := names_preamble.2 _ (List.mem_map_of_mem fixedToo)
    exact absurd (same ▸ takeEnd_boundSource source) ends
  · have named : boundSource sourceToo = boundSource source := same
    rw [boundSource, boundSource, identifier_append (by decide), identifier_append (by decide)] at named
    rw [boundSource, boundSource, identifier_append (by decide), identifier_append (by decide),
      (String.append_left_inj "_data_source").mp named]

/-- When all imports have run, each of them has given its name the meaning that it keeps. -/
theorem meaning?_imports {binding : Binding}
    (listed : binding ∈ (imports project sources).flatMap Statement.bindings) :
    meaning? none (imports project sources) binding.name = some (.imported binding) := by
  have quiet : ∀ statement ∈ preamble project, statement.definedNames = [] := by
    simp only [preamble, List.forall_mem_cons]
    exact ⟨rfl, rfl, rfl, rfl, rfl, rfl, rfl, rfl, rfl, rfl, nofun⟩
  have only : ∀ statement ∈ imports project sources, statement.scope none =
      statement.bindings.map fun binding => (binding.name, .imported binding) := by
    intro statement inside
    refine Statement.scope_of_definedNames ?_
    rcases List.mem_append.mp inside with fixed | stored
    · exact quiet statement fixed
    · obtain ⟨source, _, rfl⟩ := List.mem_map.mp stored
      rfl
  rw [meaning?, List.flatMap_congr only, ← List.map_flatMap]
  refine OrderedMap.last?_of_only (List.mem_map_of_mem listed) fun entry inside same => ?_
  obtain ⟨other, listedToo, rfl⟩ := List.mem_map.mp inside
  rw [eq_of_name_eq listed listedToo same]

/-- An import of the entry point itself keeps its meaning unless a behavior's function has its name. -/
theorem meaning?_import_iff (made : Startup.module project sources behaviors = .ok module)
    {binding : Binding} (listed : binding ∈ (imports project sources).flatMap Statement.bindings) :
    meaning? none module.body binding.name = some (.imported binding) ↔
      ∀ behavior ∈ behaviors, calledName behavior ≠ binding.name := by
  obtain ⟨own, apart⟩ := of_mem_imports listed
  rw [body_of_module made, meaning?_append, meaning?_append, meaning?_importBehaviors,
    meaning?_definitions_eq_none_iff.mpr own, Option.none_or, meaning?_imports listed]
  cases found : lastWith calledName behaviors binding.name with
  | none => exact iff_of_true rfl (lastWith_eq_none_iff.mp found)
  | some last =>
    obtain ⟨present, same⟩ := of_lastWith found
    refine iff_of_false (fun kept => ?_) fun free => free last present same
    -- The behavior's import has a module that no other import has.
    rw [Option.map_some, Option.some_or] at kept
    have bound := Meaning.imported.inj (Option.some.inj kept)
    have placed : binding.module.toList =
        "app.app_behaviors.".toList ++ (identifier (appBehaviorModule last.name)).toList := by
      rw [← bound, Binding.module_ofName, ← String.toList_append]
      rfl
    rw [placed, Text.after?_append] at apart
    exact Option.some_ne_none _ apart

end Imports

theorem meaning?_runAfterStart (made : Startup.module project sources behaviors = .ok module) :
    meaning? none module.body "run_after_start" = some (.defined
      (.function true "run_after_start" .empty (some .nothing) [] (runBody behaviors))) := by
  rw [body_of_module made, meaning?_append]
  rfl

end Startup

/-- An entry point that is generated is printed from its module. -/
theorem exists_module_of_generateStartup {registry : Registry} {produced : Produced}
    (success : (generateStartup registry).outcome = .ok produced) :
    ∃ module, Startup.module registry.projectName (connectedSources registry)
        (projectBehaviors registry .afterStart) = .ok module ∧ Prints module produced := by
  obtain ⟨module, made, success⟩ := Step.bind_eq_ok_iff.mp success
  obtain ⟨_, _, success⟩ := Step.bind_eq_ok_iff.mp success
  obtain ⟨text, printed, success⟩ := Step.bind_eq_ok_iff.mp success
  cases success
  exact ⟨module, made, text, printed, rfl⟩

/-- An entry point is generated if its documentation and its own statements can be printed. -/
theorem exists_startup_of_filled (registry : Registry)
    (named : checkNames (connectedSources registry ++ (projectBehaviors registry .afterStart).flatMap
      fun behavior => [appBehaviorModule behavior.name, behavior.function.name]) = .ok ())
    (documented :
      Module.isFilledScope [] 0 [.documentation (registry.projectName ++ " server.")] = true)
    (own : (Startup.ownStatements (connectedSources registry)
      (projectBehaviors registry .afterStart)).all (Module.isFilledStatement []) = true) :
    ∃ text, (generateStartup registry).outcome = .ok (.text text) := by
  obtain ⟨module, text, made, printed⟩ := Module.exists_text_of_isPrintable generatedHeader
    (Startup.isPrintable_module named documented own)
  refine ⟨text, ?_⟩
  simp only [generateStartup, Step.outcome_bind, made, ok_bind, Step.outcome_ofExcept,
    Step.outcome_debug, printed, Step.outcome_pure]

/-- The entry point calls the functions of all behaviors for the start once each exactly if they have
names of their own that the entry point does not define and modules with names in normal form; and its
own imports keep their meaning exactly if no such function has their name. -/
theorem after_start_called_once_iff {registry : Registry} {produced : Produced}
    (success : (generateStartup registry).outcome = .ok produced) :
    ∃ module body, Prints module produced ∧
      meaning? none module.body "run_after_start" =
        some (.defined (.function true "run_after_start" .empty (some .nothing) [] body)) ∧
      (Startup.CallsOnce module body (projectBehaviors registry .afterStart) ↔
        ((projectBehaviors registry .afterStart).map Startup.calledName).Nodup ∧
        ∀ behavior ∈ projectBehaviors registry .afterStart,
          Startup.calledName behavior ∉ Startup.ownNames ∧
          identifier (appBehaviorModule behavior.name) = appBehaviorModule behavior.name) ∧
      ∀ binding ∈ (Startup.imports registry.projectName (connectedSources registry)).flatMap
          Statement.bindings,
        (meaning? none module.body binding.name = some (.imported binding) ↔
          ∀ behavior ∈ projectBehaviors registry .afterStart,
            Startup.calledName behavior ≠ binding.name) := by
  obtain ⟨module, made, printed⟩ := exists_module_of_generateStartup success
  exact ⟨module, _, printed, Startup.meaning?_runAfterStart made,
    Startup.callsOnce_runBody_iff made, fun _ listed => Startup.meaning?_import_iff made listed⟩

/-- A behavior of the shop that runs after the start. -/
def startBehavior (name called : String) (async : Bool) : Design.Unit :=
  .behavior
    { offset := 0, name, owner := "Shop", type := some "After Start"
      function := some ⟨called, async, [], none, "pass"⟩ }

/-- A shop with two behaviors whose functions have names of their own. -/
def seeding : Registry where
  units := Registry.declare none false 0
    [.project { offset := 0, name := "Shop" }, startBehavior "SeedUsers" "seed_users" true,
      startBehavior "SeedOrders" "seed_orders" false]
  distinct := by decide

theorem after_start_called_once_seeding : ∃ produced module body,
    (generateStartup seeding).outcome = .ok produced ∧ Prints module produced ∧
    meaning? none module.body "run_after_start" =
      some (.defined (.function true "run_after_start" .empty (some .nothing) [] body)) ∧
    Startup.CallsOnce module body (projectBehaviors seeding .afterStart) ∧
    (projectBehaviors seeding .afterStart).map Startup.meant =
      [("app.app_behaviors.seed_users", "seed_users"),
        ("app.app_behaviors.seed_orders", "seed_orders")] := by
  obtain ⟨text, success⟩ := exists_startup_of_filled seeding rfl (by decide) (by decide)
  obtain ⟨module, body, printed, runs, once, _⟩ := after_start_called_once_iff success
  exact ⟨_, module, body, success, printed, runs, once.mpr (by decide), by decide⟩

/-- A shop with two behaviors whose functions have one name. -/
def seedingTwice : Registry where
  units := Registry.declare none false 0
    [.project { offset := 0, name := "Shop" }, startBehavior "SeedUsers" "seed" true,
      startBehavior "SeedOrders" "seed" true]
  distinct := by decide

/-- Both calls reach the function of the second behavior. -/
theorem later_function_called_twice : ∃ produced module body,
    (generateStartup seedingTwice).outcome = .ok produced ∧ Prints module produced ∧
    meaning? none module.body "run_after_start" =
      some (.defined (.function true "run_after_start" .empty (some .nothing) [] body)) ∧
    (projectBehaviors seedingTwice .afterStart).map Startup.meant =
      [("app.app_behaviors.seed_users", "seed"), ("app.app_behaviors.seed_orders", "seed")] ∧
    module.attemptedCalls body = [(true, some ("app.app_behaviors.seed_orders", "seed")),
      (true, some ("app.app_behaviors.seed_orders", "seed"))] ∧
    ¬Startup.CallsOnce module body (projectBehaviors seedingTwice .afterStart) := by
  obtain ⟨text, success⟩ := exists_startup_of_filled seedingTwice rfl (by decide) (by decide)
  obtain ⟨module, made, printed⟩ := exists_module_of_generateStartup success
  refine ⟨_, module, _, success, printed, Startup.meaning?_runAfterStart made, by decide,
    ?_, ?_⟩
  · rw [Startup.attemptedCalls_eq made]
    decide
  · rw [Startup.callsOnce_runBody_iff made]
    decide

end Blueprint.Server
