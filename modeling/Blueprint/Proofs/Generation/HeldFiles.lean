import Blueprint.Proofs.Generation.WrittenCode

namespace Blueprint.Generation

open Design

theorem matches_of_shows {α : Type} {view : Design.Unit → Option α} {kind : UnitKind}
    {name : α → String} {declared : Declared Design.Unit} {item : α}
    {accepts : Declared Design.Unit → Registry → Except Failure Bool}
    (shows : ShowsKind view kind name) (shown : view declared.unit = some item) :
    Trigger.matches ⟨kind, accepts⟩ declared = true := by
  rw [Trigger.matches, Declared.kind, shows.kind_eq shown]
  exact beq_self_eq_true _

section Acceptance

variable {registry : Registry} {declared : Declared Design.Unit}

theorem accepts_of_served {entity : Declared Entity} {store : Declared DataSource}
    (served : Served registry entity store) (shown : declared.unit.entity? = some entity.unit)
    (same : declared.withUnit entity.unit = entity) :
    Trigger.matches ⟨.entity, serverEntity⟩ declared = true ∧
      serverEntity declared registry = .ok true := by
  refine ⟨matches_of_shows entity?_shows shown, ?_⟩
  have isMain : declared.isLibrary = false := (congrArg Declared.isLibrary same).trans served.isMain
  unfold serverEntity
  rw [isMain, if_neg Bool.false_ne_true, shown]
  simp only [served.stored]
  rfl

theorem accepts_of_main (registry : Registry) {entity : Declared Entity} (isMain : entity.isLibrary = false)
    (shown : declared.unit.entity? = some entity.unit)
    (same : declared.withUnit entity.unit = entity) :
    Trigger.matches ⟨.entity, notLibrary⟩ declared = true ∧
      notLibrary declared registry = .ok true := by
  refine ⟨matches_of_shows entity?_shows shown, ?_⟩
  have isMain : declared.isLibrary = false := (congrArg Declared.isLibrary same).trans isMain
  rw [notLibrary, isMain]
  rfl

theorem someAccepts_of_main {generator : Generator}
    (listed : ⟨.project, notLibrary⟩ ∈ generator.triggers)
    (main : registry.mainProject?.isSome = true) : generator.SomeAccepts registry := by
  obtain ⟨project, found⟩ := Option.isSome_iff_exists.mp main
  obtain ⟨declared, member, shown, same⟩ := unit_of_mem_list (List.mem_of_find?_eq_some found)
  have isMain : declared.isLibrary = false := by
    have kept := List.find?_some found
    rw [Bool.not_eq_true'] at kept
    exact (congrArg Declared.isLibrary same).trans kept
  refine ⟨_, listed, declared, member, matches_of_shows project?_shows shown, ?_⟩
  simp only [notLibrary, isMain]
  rfl

end Acceptance

namespace Completes

variable {registry : Registry} {targets : List String} {outcome : RunResult}
  (completes : Completes registry targets outcome)

include completes

section Server

open Server

variable {entity : Declared Entity} {store : Declared DataSource}

theorem holds_schema (served : Served registry entity store) :
    outcome.Holds (schemaPath entity.unit.name) := by
  have known : schemaGenerator ∈ allGenerators := by simp [allGenerators, serverGenerators]
  have announced : schemaGenerator.outputs = byName fun name => [schemaPath name] := rfl
  refine completes.holds_text_of_listed known rfl rfl rfl
    served.declared (fun _ => accepts_of_served served) announced (fun _ => name_of_entity?)
    (neverSkips_generateSchema _ _) fun produced success => ?_
  obtain ⟨_, _, _, _, text, _, _, _, _, _, same⟩ := exists_table_of_generateSchema success
  exact ⟨text, same⟩

theorem holds_businessObject (served : Served registry entity store) :
    outcome.Holds (Server.businessObjectPath entity.unit.name) := by
  have known : Server.businessObjectGenerator ∈ allGenerators := by simp [allGenerators, serverGenerators]
  have announced : Server.businessObjectGenerator.outputs =
      byName fun name => [Server.businessObjectPath name] := rfl
  refine completes.holds_text_of_listed known rfl rfl rfl
    served.declared (fun _ => accepts_of_served served) announced (fun _ => name_of_entity?)
    (Server.neverSkips_generateBusinessObject _ _) fun produced success => ?_
  obtain ⟨_, _, _, _, text, _, same⟩ := exists_businessObject_of_generate success
  exact ⟨text, same⟩

/-- The router of a served entity is generated, and its file is there. -/
theorem holds_route (served : Served registry entity store) :
    (∃ module, (router registry entity.unit).outcome = .ok module) ∧
      outcome.Holds (routePath entity.unit.name) := by
  have known : routeGenerator ∈ allGenerators := by simp [allGenerators, serverGenerators]
  have announced : routeGenerator.outputs = byName fun name => [routePath name] := rfl
  obtain ⟨declared, produced, files, shown, given, made, held⟩ := completes.holds_of_listed known rfl
    rfl rfl served.declared (fun _ => accepts_of_served served) announced (neverSkips_generateRoute _ _)
  obtain ⟨module, built, text, _, rfl⟩ := exists_router_of_generate given
  have here : routeGenerator.outputs (some declared) = .ok [routePath entity.unit.name] := by
    rw [announced, byName, name_of_entity? shown]
  cases (files_text here).symm.trans made
  exact ⟨⟨module, built⟩, held _ List.mem_cons_self⟩

theorem holds_dataSource {source : Declared DataSource} (used : source ∈ usedDataSources registry)
    (kept : source.unit.persistenceType ≠ "") : outcome.Holds (dataSourcePath source.unit.name) := by
  have known : dataSourceGenerator ∈ allGenerators := by simp [allGenerators, serverGenerators]
  obtain ⟨listed, isUsed⟩ := List.mem_filter.mp used
  have announced : dataSourceGenerator.outputs = byName fun name => [dataSourcePath name] := rfl
  have given := generateDataSource_of_kept registry kept
  refine completes.holds_text_of_listed known rfl rfl rfl
    listed (fun declared shown same => ⟨matches_of_shows dataSource?_shows shown, ?_⟩) announced
    (fun _ => name_of_dataSource?) (given ▸ .ok _) fun produced success => ?_
  · simp only [isUsedDataSource, shown, same]
    exact congrArg Except.ok isUsed
  · exact ⟨_, Except.ok.inj (success.symm.trans given)⟩

theorem holds_appBehavior {behavior : Declared Behavior} {active : ActiveBehavior}
    (listed : behavior ∈ registry.behaviors)
    (isActive : projectBehavior? registry behavior = some active) :
    outcome.Holds (appBehaviorPath behavior.unit.name) := by
  have known : appBehaviorGenerator ∈ allGenerators := by simp [allGenerators, serverGenerators]
  unfold projectBehavior? at isActive
  split at isActive
  · rename_i ofProject
    split at isActive
    · rename_i type function typed written
      have announced : appBehaviorGenerator.outputs = byName fun name => [appBehaviorPath name] := rfl
      refine completes.holds_text_of_listed known rfl rfl rfl
        listed (fun declared shown same => ⟨matches_of_shows behavior?_shows shown, ?_⟩) announced
        (fun _ => name_of_behavior?) (neverSkips_generateAppBehavior _ typed written)
        fun produced success => ?_
      · simp only [isAppBehavior, shown, same]
        exact congrArg Except.ok ofProject
      · unfold generateAppBehavior at success
        simp only [typed, written] at success
        obtain ⟨_, _, success⟩ := Step.bind_eq_ok_iff.mp success
        obtain ⟨text, _, success⟩ := Step.bind_eq_ok_iff.mp success
        exact ⟨text, (Except.ok.inj success).symm⟩
    · cases isActive
  · cases isActive

theorem holds_routesIndex (main : registry.mainProject?.isSome = true) :
    outcome.Holds "server/app/routes/__init__.py" := by
  have known : routesIndexGenerator ∈ allGenerators := by simp [allGenerators, serverGenerators]
  refine completes.holds_of_aggregate known rfl
    (someAccepts_of_main List.mem_cons_self main) rfl (neverSkips_generateRoutesIndex _)
    fun produced success => ?_
  obtain ⟨_, _, success⟩ := Step.bind_eq_ok_iff.mp success
  obtain ⟨_, _, success⟩ := Step.bind_eq_ok_iff.mp success
  obtain ⟨text, _, success⟩ := Step.bind_eq_ok_iff.mp success
  exact ⟨text, (Except.ok.inj success).symm⟩

end Server

section Client

open Client

variable {entity : Declared Entity}

theorem holds_clientObject (listed : entity ∈ registry.entities) (isMain : entity.isLibrary = false) :
    outcome.Holds (Client.businessObjectPath entity.unit.name) := by
  have known : Client.businessObjectGenerator ∈ allGenerators := by simp [allGenerators, clientGenerators]
  have announced : Client.businessObjectGenerator.outputs =
      byName fun name => [Client.businessObjectPath name] := rfl
  refine completes.holds_text_of_listed known rfl rfl rfl
    listed (fun _ => accepts_of_main registry isMain) announced (fun _ => name_of_entity?)
    (Client.neverSkips_generateBusinessObject _ _) fun produced success => ?_
  obtain ⟨_, _, _, _, _, same⟩ := exists_source_of_generateBusinessObject success
  exact ⟨_, same⟩

theorem holds_formGroup (listed : entity ∈ registry.entities) (isMain : entity.isLibrary = false) :
    outcome.Holds (formGroupPath entity.unit.name) := by
  have known : formGroupGenerator ∈ allGenerators := by simp [allGenerators, clientGenerators]
  have announced : formGroupGenerator.outputs = byName fun name => [formGroupPath name] := rfl
  refine completes.holds_text_of_listed known rfl rfl rfl
    listed (fun _ => accepts_of_main registry isMain) announced (fun _ => name_of_entity?)
    (neverSkips_generateFormGroup _ _) fun produced success => ?_
  obtain ⟨_, _, _, same⟩ := exists_source_of_generateFormGroup success
  exact ⟨_, same⟩

theorem holds_component {component : Declared Component} (listed : component ∈ registry.components) :
    outcome.Holds (Client.componentBase component.unit.name ++ ".ts") := by
  have known : componentGenerator ∈ allGenerators := by simp [allGenerators, clientGenerators]
  have announced : componentGenerator.outputs =
      byName fun name => View.paths (Client.componentBase name) := rfl
  obtain ⟨_, produced, files, _, given, made, held⟩ := completes.holds_of_listed known rfl rfl rfl
    listed (fun declared shown _ => ⟨matches_of_shows component?_shows shown, rfl⟩) announced
    (neverSkips_generateComponent _ component)
  obtain ⟨view, _, given⟩ := Step.bind_eq_ok_iff.mp given
  cases given
  exact held _ (mem_paths_of_files made List.mem_cons_self)

theorem holds_page {page : Declared Page} (listed : page ∈ registry.pages) :
    outcome.Holds (Client.pageBase page.unit.name ++ ".ts") := by
  have known : pageGenerator ∈ allGenerators := by simp [allGenerators, clientGenerators]
  have announced : pageGenerator.outputs = byName fun name => View.paths (Client.pageBase name) := rfl
  obtain ⟨_, produced, files, _, given, made, held⟩ := completes.holds_of_listed known rfl rfl rfl
    listed (fun declared shown _ => ⟨matches_of_shows page?_shows shown, rfl⟩) announced
    (neverSkips_generatePage _ page)
  obtain ⟨view, _, given⟩ := Step.bind_eq_ok_iff.mp given
  cases given
  exact held _ (mem_paths_of_files made List.mem_cons_self)

theorem holds_pagesIndex {page : Declared Page} (listed : page ∈ registry.pages) :
    outcome.Holds "client/src/app/pages/index.ts" := by
  have known : pagesIndexGenerator ∈ allGenerators := by simp [allGenerators, clientGenerators]
  obtain ⟨declared, member, shown, _⟩ := unit_of_mem_list listed
  refine completes.holds_of_aggregate known rfl
    ⟨⟨.page, always⟩, List.mem_cons_self, declared, member, matches_of_shows page?_shows shown, rfl⟩ rfl
    (.ok _) fun produced success => ⟨_, (Except.ok.inj success).symm⟩

theorem holds_appRoutes (main : registry.mainProject?.isSome = true) :
    outcome.Holds "client/src/app/app.routes.ts" := by
  have known : routesGenerator ∈ allGenerators := by simp [allGenerators, clientGenerators]
  exact completes.holds_of_aggregate known rfl
    (someAccepts_of_main (List.mem_cons_of_mem _ List.mem_cons_self) main) rfl (.ok _)
    fun produced success => ⟨_, (Except.ok.inj success).symm⟩

theorem holds_objectBase (main : registry.mainProject?.isSome = true) :
    outcome.Holds (businessObjectsDirectory ++ "/" ++ "base.ts") := by
  have known : businessObjectBaseGenerator ∈ allGenerators := by simp [allGenerators, clientGenerators]
  exact completes.holds_of_aggregate known rfl
    (someAccepts_of_main List.mem_cons_self main) rfl (.ok _)
    fun produced success => ⟨_, (Except.ok.inj success).symm⟩

theorem holds_formBase (main : registry.mainProject?.isSome = true) :
    outcome.Holds (businessObjectsDirectory ++ "/" ++ "persisted-form-group.ts") := by
  have known : formBaseGenerator ∈ allGenerators := by simp [allGenerators, clientGenerators]
  exact completes.holds_of_aggregate known rfl
    (someAccepts_of_main List.mem_cons_self main) rfl (.ok _)
    fun produced success => ⟨_, (Except.ok.inj success).symm⟩

end Client

end Completes

end Blueprint.Generation
