import Blueprint.Proofs.Generation.AllGenerators
import Blueprint.Proofs.Generation.ClientClosure
import Blueprint.Proofs.Generation.RouterMounts
import Blueprint.Proofs.Server.StartupCalls

/-!
The imports of a run that ends without a failure are closed but for gaps: each file of code imports,
from what is generated, only modules for which an author asks, files of the run and gaps. A data
source that does not say how it keeps records is such a gap in a run that reports no failure.
-/

namespace Blueprint.Generation

open Design

section Closure

variable {registry : Registry} {targets : List String} {outcome : RunResult}

/-- Whatever is written is closed, each kind of file by what it imports. -/
theorem closed_of_written (completes : Completes registry targets outcome)
    (main : registry.mainProject?.isSome = true) (wellNamed : WellNamed registry) {path : String}
    {code : Code} {asked : String → Prop} (written : Written registry path code asked) :
    Closed registry outcome path code asked := by
  cases written with
  | schema _ tabulated made => exact closed_schema tabulated made
  | businessObject served built => exact closed_businessObject completes served built
  | router served built => exact closed_router completes served built
  | dataSource declared => exact closed_dataSource completes wellNamed declared
  | appBehavior _ _ built => exact closed_appBehavior built
  | routesIndex made => exact closed_routesIndex completes wellNamed made
  | startup made => exact closed_startup completes main made
  | runtime listed => exact closed_runtime listed
  | objectBase =>
    exact closed_clientRuntime completes main (by decide) (List.subset_append_left _ _)
  | formBase =>
    exact closed_clientRuntime completes main (by decide) (List.subset_append_right _ _)
  | clientObject declared resolved _ =>
    exact closed_clientObject completes main wellNamed declared resolved
  | formGroup declared _ resolved =>
    exact closed_formGroup completes main wellNamed declared resolved
  | component declared built => exact closed_component completes wellNamed declared built
  | page declared built => exact closed_page completes wellNamed declared built
  | pagesIndex => exact closed_pagesIndex completes wellNamed
  | appRoutes => exact closed_appRoutes completes _
  | config => exact closed_config completes main

/-- In a run without a failure, every file of code is printed from code whose imports of generated
modules are asked for by an author, files of the run, or gaps. -/
theorem imports_closed {workers : Int} {choices : Nat → Nat} {finished : Run}
    (returned : run registry allGenerators targets workers choices = .ok finished)
    (server : "server" ∈ targets) (client : "client" ∈ targets)
    (ended : finished.outcome.ok = true) (main : registry.mainProject?.isSome = true)
    (wellNamed : WellNamed registry) {path text : String}
    (listed : (path, text) ∈ finished.outcome.files) (isCode : isCode path = true) :
    ∃ code asked, Written registry path code asked ∧ code.text = .ok text ∧
      ∀ module ∈ code.modules, isGenerated module = true → asked module ∨
        ∃ file ∈ importFiles path module, finished.outcome.Holds file ∨ Gap registry file := by
  have completes := Completes.of_run returned server client ended
  obtain ⟨result, member, mine⟩ := RunResult.exists_result_of_mem_files listed
  rw [results_of_run returned] at member
  obtain ⟨site, visited, rfl⟩ := List.mem_map.mp member
  obtain ⟨code, asked, written, printed⟩ := exists_written visited mine isCode
  exact ⟨code, asked, written, printed, closed_of_written completes main wellNamed written⟩

end Closure

section Gaps

open Server

def order : Entity :=
  { offset := 0, name := "Order", properties := [plain "total" ⟨"number", false⟩] }

/-- A shop whose data source does not say how it keeps records. -/
def unkept : Registry where
  units := Registry.declare none false 0
    [.project { offset := 0, name := "Shop", defaultDataSource := "Main" },
      .dataSource { offset := 0, name := "Main" }, .entity order]
  distinct := by decide

/-- The sites of the shop. -/
def unkeptSites : List Site :=
  let ordered : Declared Design.Unit := ⟨.entity order, false, none, 2⟩
  [⟨0, schemaGenerator, some ordered⟩, ⟨1, Server.businessObjectGenerator, some ordered⟩,
    ⟨2, routeGenerator, some ordered⟩,
    ⟨3, dataSourceGenerator, some ⟨.dataSource { offset := 0, name := "Main" }, false, none, 1⟩⟩,
    ⟨5, routesIndexGenerator, none⟩, ⟨6, startupGenerator, none⟩, ⟨7, scaffoldGenerator, none⟩,
    ⟨8, Server.packageGenerator, none⟩, ⟨9, Client.businessObjectBaseGenerator, none⟩,
    ⟨10, Client.businessObjectGenerator, some ordered⟩, ⟨11, Client.formBaseGenerator, none⟩,
    ⟨12, Client.formGroupGenerator, some ordered⟩, ⟨16, Client.routesGenerator, none⟩,
    ⟨17, Client.configGenerator, none⟩, ⟨18, Client.stylesGenerator, none⟩,
    ⟨19, Client.packageGenerator, none⟩]

private theorem sites_unkept : sites unkept allGenerators ["server", "client"] = unkeptSites := rfl

private theorem wellNamed_unkept : WellNamed unkept := by
  intro declared listed
  have named : ∀ declared ∈ unkept.units, declared.name ≠ "" ∧
      declared.name.toList.all Text.isWord = true := by decide
  exact named declared listed

/-- The parts of the server of the shop are printed. -/
theorem printed_unkept :
    (∃ text, (generateSchema ⟨order, false, none, 2⟩ unkept).outcome = .ok (.text text)) ∧
    (∃ module text, (businessObject unkept order "Main").outcome = .ok module ∧
      module.render generatedHeader = .ok text ∧
      (Server.generateBusinessObject ⟨order, false, none, 2⟩ unkept).outcome = .ok (.text text)) ∧
    (∃ text, (generateRoute ⟨order, false, none, 2⟩ unkept).outcome = .ok (.text text)) ∧
    (∃ text, (generateRoutesIndex unkept).outcome = .ok (.text text)) ∧
    ∃ text, (generateStartup unkept).outcome = .ok (.text text) := by
  refine ⟨?_, ?_, ?_, ?_, ?_⟩
  · obtain ⟨schema, given⟩ : ∃ schema,
        (generateSchema ⟨order, false, none, 2⟩ unkept).outcome = .ok schema :=
      generateSchema_of_plain rfl rfl (by decide +kernel)
    obtain ⟨_, _, _, _, text, _, _, _, _, _, same⟩ := exists_table_of_generateSchema given
    exact ⟨text, same ▸ given⟩
  · have store : (storeOf unkept order).outcome = .ok "Main" := rfl
    obtain ⟨produced, given⟩ : ∃ produced,
        (Server.generateBusinessObject ⟨order, false, none, 2⟩ unkept).outcome = .ok produced :=
      exists_produced_of_isPrintable store rfl (by decide +kernel)
    obtain ⟨source, module, found, built, text, printed, same⟩ :=
      exists_businessObject_of_generate given
    cases store.symm.trans found
    exact ⟨module, text, built, printed, same ▸ given⟩
  · have checked : ServerCode.Module.isPrintable (router unkept order).outcome = true := by
      decide +kernel
    obtain ⟨module, text, built, printed⟩ :=
      ServerCode.Module.exists_text_of_isPrintable generatedHeader checked
    refine ⟨text, ?_⟩
    simp only [generateRoute, Step.outcome_bind, built, ok_bind, Step.outcome_ofExcept, printed,
      Step.outcome_pure]
  · exact exists_routesIndex_of_isPrintable unkept (by decide +kernel)
  · exact exists_startup_of_filled unkept rfl (by decide +kernel) (by decide)

/-- No site of the shop fails, and none has a file for the data source. -/
theorem results_unkept : ∀ site ∈ unkeptSites, (site.result unkept).state ≠ .failed ∧
    ∀ path ∈ (site.result unkept).files.map Prod.fst, path ∉ serverFiles "app.data_sources.main" := by
  have ofText {site : Site} {path : String} (accepted : site.accepted unkept = .ok true)
      (announced : site.generator.outputs site.unit = .ok [path])
      (given : ∃ text, (site.generator.generate site.unit unkept).outcome = .ok (.text text))
      (other : path ∉ serverFiles "app.data_sources.main") :
      (site.result unkept).state ≠ .failed ∧ ∀ path ∈ (site.result unkept).files.map Prod.fst,
        path ∉ serverFiles "app.data_sources.main" := by
    obtain ⟨text, given⟩ := given
    obtain ⟨state, files⟩ := site.generated_of_text accepted announced given
    rw [state, files]
    refine ⟨nofun, ?_⟩
    simpa using other
  obtain ⟨schema, ⟨_, text, _, _, object⟩, route, index, startup⟩ := printed_unkept
  simp only [unkeptSites, List.forall_mem_cons, List.not_mem_nil, false_implies, implies_true,
    and_true]
  refine ⟨ofText rfl rfl schema (by decide), ofText rfl rfl ⟨text, object⟩ (by decide),
    ofText rfl rfl route (by decide), ?_, ofText rfl rfl index (by decide),
    ofText rfl rfl startup (by decide), ?_, ofText rfl rfl ⟨_, rfl⟩ (by decide),
    ofText rfl rfl ⟨_, rfl⟩ (by decide), ofText rfl rfl ⟨_, rfl⟩ (by decide),
    ofText rfl rfl ⟨_, rfl⟩ (by decide), ofText rfl rfl ⟨_, rfl⟩ (by decide),
    ofText rfl rfl ⟨_, rfl⟩ (by decide), ofText rfl rfl ⟨_, rfl⟩ (by decide),
    ofText rfl rfl ⟨_, rfl⟩ (by decide), ofText rfl rfl ⟨_, rfl⟩ (by decide)⟩
  · -- A data source that does not say how it keeps records is skipped.
    refine ⟨by decide, ?_⟩
    intro path listed
    cases listed
  · have made : scaffoldGenerator.files none (.files scaffoldFiles) =
        .ok (OrderedMap.ofList scaffoldFiles) := files_of_announced rfl
    have ran : Site.result unkept ⟨7, scaffoldGenerator, none⟩ = _ := Site.result_of_made rfl made
    rw [ran]
    refine ⟨nofun, fun path listed => ?_⟩
    have apart : ∀ path ∈ scaffoldFiles.map Prod.fst,
        path ∉ serverFiles "app.data_sources.main" := by decide
    exact apart path (OrderedMap.mem_keys_ofList listed)

theorem run_unkept : ∃ finished,
    run unkept allGenerators ["server", "client"] 1 id = .ok finished ∧
      finished.outcome.ok = true ∧
      finished.outcome.results = unkeptSites.map (Site.result unkept) := by
  obtain ⟨finished, returned⟩ := exists_run unkept ["server", "client"] 1 id
  have results := results_of_run returned
  rw [sites_unkept] at results
  refine ⟨finished, returned, ?_, results⟩
  rw [RunResult.ok, RunResult.inState, List.isEmpty_iff, List.filter_eq_nil_iff, results]
  intro result listed
  obtain ⟨site, visited, rfl⟩ := List.mem_map.mp listed
  simpa using (results_unkept site visited).1

private theorem served_unkept : Served unkept ⟨order, false, none, 2⟩
    ⟨{ offset := 0, name := "Main" }, false, none, 1⟩ :=
  ⟨List.mem_cons_self, rfl, rfl⟩

theorem path_unkept :
    Server.businessObjectPath order.name = "server/app/business_objects/order.py" := by
  decide

theorem imports_closed_unkept : ∃ finished text,
    run unkept allGenerators ["server", "client"] 1 id = .ok finished ∧
    ("server/app/business_objects/order.py", text) ∈ finished.outcome.files ∧
    ∃ code asked, Written unkept "server/app/business_objects/order.py" code asked ∧
      code.text = .ok text ∧ ∀ module ∈ code.modules, isGenerated module = true → asked module ∨
        ∃ file ∈ importFiles "server/app/business_objects/order.py" module,
          finished.outcome.Holds file ∨ Gap unkept file := by
  obtain ⟨finished, returned, ended, _⟩ := run_unkept
  have completes := Completes.of_run returned List.mem_cons_self (by simp) ended
  have held := completes.holds_businessObject served_unkept
  rw [path_unkept] at held
  obtain ⟨⟨path, text⟩, listed, same⟩ := List.mem_map.mp held
  cases same
  exact ⟨finished, text, returned, listed, imports_closed returned List.mem_cons_self (by simp) ended
    rfl wellNamed_unkept listed (by decide)⟩

/-- The business object of the shop imports the module of its data source, for which no author asks.
The run reports no failure and has no such file. -/
theorem unkept_source_not_held : ∃ finished module text asked,
    run unkept allGenerators ["server", "client"] 1 id = .ok finished ∧
    finished.outcome.ok = true ∧ unkept.mainProject?.isSome = true ∧
    (∃ result ∈ finished.outcome.results,
      ("server/app/business_objects/order.py", text) ∈ result.files) ∧
    Written unkept "server/app/business_objects/order.py" (.tree module) asked ∧
    Code.text (.tree module) = .ok text ∧ "app.data_sources.main" ∈ Code.modules (.tree module) ∧
    isGenerated "app.data_sources.main" = true ∧ ¬asked "app.data_sources.main" ∧
    ∀ file ∈ importFiles "server/app/business_objects/order.py" "app.data_sources.main",
      ¬finished.outcome.Holds file := by
  obtain ⟨finished, returned, ended, results⟩ := run_unkept
  obtain ⟨_, ⟨module, text, built, printed, object⟩, _⟩ := printed_unkept
  have written := Written.businessObject served_unkept built
  rw [path_unkept] at written
  refine ⟨finished, module, text, _, returned, ended, rfl, ?_, written, printed, ?_,
    by decide, ?_, ?_⟩
  · have announced : Server.businessObjectGenerator.outputs
        (some ⟨.entity order, false, none, 2⟩) = .ok ["server/app/business_objects/order.py"] :=
      congrArg (fun path => Except.ok [path]) path_unkept
    have files := Site.generated_of_text
      ⟨1, Server.businessObjectGenerator, some ⟨.entity order, false, none, 2⟩⟩ rfl announced object
    refine ⟨_, ?_, files.2 ▸ List.mem_cons_self⟩
    rw [results]
    exact List.mem_map_of_mem (List.mem_cons_of_mem _ List.mem_cons_self)
  · have imported : ((businessObject unkept order "Main").outcome.toOption.any fun module =>
        module.modules.contains "app.data_sources.main") = true := by
      decide
    rw [built] at imported
    simpa [Except.toOption, Code.modules] using imported
  · rintro ⟨behaviors, attached, author⟩
    have none : (ActiveBehavior.ofEntity unkept order).outcome = .ok [] := rfl
    cases none.symm.trans attached
    obtain ⟨_, ⟨_, listed, _⟩, _⟩ := author
    cases listed
  · intro file listed held
    have here : importFiles "server/app/business_objects/order.py" "app.data_sources.main" =
        serverFiles "app.data_sources.main" := by decide
    rw [here] at listed
    obtain ⟨entry, inside, rfl⟩ := List.mem_map.mp held
    obtain ⟨result, member, mine⟩ := RunResult.exists_result_of_mem_files inside
    rw [results] at member
    obtain ⟨site, visited, rfl⟩ := List.mem_map.mp member
    exact (results_unkept site visited).2 _ (List.mem_map_of_mem mine) listed

end Gaps

end Blueprint.Generation
