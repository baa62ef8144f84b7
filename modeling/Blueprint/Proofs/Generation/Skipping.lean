import Blueprint.Generators
import Blueprint.Proofs.Resolve.Merging
import Blueprint.Proofs.Server.TableModule

namespace Blueprint

/-- The outcome is no reason to skip a unit. -/
def NeverSkips {α : Type} (outcome : Except Failure α) : Prop :=
  ∀ reason, outcome ≠ .error (.skipped reason)

namespace NeverSkips

variable {α β : Type}

theorem ok (value : α) : NeverSkips (.ok value : Except Failure α) := nofun

theorem of_error {outcome : Except Failure α} {failure : Failure} (one : NeverSkips outcome)
    (failed : outcome = .error failure) : NeverSkips (.error failure : Except Failure β) := by
  intro reason same
  exact one reason (failed.trans (congrArg _ (Except.error.inj same)))

theorem bind {first : Except Failure α} {next : α → Except Failure β} (one : NeverSkips first)
    (two : ∀ value, NeverSkips (next value)) : NeverSkips (first >>= next) := by
  intro reason
  cases ended : first with
  | ok value => exact two value reason
  | error failure =>
    exact one.of_error ended reason

theorem map {first : Except Failure α} (one : NeverSkips first) (change : α → β) :
    NeverSkips (first.map change) := by
  intro reason
  cases ended : first with
  | ok value => exact nofun
  | error failure =>
    exact one.of_error ended reason

theorem mapM {change : α → Except Failure β} (step : ∀ item, NeverSkips (change item))
    (items : List α) : NeverSkips (items.mapM change) := by
  induction items with
  | nil => exact ok []
  | cons item items ih =>
    rw [List.mapM_cons]
    exact (step item).bind fun _ => ih.bind fun _ => ok _

theorem of_isDesign {outcome : Except Failure α}
    (design : ∀ failure, outcome = .error failure → failure.isDesign = true) :
    NeverSkips outcome := by
  intro reason same
  exact absurd (design _ same) Bool.false_ne_true

theorem step_bind {first : Step α} {next : α → Step β} (one : NeverSkips first.outcome)
    (two : ∀ value, NeverSkips (next value).outcome) :
    NeverSkips (first >>= next).outcome := by
  rw [Step.outcome_bind]
  exact one.bind two

theorem ofExcept {outcome : Except Failure α} (one : NeverSkips outcome) :
    NeverSkips (Step.ofExcept outcome).outcome := one

end NeverSkips

open NeverSkips

section Resolving

variable (registry : Registry)

theorem exists_attach (behavior : Design.Behavior) (kind : Design.UnitKind) (owner : String) :
    ∃ attached, (behavior.attach kind owner).outcome = .ok attached := by
  unfold Design.Behavior.attach
  split
  · exact ⟨_, rfl⟩
  · exact ⟨_, rfl⟩
  · split
    · exact ⟨_, rfl⟩
    · exact ⟨_, rfl⟩

theorem exists_behaviorsOf (kind : Design.UnitKind) (owner : String) :
    ∃ behaviors, (ActiveBehavior.of registry kind owner).outcome = .ok behaviors := by
  unfold ActiveBehavior.of
  generalize registry.behaviors = behaviors
  induction behaviors with
  | nil => exact ⟨[], rfl⟩
  | cons behavior behaviors ih =>
    unfold ActiveBehavior.attached
    split
    · obtain ⟨here, attached⟩ := exists_attach behavior.unit kind owner
      obtain ⟨others, found⟩ := ih
      exact ⟨here.toList ++ others, by simp only [Step.outcome_bind, attached, found, ok_bind]; rfl⟩
    · exact ih

private theorem neverSkips_behaviorsOf (kind : Design.UnitKind) (owner : String) :
    NeverSkips (ActiveBehavior.of registry kind owner).outcome := by
  obtain ⟨behaviors, found⟩ := exists_behaviorsOf registry kind owner
  rw [found]
  exact ok behaviors

theorem neverSkips_ofEntity (entity : Design.Entity) :
    NeverSkips (ActiveBehavior.ofEntity registry entity).outcome := by
  have ofMixins (names : List String) :
      NeverSkips (ActiveBehavior.ofMixins registry names).outcome := by
    induction names with
    | nil => exact ok []
    | cons name names ih =>
      unfold ActiveBehavior.ofMixins
      split
      · exact step_bind (neverSkips_behaviorsOf _ _ _) fun _ => step_bind ih fun _ => ok _
      · exact ih
  exact step_bind (neverSkips_behaviorsOf _ _ _) fun _ => step_bind (ofMixins _) fun _ => ok _

variable {registry} in
theorem isDesign_of_resolveMixins {unit : Design.Unit} {failure : Failure}
    (failed : (MixinApplication.resolve registry unit).outcome = .error failure) :
    failure.isDesign = true := by
  have resolveFrom {owner : String} {names : List String}
      (failed : (MixinApplication.resolveFrom registry owner names).outcome = .error failure) :
      failure.isDesign = true := by
    induction names with
    | nil => cases failed
    | cons name names ih =>
      unfold MixinApplication.resolveFrom at failed
      split at failed
      · cases failed
        rfl
      · rename_i mixin _
        obtain ⟨behaviors, found⟩ := exists_behaviorsOf registry .mixin mixin.unit.name
        simp only [Step.outcome_bind, found, Step.outcome_debug, ok_bind] at failed
        cases others : (MixinApplication.resolveFrom registry owner names).outcome with
        | ok applications =>
          rw [others] at failed
          cases failed
        | error other =>
          rw [others] at failed
          cases failed
          exact ih others
  unfold MixinApplication.resolve at failed
  split at failed
  · exact resolveFrom failed
  · exact resolveFrom failed
  · cases failed
    rfl

private theorem neverSkips_resolveMixins (unit : Design.Unit) :
    NeverSkips (MixinApplication.resolve registry unit).outcome :=
  of_isDesign fun _ => isDesign_of_resolveMixins

private theorem neverSkips_mergeProperties (own : List Design.Property)
    (applications : List MixinApplication) :
    NeverSkips (MixinApplication.mergeProperties own applications).outcome := by
  rw [MixinApplication.mergeProperties_outcome]
  exact ok _

variable {registry} in
/-- What is wrong with the mixins of a unit is a design error. -/
theorem isDesign_of_effectiveProperties {unit : Design.Unit} {failure : Failure}
    (failed : (effectiveProperties registry unit).outcome = .error failure) :
    failure.isDesign = true := by
  unfold effectiveProperties at failed
  split at failed
  · cases failed
  · rw [Step.outcome_bind] at failed
    cases resolved : (MixinApplication.resolve registry unit).outcome with
    | ok applications =>
      rw [resolved, ok_bind, MixinApplication.mergeProperties_outcome] at failed
      cases failed
    | error other =>
      rw [resolved] at failed
      cases failed
      exact isDesign_of_resolveMixins resolved

theorem neverSkips_effectiveProperties (unit : Design.Unit) :
    NeverSkips (effectiveProperties registry unit).outcome :=
  of_isDesign fun _ => isDesign_of_effectiveProperties

theorem neverSkips_resolve (owner : Design.Entity) (properties : List Design.Property) :
    NeverSkips (Relationship.resolve registry owner properties).outcome :=
  of_isDesign fun _ failed => Relationship.isDesign_of_resolve failed

theorem neverSkips_identity (entity : Design.Entity) :
    NeverSkips (Identity.resolve entity).outcome := by
  rw [Identity.resolve_outcome]
  exact ok _

end Resolving

namespace ServerCode

theorem neverSkips_checkNames (names : List String) : NeverSkips (checkNames names) := by
  unfold checkNames
  split
  · exact ok _
  · exact nofun

private theorem neverSkips_readModule (text : String) : NeverSkips (readModule text) := by
  rcases readModule_cases text with ⟨body, read⟩ | unread
  · rw [read]
    exact ok body
  · rw [unread]
    exact nofun

namespace Module

variable (module : Module)

theorem neverSkips_render (header : String) : NeverSkips (module.render header) := by
  rcases render_cases module header with ⟨text, printed⟩ | failed
  · rw [printed]
    exact ok text
  · rw [failed]
    exact nofun

private theorem neverSkips_getClass (name : String) : NeverSkips (module.getClass name) := by
  unfold getClass
  split
  · exact ok _
  · exact nofun

theorem neverSkips_getFunction (name : String) : NeverSkips (module.getFunction name) := by
  unfold getFunction
  split
  · exact ok _
  · exact nofun

theorem neverSkips_addImportStatements (statements : List Statement) :
    NeverSkips (module.addImportStatements statements).result := by
  induction statements generalizing module with
  | nil => exact ok module
  | cons statement statements ih =>
    unfold addImportStatements
    split
    · exact ih _
    · rename_i failure failed
      unfold addImportStatement at failed
      split at failed
      · cases failed
      · cases failed
      · cases failed
        exact nofun

theorem neverSkips_spliceStatements (className method : String) (position : SplicePosition)
    (lead : List Statement) (body : String) :
    NeverSkips (module.spliceStatements className method position lead body) := by
  have getClass : NeverSkips (module.getClass className) := by
    unfold Module.getClass
    split
    · exact ok _
    · exact nofun
  have getMethod : NeverSkips (module.getMethod className method) := by
    refine getClass.bind fun body => ?_
    split
    · exact ok _
    · exact nofun
  have storeIndex : NeverSkips (module.storeIndex className method) := by
    refine getMethod.bind fun function => ?_
    split
    · exact ok _
    · exact nofun
  exact storeIndex.bind fun anchor => ok _

end Module

end ServerCode

namespace Server

open ServerCode

section Behaviors

variable (behavior : ActiveBehavior) (entities : List String) (className : String)

theorem neverSkips_behaviorParams (name : String) (seen : Bool) (params : List Design.Parameter) :
    NeverSkips (behaviorParams name entities seen params) := by
  induction params generalizing seen with
  | nil => exact ok []
  | cons param params ih =>
    unfold behaviorParams
    simp only
    split
    · exact nofun
    · exact (ih _).bind fun _ => ok _

theorem neverSkips_importStatements (imports : String) : NeverSkips (importStatements imports) := by
  unfold importStatements
  split
  · exact ok []
  · exact neverSkips_readModule _

private theorem neverSkips_otherImports (imports : String) : NeverSkips (otherImports imports) :=
  (neverSkips_importStatements imports).map _

theorem neverSkips_usedBusinessObjects (owner : Option String) :
    NeverSkips (usedBusinessObjects behavior owner) :=
  ((neverSkips_importStatements behavior.imports).map _).bind fun _ => ok _

theorem neverSkips_importBusinessObject (name : String) : NeverSkips (importBusinessObject name) :=
  (neverSkips_checkNames _).bind fun _ => ok _

theorem neverSkips_behaviorMethod : NeverSkips (behaviorMethod className behavior entities) :=
  (neverSkips_usedBusinessObjects _ _).bind fun _ =>
    (neverSkips_behaviorParams _ _ _ _).bind fun _ =>
    (neverSkips_checkNames _).bind fun _ =>
    (NeverSkips.mapM neverSkips_importBusinessObject _).bind fun _ =>
    (neverSkips_checkNames _).bind fun _ => ok _

theorem neverSkips_spliceInto (position : SplicePosition) (body : String) (methods : List String)
    (module : Module) : NeverSkips (spliceInto className position body methods module) := by
  induction methods generalizing module with
  | nil => exact ok module
  | cons method methods ih => exact (module.neverSkips_spliceStatements _ _ _ _ _).bind fun _ => ih _

private theorem neverSkips_addBehavior (module : Module) :
    NeverSkips (addBehavior className entities module behavior).outcome := by
  refine step_bind (neverSkips_otherImports _) fun _ =>
    step_bind (Module.neverSkips_addImportStatements _ _) fun module => ?_
  split
  · exact step_bind ((neverSkips_behaviorMethod _ _ _).bind fun _ => ok _) fun _ =>
      step_bind (ok _) fun _ => ok _
  · split
    · exact step_bind ((neverSkips_usedBusinessObjects _ _).bind fun _ => ok _) fun _ =>
        step_bind (neverSkips_spliceInto _ _ _ _ _) fun _ => step_bind (ok _) fun _ => ok _
    · exact ok _

private theorem neverSkips_addBehaviors (behaviors : List ActiveBehavior) (module : Module) :
    NeverSkips (addBehaviors className entities behaviors module).outcome := by
  induction behaviors generalizing module with
  | nil => exact ok module
  | cons behavior behaviors ih => exact step_bind (neverSkips_addBehavior _ _ _ _) fun _ => ih _

private theorem neverSkips_addEndpoints (entity : String) (idType : Expr)
    (behaviors : List ActiveBehavior) (module : Module) :
    NeverSkips (addEndpoints entity idType behaviors module).outcome := by
  induction behaviors generalizing module with
  | nil => exact ok module
  | cons behavior behaviors ih =>
    unfold addEndpoints
    split
    · exact step_bind ((neverSkips_checkNames _).bind fun _ => ok _) fun _ =>
        step_bind (ok _) fun _ => ih _
    · exact ih _

end Behaviors

section Generators

variable (registry : Registry)

private theorem neverSkips_tableSchema (entity : Design.Entity) :
    NeverSkips (tableSchema registry entity).outcome := by
  have ended := tableOutcome registry entity
  generalize (tableSchema registry entity).outcome = outcome at ended
  cases ended with
  | mixins failed => exact (neverSkips_effectiveProperties _ _).of_error failed
  | associations _ failed => exact (neverSkips_resolve _ _ _).of_error failed
  | defaults _ _ kind => exact fun reason failed => kind.noSkip reason (Except.error.inj failed)
  | referrer _ _ _ _ failed => exact (neverSkips_resolve _ _ _).of_error failed
  | made => exact ok _

theorem neverSkips_tableModule (table : TableSchema) : NeverSkips table.module := by
  have complete (body : List Statement) : NeverSkips (table.complete body) := by
    rcases table.complete_cases body with ⟨_, module, success, _⟩ | ⟨_, failed⟩
    · rw [success]
      exact ok module
    · rw [failed]
      exact nofun
  cases named : table.names.all isName with
  | true =>
    rw [TableSchema.module_of_names named]
    exact complete _
  | false =>
    rw [TableSchema.module_of_code named]
    exact (neverSkips_readModule _).bind fun _ => complete _

theorem neverSkips_generateSchema (declared : Declared Design.Entity) :
    NeverSkips (generateSchema declared registry).outcome :=
  step_bind (neverSkips_tableSchema _ _) fun _ => step_bind (neverSkips_tableModule _) fun _ =>
    step_bind (ok _) fun _ => step_bind (Module.neverSkips_render _ _) fun _ => ok _

private theorem neverSkips_resolveAssociations (entity : Design.Entity) :
    NeverSkips (resolveAssociations registry entity).outcome :=
  step_bind (neverSkips_effectiveProperties _ _) fun _ => neverSkips_resolve _ _ _

private theorem neverSkips_businessObject (entity : Design.Entity) (dataSource : String) :
    NeverSkips (businessObject registry entity dataSource).outcome := by
  unfold businessObject
  refine step_bind (neverSkips_identity _) fun _ => step_bind (neverSkips_checkNames _) fun _ => ?_
  exact step_bind (ofExcept (Module.neverSkips_getClass _ _)) fun _ =>
    step_bind (neverSkips_ofEntity _ _) fun _ => neverSkips_addBehaviors _ _ _ _

theorem neverSkips_generateBusinessObject (declared : Declared Design.Entity) :
    NeverSkips (generateBusinessObject declared registry).outcome := by
  have found : NeverSkips (registry.dataSourceFor declared.unit) := by
    unfold Registry.dataSourceFor
    simp only
    split
    · exact ok _
    · split
      · exact ok _
      · intro note skips
        cases skips
  have store : NeverSkips (storeOf registry declared.unit).outcome := by
    refine step_bind found fun source => ?_
    split
    · exact ok _
    · intro note skips
      cases skips
  exact step_bind store fun _ => step_bind (ok _) fun _ =>
    step_bind (neverSkips_resolveAssociations _ _) fun _ =>
    step_bind (neverSkips_businessObject _ _ _) fun _ =>
    step_bind (Module.neverSkips_render _ _) fun _ => ok _

private theorem neverSkips_router (entity : Design.Entity) :
    NeverSkips (router registry entity).outcome := by
  unfold router
  refine step_bind (neverSkips_identity _) fun _ =>
    step_bind (neverSkips_resolveAssociations _ _) fun _ =>
    step_bind (neverSkips_checkNames _) fun _ => ?_
  generalize Router.skeleton _ _ = skeleton
  exact step_bind (ofExcept (Module.neverSkips_getFunction _ _)) fun _ =>
    step_bind (ofExcept (Module.neverSkips_getFunction _ _)) fun _ => step_bind (neverSkips_ofEntity _ _) fun _ =>
    neverSkips_addEndpoints _ _ _ _

theorem neverSkips_generateRoute (declared : Declared Design.Entity) :
    NeverSkips (generateRoute declared registry).outcome :=
  step_bind (neverSkips_router _ _) fun _ => step_bind (Module.neverSkips_render _ _) fun _ => ok _

/-- A data source that says how it keeps records is generated. -/
theorem generateDataSource_of_kept {declared : Declared Design.DataSource}
    (kept : declared.unit.persistenceType ≠ "") :
    (generateDataSource declared registry).outcome = .ok (.text (generatedHeader ++ "\n" ++
      Text.unlines (dataSourceLines declared.unit (storedEntities registry declared.unit)))) := by
  have loop (entities : List Design.Entity) (found : List Identity) : ∃ identities,
      (List.mapM.loop Identity.resolve entities found).outcome = .ok identities := by
    induction entities generalizing found with
    | nil => exact ⟨_, rfl⟩
    | cons entity entities ih =>
      obtain ⟨identities, success⟩ := ih (Identity.of entity :: found)
      refine ⟨identities, ?_⟩
      rw [List.mapM.loop, Step.outcome_bind, Identity.resolve_outcome, ok_bind, success]
  obtain ⟨identities, resolved⟩ : ∃ identities,
      ((storedEntities registry declared.unit).mapM Identity.resolve).outcome = .ok identities :=
    loop _ []
  have said : declared.unit.persistenceType.isEmpty = false := by
    simpa [String.isEmpty_iff] using kept
  unfold generateDataSource
  simp only [said, Bool.false_eq_true, ↓reduceIte]
  split <;> split <;>
    simp only [Step.warning, Step.debug, Step.outcome_bind, Step.outcome_note, Step.outcome_pure,
      resolved, ok_bind]

/-- A data source that does not say how it keeps records is skipped. -/
theorem generateDataSource_of_unkept {declared : Declared Design.DataSource}
    (unsaid : declared.unit.persistenceType = "") :
    (generateDataSource declared registry).outcome =
      .error (.skipped ("data source " ++ declared.unit.name ++ " has no persistenceType")) := by
  have empty : declared.unit.persistenceType.isEmpty = true := by
    rw [unsaid]
    rfl
  simp only [generateDataSource, empty, ↓reduceIte]
  rfl

/-- A behavior of a project with a type and a function is not skipped. -/
theorem neverSkips_generateAppBehavior {declared : Declared Design.Behavior}
    {type : Design.BehaviorType} {function : Design.Function}
    (typed : declared.unit.type? = some type) (written : declared.unit.function = some function) :
    NeverSkips (generateAppBehavior declared registry).outcome := by
  unfold generateAppBehavior
  rw [typed, written]
  refine step_bind (step_bind (neverSkips_behaviorParams _ _ _ _) fun _ =>
    step_bind (neverSkips_checkNames _) fun _ => step_bind (ofExcept (Module.neverSkips_getFunction _ _)) fun _ =>
    step_bind (neverSkips_otherImports _) fun _ =>
    step_bind (Module.neverSkips_addImportStatements _ _) fun _ =>
    step_bind (neverSkips_usedBusinessObjects _ _) fun _ =>
    step_bind (NeverSkips.mapM neverSkips_importBusinessObject _) fun _ =>
    step_bind (Module.neverSkips_addImportStatements _ _) fun _ => ?_) fun _ =>
      step_bind (Module.neverSkips_render _ _) fun _ => ok _
  split
  · exact step_bind ((neverSkips_checkNames _).bind fun _ => ok _) fun _ =>
      step_bind (ok _) fun _ => ok _
  · exact ok _

theorem neverSkips_generateRoutesIndex : NeverSkips (generateRoutesIndex registry).outcome :=
  step_bind ((neverSkips_checkNames _).bind fun _ => ok _) fun _ => step_bind (ok _) fun _ =>
    step_bind (Module.neverSkips_render _ _) fun _ => ok _

end Generators

end Server

namespace Client

open Design

variable (registry : Registry)

theorem neverSkips_generateBusinessObject (declared : Declared Entity) :
    NeverSkips (generateBusinessObject declared registry).outcome :=
  step_bind (neverSkips_identity _) fun _ => step_bind (neverSkips_effectiveProperties _ _) fun _ =>
    step_bind (neverSkips_resolve _ _ _) fun _ => step_bind (neverSkips_ofEntity _ _) fun _ => ok _

theorem neverSkips_generateFormGroup (declared : Declared Entity) :
    NeverSkips (generateFormGroup declared registry).outcome :=
  step_bind (neverSkips_identity _) fun _ =>
    step_bind (step_bind (neverSkips_identity _) fun _ =>
      step_bind (neverSkips_effectiveProperties _ _) fun _ =>
      step_bind (neverSkips_resolve _ _ _) fun _ => ok _) fun _ => step_bind (ok _) fun _ => ok _

theorem neverSkips_start (design : ViewDesign) (className lead : String) :
    NeverSkips (View.start design className lead).outcome := by
  have specs (imports : List ImportSpec) (view : View) :
      NeverSkips (View.addImportSpecs lead imports view).outcome := by
    induction imports generalizing view with
    | nil => exact ok view
    | cons spec imports ih =>
      unfold View.addImportSpecs
      split
      · exact ih _
      · split
        · exact step_bind (ok _) fun _ => ih _
        · exact ih _
  exact step_bind (specs _ _) fun _ => ok _

theorem neverSkips_addMetadata (view : View) (design : ViewDesign) (place : ClientCode.Place)
    (selector stem suffix : String) :
    NeverSkips (view.addMetadata registry design place selector stem suffix).outcome := by
  have elements (excluded : Option String) (names : List String) :
      NeverSkips (Markup.elementsImports registry excluded names).outcome := by
    induction names with
    | nil => exact ok []
    | cons name names ih =>
      unfold Markup.elementsImports
      simp only
      split
      · exact step_bind (ok _) fun _ => step_bind ih fun _ => ok _
      · exact step_bind (ok _) fun _ => step_bind (ok _) fun _ => step_bind ih fun _ => ok _
  have needed (template : String) (excluded : Option String) :
      NeverSkips (Markup.templateImports registry template excluded).outcome := by
    unfold Markup.templateImports
    split
    · exact ok []
    · exact step_bind (elements _ _) fun _ => ok _
  exact step_bind (needed _ _) fun _ => ok _

theorem neverSkips_generateComponent (declared : Declared Component) :
    NeverSkips (generateComponent declared registry).outcome :=
  step_bind (step_bind (neverSkips_start _ _ _) fun _ =>
    step_bind (neverSkips_resolveMixins _ _) fun _ =>
    step_bind (neverSkips_mergeProperties _ _) fun _ => neverSkips_addMetadata _ _ _ _ _ _ _)
    fun _ => ok _

theorem neverSkips_gather {α : Type} {lines : α → Step (List String)}
    (step : ∀ item, NeverSkips (lines item).outcome) (items : List α) :
    NeverSkips (gather lines items).outcome := by
  induction items with
  | nil => exact ok []
  | cons item items ih => exact step_bind (step item) fun _ => step_bind ih fun _ => ok _

section Page

variable (page : Page)

theorem neverSkips_afterRead (property : Property) : NeverSkips (afterRead page property).outcome := by
  unfold afterRead
  split
  · exact ok []
  · split
    · exact ok _
    · exact step_bind (ok _) fun _ => ok _

private theorem neverSkips_paramLines (param : String) :
    NeverSkips (paramLines registry page param).outcome := by
  unfold paramLines
  simp only
  split
  · split
    · exact step_bind (ok _) fun _ => ok _
    · exact step_bind (neverSkips_afterRead _ _) fun _ => ok _
  · exact ok _
  · exact step_bind (ok _) fun _ => ok _

private theorem neverSkips_autoReadLines (routed : List String) (property : Property) :
    NeverSkips (autoReadLines registry page routed property).outcome := by
  unfold autoReadLines
  split
  · exact ok []
  · split
    · exact step_bind (ok _) fun _ => ok _
    · split
      · exact step_bind (ok _) fun _ => ok _
      · exact step_bind (neverSkips_afterRead _ _) fun _ => ok _

private theorem neverSkips_autoSaveLines (property : Property) :
    NeverSkips (autoSaveLines registry property).outcome := by
  unfold autoSaveLines
  split
  · exact ok []
  · split
    · exact step_bind (ok _) fun _ => ok _
    · exact ok _

theorem neverSkips_lifecycle : NeverSkips (lifecycle registry page).outcome := by
  have saving (saves : List String) (life : Lifecycle) : NeverSkips
      (if saves.isEmpty then pure life else pure { life with
        fields := injected "destroyRef" "DestroyRef" :: life.fields
        imports := (ClientCode.coreModule, ["DestroyRef", "inject"]) :: life.imports } :
          Step Lifecycle).outcome := by
    split
    · exact ok _
    · exact ok _
  refine step_bind (neverSkips_gather (neverSkips_autoSaveLines registry) _) fun saves => ?_
  simp only
  split
  · exact step_bind (neverSkips_gather (neverSkips_autoReadLines _ _ _) _) fun _ =>
      step_bind (ok _) fun _ => saving _ _
  · exact step_bind (neverSkips_gather (neverSkips_paramLines _ _) _) fun _ =>
      step_bind (neverSkips_gather (neverSkips_autoReadLines _ _ _) _) fun _ =>
      step_bind (ok _) fun _ => saving _ _

theorem neverSkips_addPageProperties (properties : List Property) (view : View) :
    NeverSkips (addPageProperties registry page properties view).outcome := by
  induction properties generalizing view with
  | nil => exact ok view
  | cons property properties ih =>
    refine step_bind ?_ fun _ => ih _
    unfold addPageProperty
    simp only
    split
    · exact ok _
    · split
      · exact step_bind (ok _) fun _ => ok _
      · exact ok _

theorem neverSkips_generatePage (declared : Declared Page) :
    NeverSkips (generatePage declared registry).outcome :=
  step_bind (step_bind (neverSkips_start _ _ _) fun _ =>
    step_bind (neverSkips_addPageProperties _ _ _ _) fun _ =>
    step_bind (neverSkips_lifecycle _ _) fun _ => neverSkips_addMetadata _ _ _ _ _ _ _) fun _ => ok _

end Page

end Client

end Blueprint
