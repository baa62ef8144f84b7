import Blueprint.Proofs.Text
import Blueprint.Proofs.ClientCode.Importing

namespace Blueprint.ClientCode

open Blueprint.Text

section Requested

variable (requests : List ImportRequest)

/-- The requests for a module. -/
def requestsFor (module : String) : List ImportRequest := requests.filter (·.module == module)

/-- The names requested of a module; an empty text is none. -/
def requestedNames (module : String) : List String :=
  ((requestsFor requests module).flatMap (·.names)).filter (· != "")

/-- The first name requested for the default value of a module; an empty text is none. -/
def firstDefault (module : String) : Option String :=
  (requestsFor requests module).findSome? fun request => request.default.filter (· != "")

/-- The modules from which something is requested, in the order of their first requests but for the
core module, which comes first. -/
def requestedModules : List String :=
  let modules := (requests.map (·.module)).eraseDups
  modules.filter (· == coreModule) ++ modules.filter (· != coreModule)

/-- The import that requests make of a module. -/
def mergedImport (module : String) : Import where
  module
  names := (requestedNames requests module).eraseDups
  default := firstDefault requests module

theorem mem_requestedNames_iff {module name : String} :
    name ∈ requestedNames requests module ↔
      name ≠ "" ∧ ∃ request ∈ requests, request.module = module ∧ name ∈ request.names := by
  simp only [requestedNames, requestsFor, List.mem_filter, List.mem_flatMap, beq_iff_eq, bne_iff_ne]
  constructor
  · rintro ⟨⟨request, ⟨listed, mine⟩, named⟩, visible⟩
    exact ⟨visible, request, listed, mine, named⟩
  · rintro ⟨visible, request, listed, mine, named⟩
    exact ⟨⟨request, ⟨listed, mine⟩, named⟩, visible⟩

private theorem nodup_requestedModules : (requestedModules requests).Nodup := by
  have distinct := nodup_eraseDups (requests.map (·.module))
  refine List.Nodup.append (distinct.filter _) (distinct.filter _) ?_
  intro module first other
  rw [List.mem_filter, beq_iff_eq] at first
  rw [List.mem_filter, bne_iff_ne] at other
  exact other.2 first.2

theorem mem_requestedModules_iff {module : String} :
    module ∈ requestedModules requests ↔ ∃ request ∈ requests, request.module = module := by
  simp only [requestedModules, List.mem_append, List.mem_filter, List.mem_eraseDups, List.mem_map,
    beq_iff_eq, bne_iff_ne]
  rw [← and_or_left]
  exact and_iff_left (em (module = coreModule))

end Requested

namespace Import

/-- Adding names to names without repetitions adds those that are new, each once. -/
theorem names_add {imported : Import} {known : List String}
    (distinct : imported.names = known.eraseDups) (names : List String) :
    (imported.add names).names = (known ++ names.filter (· != "")).eraseDups := by
  unfold add
  induction names generalizing imported known with
  | nil => simpa using distinct
  | cons name names ih =>
    rw [List.foldl_cons]
    by_cases empty : name = ""
    · subst empty
      simpa using ih distinct
    · rw [List.filter_cons_of_pos (by simpa using empty), List.append_cons known]
      refine ih ?_
      rw [eraseDups_concat, ← distinct]
      by_cases there : name ∈ imported.names
      · have old : name ∈ known := by simpa [distinct] using there
        simp [there, old]
      · have new : name ∉ known := by simpa [distinct] using there
        simp [empty, there, new]

@[simp] theorem default_add (imported : Import) (names : List String) :
    (imported.add names).default = imported.default := by
  unfold add
  induction names generalizing imported with
  | nil => rfl
  | cons name names ih =>
    rw [List.foldl_cons, ih]
    split <;> rfl

@[simp] theorem names_addDefault (imported : Import) (default : Option String) :
    (imported.addDefault default).names = imported.names := by
  unfold addDefault
  split
  · split <;> rfl
  · rfl

theorem default_addDefault (imported : Import) (default : Option String) :
    (imported.addDefault default).default =
      imported.default.or (default.filter (· != "")) := by
  unfold addDefault
  cases there : imported.default with
  | some name => simp [there]
  | none =>
    cases default with
    | none => simp [there]
    | some name => by_cases empty : name = "" <;> simp [there, empty, Option.filter]

/-- What a request does to the import of its module. -/
def meet (imported : Import) (request : ImportRequest) : Import :=
  (imported.add request.names).addDefault request.default

@[simp] theorem module_meet (imported : Import) (request : ImportRequest) :
    (imported.meet request).module = imported.module := by
  rw [meet, module_addDefault, module_add]

/-- The text of an import whose names are all there, in the order in which they are given. -/
def line (module : String) (default : Option String) (names : List String) : String :=
  let bindings := default.toList ++
    (if names.isEmpty then [] else ["\x7b " ++ ", ".intercalate names ++ " \x7d"])
  "import " ++ (if bindings.isEmpty then "" else ", ".intercalate bindings ++ " from ") ++
    quoted module ++ ";"

private theorem render_eq_line (imported : Import) :
    imported.render = line imported.module imported.default (sorted imported.names) := by
  have none_sorted : (sorted imported.names).isEmpty = imported.names.isEmpty := by
    rw [Bool.eq_iff_iff, List.isEmpty_iff, List.isEmpty_iff, ← List.length_eq_zero_iff,
      ← List.length_eq_zero_iff, sorted, List.length_mergeSort]
  simp only [render, line, none_sorted]
  split <;> split <;> simp_all [String.append_assoc]

end Import

section Merging

/-- The line that imports what is requested of a module. -/
def requestedLine (requests : List ImportRequest) (module : String) : String :=
  Import.line module (firstDefault requests module) (sortedSet (requestedNames requests module))

variable {requests : List ImportRequest} {request : ImportRequest} {module : String}

private theorem mergedImport_append_of_ne (other : request.module ≠ module) :
    mergedImport (requests ++ [request]) module = mergedImport requests module := by
  have apart : requestsFor (requests ++ [request]) module = requestsFor requests module := by
    simp [requestsFor, other]
  simp only [mergedImport, requestedNames, firstDefault, apart]

/-- A request for the module adds to its import what is new. -/
theorem mergedImport_append (requests : List ImportRequest) (request : ImportRequest) :
    mergedImport (requests ++ [request]) request.module =
      (mergedImport requests request.module).meet request := by
  have mine : requestsFor (requests ++ [request]) request.module =
      requestsFor requests request.module ++ [request] := by
    simp [requestsFor]
  have names : ((mergedImport requests request.module).meet request).names =
      (mergedImport (requests ++ [request]) request.module).names := by
    rw [Import.meet, Import.names_addDefault, Import.names_add rfl]
    simp only [mergedImport, requestedNames, mine, List.flatMap_append, List.filter_append,
      List.flatMap_singleton]
  have default : ((mergedImport requests request.module).meet request).default =
      (mergedImport (requests ++ [request]) request.module).default := by
    rw [Import.meet, Import.default_addDefault, Import.default_add]
    simp [mergedImport, firstDefault, mine, List.findSome?_append]
  have module := (mergedImport requests request.module).module_meet request
  cases met : (mergedImport requests request.module).meet request
  rw [met] at names default module
  simp only [mergedImport] at names default module ⊢
  rw [names, default, module]

/-- A request that was made before adds nothing. -/
theorem mergedImport_repeated (made : request ∈ requests) :
    mergedImport (requests ++ [request]) request.module = mergedImport requests request.module := by
  have mine : requestsFor (requests ++ [request]) request.module =
      requestsFor requests request.module ++ [request] := by
    simp [requestsFor]
  have before : request ∈ requestsFor requests request.module := by
    simpa [requestsFor] using made
  have names : (requestedNames (requests ++ [request]) request.module).eraseDups =
      (requestedNames requests request.module).eraseDups := by
    simp only [requestedNames, mine, List.flatMap_append, List.filter_append,
      List.flatMap_singleton, List.eraseDups_append, List.removeAll]
    have known : (request.names.filter (· != "")).filter (fun name =>
        !(((requestsFor requests request.module).flatMap (·.names)).filter (· != "")).elem name) =
        [] := by
      rw [List.filter_eq_nil_iff]
      intro name listed
      rw [List.mem_filter] at listed
      simpa using ⟨⟨request, before, listed.1⟩, by simpa using listed.2⟩
    rw [known]
    simp
  have default : firstDefault (requests ++ [request]) request.module =
      firstDefault requests request.module := by
    rw [firstDefault, firstDefault, mine, List.findSome?_append]
    cases found : (requestsFor requests request.module).findSome? fun request =>
        request.default.filter (· != "") with
    | some name => rfl
    | none => simpa using List.findSome?_eq_none_iff.mp found request before
  rw [mergedImport, mergedImport, names, default]

private theorem mergedImport_of_not_mem (missing : module ∉ requests.map (·.module)) :
    mergedImport requests module = { module } := by
  have none : requestsFor requests module = [] := by
    rw [requestsFor, List.filter_eq_nil_iff]
    intro request listed mine
    exact missing (List.mem_map.mpr ⟨request, listed, by simpa using mine⟩)
  simp [mergedImport, requestedNames, firstDefault, none]

/-- Another request for a known module keeps the order of modules. A new module goes to the end, the
core module to the front. -/
theorem requestedModules_append (requests : List ImportRequest) (request : ImportRequest) :
    requestedModules (requests ++ [request]) =
      if request.module ∈ requestedModules requests then requestedModules requests
      else if request.module = coreModule then request.module :: requestedModules requests
      else requestedModules requests ++ [request.module] := by
  have known : request.module ∈ requestedModules requests ↔
      request.module ∈ requests.map (·.module) := by
    rw [mem_requestedModules_iff, List.mem_map]
  rw [if_congr known rfl rfl]
  simp only [requestedModules, List.map_append, List.map_cons, List.map_nil, eraseDups_concat]
  split
  · rfl
  · rename_i there
    split
    · rename_i core
      have coreless : (requests.map (·.module)).eraseDups.filter (· == coreModule) = [] := by
        rw [List.filter_eq_nil_iff]
        intro module listed same
        rw [beq_iff_eq] at same
        rw [List.mem_eraseDups, same, ← core] at listed
        exact there listed
      simp [core, coreless]
    · rename_i other
      simp [other]

end Merging

namespace Source

variable {source : Source}

/-- Two changes of one import are one change. -/
theorem changeImport_changeImport {first second : Import → Import} {module : String}
    (keeps : ∀ imported, (first imported).module = imported.module) (imports : List Import) :
    changeImport module second (changeImport module first imports) =
      changeImport module (second ∘ first) imports := by
  have there : (changeImport module first imports).any (·.module == module) = true := by
    have listed : module ∈ (changeImport module first imports).map Import.module :=
      (mem_modules_changeImport keeps).mpr (Or.inr rfl)
    obtain ⟨imported, member, mine⟩ := List.mem_map.mp listed
    exact List.any_eq_true.mpr ⟨imported, member, by simpa using mine⟩
  rw [changeImport, if_pos there]
  unfold changeImport
  split
  · rw [List.map_map]
    refine List.map_congr_left fun imported _ => ?_
    by_cases mine : imported.module = module <;> simp [mine, keeps]
  · rename_i absent
    have others : imports.map (fun imported =>
        if imported.module == module then second imported else imported) = imports := by
      refine (List.map_congr_left fun imported listed => ?_).trans (List.map_id imports)
      have apart : ¬ imported.module = module := by
        intro mine
        exact absent (List.any_eq_true.mpr ⟨imported, listed, by simpa using mine⟩)
      simp [apart]
    split
    · rw [List.map_cons, others]
      simp [keeps]
    · rw [List.map_append, others]
      simp [keeps]

theorem imports_request (source : Source) (request : ImportRequest) :
    (source.request request).imports =
      changeImport request.module (·.meet request) source.imports := by
  change changeImport request.module (·.addDefault request.default)
    (changeImport request.module (·.add request.names) source.imports) = _
  rw [changeImport_changeImport fun imported => imported.module_add request.names]
  rfl

theorem addImport_eq_request (source : Source) (module : String) (names : List String) :
    source.addImport module names = source.request { module, names } := by
  have kept : (fun imported : Import => imported.meet { module, names }) = (·.add names) := by
    funext imported
    cases there : (imported.add names).default <;> simp [Import.meet, Import.addDefault]
  have imports := imports_request source { module, names }
  rw [kept] at imports
  rw [addImport, ← imports]
  rfl

theorem addDefaultImport_eq_request (source : Source) (module : String)
    (default : Option String) :
    source.addDefaultImport module default = source.request { module, default } := by
  have imports := imports_request source { module, default }
  change _ = changeImport module (·.addDefault default) source.imports at imports
  rw [addDefaultImport, ← imports]
  rfl

theorem changeImport_map {importOf : String → Import} {change : Import → Import} {module : String}
    (named : ∀ other, (importOf other).module = other) (modules : List String) :
    changeImport module change (modules.map importOf) =
      if module ∈ modules then
        modules.map fun other => if other = module then change (importOf other) else importOf other
      else if module = coreModule then change { module } :: modules.map importOf
      else modules.map importOf ++ [change { module }] := by
  have there : ((modules.map importOf).any (·.module == module)) = true ↔ module ∈ modules := by
    simp [named]
  unfold changeImport
  rw [if_congr there rfl rfl]
  simp [List.map_map, Function.comp_def, named]

/-- The imports of a file are those that the requests make, one for each module. -/
theorem imports_foldl_request (bare : source.imports = []) (requests : List ImportRequest) :
    (requests.foldl request source).imports =
      (requestedModules requests).map (mergedImport requests) := by
  induction requests using List.reverseRecOn with
  | nil => simpa [requestedModules] using bare
  | append_singleton requests wanted ih =>
    rw [List.foldl_append, List.foldl_cons, List.foldl_nil, imports_request, ih,
      changeImport_map fun _ => rfl, requestedModules_append]
    -- The import of the module is merged with the request; those of other modules stay.
    have merged : ∀ other, mergedImport (requests ++ [wanted]) other =
        if other = wanted.module then (mergedImport requests other).meet wanted
        else mergedImport requests other := by
      intro other
      split
      · rename_i mine
        subst mine
        exact mergedImport_append requests wanted
      · rename_i apart
        exact mergedImport_append_of_ne (Ne.symm apart)
    by_cases there : wanted.module ∈ requestedModules requests
    · rw [if_pos there, if_pos there]
      exact List.map_congr_left fun other _ => (merged other).symm
    · have kept : (requestedModules requests).map (mergedImport (requests ++ [wanted])) =
          (requestedModules requests).map (mergedImport requests) := by
        refine List.map_congr_left fun other listed => ?_
        have apart : other ≠ wanted.module := by
          rintro rfl
          exact there listed
        rw [merged, if_neg apart]
      have made : mergedImport (requests ++ [wanted]) wanted.module =
          Import.meet { module := wanted.module } wanted := by
        rw [mergedImport_append, mergedImport_of_not_mem]
        rwa [mem_requestedModules_iff, ← List.mem_map] at there
      rw [if_neg there, if_neg there]
      split <;> simp [kept, made]

private theorem module_comp_mergedImport (requests : List ImportRequest) :
    Import.module ∘ mergedImport requests = id := rfl

private theorem foldl_request_eq (source : Source) (requests : List ImportRequest) :
    requests.foldl request source =
      { source with imports := (requests.foldl request source).imports } := by
  induction requests generalizing source with
  | nil => rfl
  | cons wanted requests ih => exact ih (source.request wanted)

private theorem filter_requestedModules (requests : List ImportRequest) :
    (requestedModules requests).filter (· == coreModule) ++
      (requestedModules requests).filter (· != coreModule) = requestedModules requests := by
  simp [requestedModules, List.filter_filter, bne]

/-- The text of a file that was built by requests. -/
theorem render_foldl_request (name : String) (requests : List ImportRequest) :
    (requests.foldl request { name }).render =
      unlines ((requestedModules requests).map (requestedLine requests)) ++ "\n" := by
  have lines : Import.render ∘ mergedImport requests = requestedLine requests := by
    funext module
    rw [Function.comp_apply, Import.render_eq_line]
    rfl
  have parts (accepts : String → Bool) :
      (((requestedModules requests).map (mergedImport requests)).filter fun imported =>
        accepts imported.module).map Import.render =
      ((requestedModules requests).filter accepts).map (requestedLine requests) := by
    rw [List.filter_map, List.map_map, lines]
    rfl
  rw [foldl_request_eq, imports_foldl_request rfl, render]
  simp only [List.map_append, parts (· == coreModule), parts (· != coreModule)]
  rw [← List.map_append, filter_requestedModules]
  cases requestedModules requests <;> simp [unlines]

/-- A request that was made before changes nothing. -/
theorem request_eq_self (bare : source.imports = []) {requests : List ImportRequest}
    {wanted : ImportRequest} (made : wanted ∈ requests) :
    (requests.foldl request source).request wanted = requests.foldl request source := by
  have again : (requests ++ [wanted]).foldl request source =
      (requests.foldl request source).request wanted := by
    rw [List.foldl_append, List.foldl_cons, List.foldl_nil]
  have imports : ((requests.foldl request source).request wanted).imports =
      (requests.foldl request source).imports := by
    have known : wanted.module ∈ requestedModules requests :=
      (mem_requestedModules_iff requests).mpr ⟨wanted, made, rfl⟩
    rw [← again, imports_foldl_request bare, imports_foldl_request bare, requestedModules_append,
      if_pos known]
    refine List.map_congr_left fun module _ => ?_
    by_cases mine : wanted.module = module
    · subst mine
      exact mergedImport_repeated made
    · exact mergedImport_append_of_ne mine
  change { requests.foldl request source with
    imports := ((requests.foldl request source).request wanted).imports } = _
  rw [imports]

end Source

/-- Two rows of requests agree on the order in which modules are first requested, on the set of names
of each module and on its first default value. -/
structure AskTheSame (requests others : List ImportRequest) : Prop where
  modules : (requests.map (·.module)).eraseDups = (others.map (·.module)).eraseDups
  names : ∀ module name, name ∈ requestedNames requests module ↔ name ∈ requestedNames others module
  defaults : ∀ module, firstDefault requests module = firstDefault others module

theorem AskTheSame.lines {requests others : List ImportRequest}
    (same : AskTheSame requests others) :
    (requestedModules requests).map (requestedLine requests) =
      (requestedModules others).map (requestedLine others) := by
  have modules : requestedModules requests = requestedModules others := by
    simp only [requestedModules, same.modules]
  rw [modules]
  refine List.map_congr_left fun module _ => ?_
  rw [requestedLine, requestedLine, same.defaults,
    sortedSet_congr fun name => same.names module name]

/-- The imports of a file that starts empty, after any row of requests. There is one import for each
module that is requested; its names are those requested of the module, each once and none of them
empty, and its default value is the first that is requested. The text has a line for each import,
that of the core module first and the others in the order of their first requests, with sorted names.
So requests that ask for the same give the same text, and a request that was made before changes
nothing. -/
theorem requests_merge (name : String) (requests : List ImportRequest) :
    let source := requests.foldl Source.request { name }
    source.modules.Nodup ∧
      (∀ module, module ∈ source.modules ↔ ∃ request ∈ requests, request.module = module) ∧
      (∀ imported ∈ source.imports, imported.names.Nodup ∧
        (∀ name, name ∈ imported.names ↔ name ≠ "" ∧
          ∃ request ∈ requests, request.module = imported.module ∧ name ∈ request.names) ∧
        imported.default = firstDefault requests imported.module) ∧
      source.render =
        unlines ((requestedModules requests).map (requestedLine requests)) ++ "\n" ∧
      (∀ others, AskTheSame requests others →
        (others.foldl Source.request { name }).render = source.render) ∧
      ∀ request ∈ requests, source.request request = source := by
  have imports (wanted : List ImportRequest) :
      (wanted.foldl Source.request { name }).imports =
        (requestedModules wanted).map (mergedImport wanted) :=
    Source.imports_foldl_request rfl wanted
  have render (wanted : List ImportRequest) : (wanted.foldl Source.request { name }).render =
      unlines ((requestedModules wanted).map (requestedLine wanted)) ++ "\n" :=
    Source.render_foldl_request name wanted
  refine ⟨?_, fun module => ?_, fun imported listed => ?_, render requests, fun others same => ?_,
    fun request made => Source.request_eq_self rfl made⟩
  · rw [Source.modules, imports, List.map_map, Source.module_comp_mergedImport, List.map_id]
    exact nodup_requestedModules requests
  · rw [Source.modules, imports, List.map_map, Source.module_comp_mergedImport, List.map_id]
    exact mem_requestedModules_iff requests
  · rw [imports] at listed
    obtain ⟨module, _, rfl⟩ := List.mem_map.mp listed
    refine ⟨nodup_eraseDups _, fun name => ?_, rfl⟩
    rw [mergedImport, List.mem_eraseDups]
    exact mem_requestedNames_iff requests
  · rw [render, render, same.lines]

def routed : List ImportRequest :=
  [{ module := "@angular/router", names := ["RouterLink"] },
    { module := coreModule, names := ["OnInit", "Component"] },
    { module := "debug", default := some "createDebug" },
    { module := coreModule, names := ["Component"] }]

/-- The same names in other rows and another default value that comes too late. -/
def reworded : List ImportRequest :=
  [{ module := "@angular/router", names := ["RouterLink", ""] },
    { module := coreModule, names := ["Component"] },
    { module := "debug", default := some "createDebug" },
    { module := "debug", default := some "debug" },
    { module := coreModule, names := ["Component", "OnInit"] }]

private theorem askTheSame_reworded : AskTheSame routed reworded where
  modules := by decide
  names := by
    intro module name
    rw [mem_requestedNames_iff, mem_requestedNames_iff]
    simp only [routed, reworded, List.exists_mem_cons_iff]
    simp
    tauto
  defaults := by
    intro module
    simp only [firstDefault, requestsFor, routed, reworded, List.filter_cons]
    split <;> split <;> split <;> simp_all

theorem requests_merge_routed :
    AskTheSame routed reworded ∧ (reworded.foldl Source.request { name := "x.ts" }).render =
      (routed.foldl Source.request { name := "x.ts" }).render :=
  have merged := requests_merge "x.ts" routed
  ⟨askTheSame_reworded, merged.2.2.2.2.1 reworded askTheSame_reworded⟩

end Blueprint.ClientCode
