import Blueprint.Verbatim.Client
import Blueprint.Proofs.Client.EntityImports
import Blueprint.Proofs.Naming
import Blueprint.Proofs.Server.Endpoints

namespace Blueprint.ServerCode.Statement

/-- The names of a method's parameters, without the receiver. -/
def keys : Statement → List String
  | function _ _ params _ _ _ => (params.all.map Param.name).tail
  | _ => []

end Blueprint.ServerCode.Statement

namespace Blueprint.Client

open Design ServerCode Server.BusinessObject

/-- The lines of a call of the base class that copy what is sent, key by key. -/
def copyParams : List String := [
  "    let httpParams = new HttpParams();",
  "    if (params) \x7b",
  "      for (const [key, value] of Object.entries(params)) \x7b",
  "        httpParams = httpParams.set(key, value);",
  "      \x7d",
  "    \x7d"]

/-- A call of the base class makes a request with a verb. Its second argument travels in the address
or as a body. -/
inductive Sends (helper verb : String) : Bool → Prop where
  | asBody (stands : [
      "  protected static " ++ helper ++ "<T>(url: string, body: any): Promise<T> \x7b",
      "    return firstValueFrom(this.httpClient." ++ verb ++ "<T>(url, body));",
      "  \x7d"] <:+: Runtime.businessObjectBase) : Sends helper verb false
  | inAddress (copied : Bool) (stands :
      ("  protected static " ++ helper ++
        "<T>(url: string, params?: Record<string, string>): Promise<T> \x7b") ::
      (if copied then copyParams else []) ++ [
      "    return firstValueFrom(this.httpClient." ++ verb ++ "<T>(url, \x7b params" ++
        (if copied then ": httpParams" else "") ++ " \x7d));",
      "  \x7d"] <:+: Runtime.businessObjectBase) : Sends helper verb true

/-- An object with the values of variables under their own names. -/
def objectOf (keys : List String) : String :=
  if keys.isEmpty then "\x7b\x7d" else "\x7b " ++ ", ".intercalate keys ++ " \x7d"

/-- An object as what is sent in an address, or as it is. -/
def argumentOf (entity : String) (asQuery : Bool) (keys : List String) : String :=
  if asQuery then entity ++ ".queryParams(" ++ objectOf keys ++ ")" else objectOf keys

/-- What a stub does: it makes one request, below the address of the entity's records. -/
def requestText (entity helper returns address : String) (asQuery : Bool) (keys : List String) :
    String :=
  "return " ++ entity ++ "." ++ helper ++ "<" ++ returns ++ ">(" ++
    ("`$\x7b" ++ entity ++ ".collectionUrl()\x7d" ++ address ++ "`") ++ ", " ++
    argumentOf entity asQuery keys ++ ");"

/-- The address of a path, with the identity of a record in the place that is kept for it. -/
def addressOf (identity path : String) : String :=
  String.ofList (Text.replaceText "\x7bid\x7d".toList ("$\x7bthis." ++ identity ++ "\x7d").toList
    path.toList)

/-- A behavior with the code that it becomes: a method of the business object, an endpoint, and a
stub. -/
structure RemoteCall where
  behavior : ActiveBehavior
  method : Statement
  endpoint : Statement
  stub : ClientCode.Method

/-- The names under which a stub sends arguments. -/
def RemoteCall.sent (call : RemoteCall) : List String := call.behavior.given.map Parameter.name

/-- The pieces of a call fit each other. -/
structure RemoteCall.Fits (call : RemoteCall) (entity : String) (identity : Identity)
    (verb path helper : String) : Prop where
  /-- The endpoint answers the verb of the behavior. -/
  answers : call.endpoint.route? = some (verb, path)
  verb_eq : verb = Text.lower call.behavior.httpMethod.name
  /-- The endpoint calls the method, and the stub has its name. -/
  method_named : call.method.functionName? = some (identifier call.behavior.function.name)
  calls : (Module.functionBody call.endpoint).filterMap Statement.calledMethod? =
    [identifier call.behavior.function.name]
  stub_named : call.stub.name = call.behavior.function.name
  /-- The stub makes its request with that verb, and sends arguments where the endpoint reads them. -/
  sends : Sends helper verb call.endpoint.readsQuery
  /-- The stub asks at the path of the endpoint, and the method takes what it sends. -/
  asks : ∃ returns, call.stub.body = requestText entity helper returns (addressOf identity.name path)
    call.endpoint.readsQuery call.sent
  keys : call.method.keys = call.sent.map identifier
  /-- The path has one place for an identity if the behavior is called on a record. -/
  onRecord : call.behavior.type = .ofInstance → ∃ rest, path = "/\x7bid\x7d/" ++ rest ∧
    addressOf identity.name path = "/$\x7bthis." ++ identity.name ++ "\x7d/" ++ rest ∧
    '\x7b' ∉ rest.toList ∧ call.stub.modifiers = []
  /-- The path has no place for an identity otherwise. -/
  onClass : call.behavior.type = .ofClass → addressOf identity.name path = path ∧
    '\x7b' ∉ path.toList ∧ call.stub.modifiers = ["static"]

section Addresses

variable {name : String}

/-- No brace stands in a name, in whatever case style. -/
theorem brace_not_mem_kebabCase (named : isName name = true) :
    '\x7b' ∉ (kebabCase name).toList := by
  intro inside
  rw [kebabCase, String.toList_ofList] at inside
  rcases Naming.mem_of_mem_joined (by decide) inside with joint | ⟨own, _⟩
  · exact absurd joint (by decide)
  · have identifier := (Bool.and_eq_true_iff.mp named).1
    cases chars : name.toList with
    | nil =>
      rw [chars] at own
      cases own
    | cons first rest =>
      rw [chars] at own identifier
      obtain ⟨starts, parts⟩ := Bool.and_eq_true_iff.mp identifier
      rcases List.mem_cons.mp own with rfl | later
      · exact absurd starts (by decide)
      · exact absurd (List.all_eq_true.mp parts _ later) (by decide)

private theorem addressOf_of_brace_not_mem (identity : String) {path : String}
    (absent : '\x7b' ∉ path.toList) : addressOf identity path = path := by
  have kept : Text.replaceText "\x7bid\x7d".toList ("$\x7bthis." ++ identity ++ "\x7d").toList
    path.toList = path.toList := Text.replaceText_of_absent absent
  rw [addressOf, kept, String.ofList_toList]

theorem addressOf_record (identity : String) {rest : String} (absent : '\x7b' ∉ rest.toList) :
    addressOf identity ("/\x7bid\x7d/" ++ rest) =
      "/$\x7bthis." ++ identity ++ "\x7d/" ++ rest := by
  have parts : ("/\x7bid\x7d/" ++ rest).toList =
      ['/'] ++ (('\x7b' :: "id\x7d".toList) ++ (['/'] ++ rest.toList)) := by
    rw [String.toList_append]
    rfl
  have slash : '\x7b' ∉ ['/'] := by decide
  have kept : "\x7bid\x7d".toList = '\x7b' :: "id\x7d".toList := rfl
  rw [addressOf, parts, kept, Text.replaceText_append_of_absent slash,
    Text.replaceText_append_of_match, Text.replaceText_append_of_absent slash,
    Text.replaceText_of_absent absent]
  apply String.toList_inj.mp
  simp

end Addresses

section Calls

variable {entity : String} {entities : List String} {behavior : ActiveBehavior} {method : Statement}

theorem infix_of_drop {lines text : List String} (n : Nat)
    (same : (text.drop n).take lines.length = lines) : lines <:+: text := by
  rw [← same]
  exact (List.take_prefix _ _).isInfix.trans (List.drop_suffix n text).isInfix

theorem sends_helperOf (verb : HttpMethod) :
    Sends (helperOf verb).1 (Server.verbName verb) (Server.takesQuery verb) := by
  -- A search for the lines would compare every line of the base class with each of them.
  cases verb with
  | get => exact .inAddress true (infix_of_drop 84 rfl)
  | post => exact .asBody (infix_of_drop 94 rfl)
  | put => exact .asBody (infix_of_drop 98 rfl)
  | patch => exact .asBody (infix_of_drop 102 rfl)
  | delete => exact .inAddress false (infix_of_drop 106 rfl)

theorem asQuery_helperOf (verb : HttpMethod) : (helperOf verb).2 = Server.takesQuery verb := by
  cases verb <;> rfl

theorem values_stub (stub : Stub) : stub.values = objectOf (stub.params.map Parameter.name) := by
  simp only [Stub.values, objectOf, List.isEmpty_map]

private theorem keys_of_isBehaviorMethod (made : IsBehaviorMethod entity entities behavior method) :
    method.keys = (behavior.given.map Parameter.name).map identifier := by
  obtain ⟨make, number, built, rfl⟩ := made
  obtain ⟨params, lead, read, _, shape⟩ := behaviorMethod_function built
  rw [shape, Statement.keys, Params.all_of, List.map_map]
  exact (behaviorParams_eq_ok read).1

private theorem functionName?_of_isBehaviorMethod
    (made : IsBehaviorMethod entity entities behavior method) :
    method.functionName? = some (identifier behavior.function.name) := by
  obtain ⟨make, number, built, rfl⟩ := made
  obtain ⟨params, lead, _, _, shape⟩ := behaviorMethod_function built
  rw [shape, Statement.functionName?]

theorem body_stub (behavior : ActiveBehavior) (entity idField : String) :
    ((Stub.of behavior).method entity idField).body =
      requestText entity (helperOf behavior.httpMethod).1 (Stub.of behavior).returns
        ((Stub.of behavior).path idField) (Server.takesQuery behavior.httpMethod)
        (behavior.given.map Parameter.name) := by
  have given : (Stub.of behavior).params = behavior.given := rfl
  have verb : (Stub.of behavior).verb = behavior.httpMethod := rfl
  delta requestText
  simp only [Stub.method, argumentOf, values_stub, given, verb, asQuery_helperOf]

private theorem path_onRecord (idField : String) (onRecord : behavior.type = .ofInstance) :
    (Server.Endpoint.of behavior).path = "/\x7bid\x7d/" ++ kebabCase behavior.function.name ∧
      (Stub.of behavior).path idField =
        "/$\x7bthis." ++ idField ++ "\x7d/" ++ kebabCase behavior.function.name := by
  simp [Server.Endpoint.of, Server.Endpoint.path, Stub.of, Stub.path, onRecord]

private theorem path_onClass (idField : String) (onClass : behavior.type = .ofClass) :
    (Server.Endpoint.of behavior).path = "/" ++ kebabCase behavior.function.name ∧
      (Stub.of behavior).path idField = "/" ++ kebabCase behavior.function.name := by
  simp [Server.Endpoint.of, Server.Endpoint.path, Stub.of, Stub.path, onClass]

/-- The code of one behavior fits. -/
theorem remoteCall_fits (identity : Identity) (idType : Expr)
    (callable : behavior.type.isMethod = true)
    (made : IsBehaviorMethod entity entities behavior method)
    (named : isName behavior.function.name = true) :
    RemoteCall.Fits
      { behavior, method, endpoint := (Server.Endpoint.of behavior).statement entity idType
        stub := (Stub.of behavior).method entity identity.name }
      entity identity (Server.verbName behavior.httpMethod) (Server.Endpoint.of behavior).path
      (helperOf behavior.httpMethod).1 := by
  have quiet := brace_not_mem_kebabCase named
  have slashed : '\x7b' ∉ ("/" ++ kebabCase behavior.function.name).toList := by
    simpa using quiet
  have reads : ((Server.Endpoint.of behavior).statement entity idType).readsQuery =
      Server.takesQuery behavior.httpMethod := Server.Endpoint.readsQuery_statement _ _ _
  have address : (Stub.of behavior).path identity.name =
      addressOf identity.name (Server.Endpoint.of behavior).path := by
    cases kind : behavior.type with
    | ofInstance =>
      obtain ⟨endpoint, stub⟩ := path_onRecord identity.name kind
      rw [endpoint, stub, addressOf_record _ quiet]
    | ofClass =>
      obtain ⟨endpoint, stub⟩ := path_onClass identity.name kind
      rw [endpoint, stub, addressOf_of_brace_not_mem _ slashed]
    | _ =>
      rw [kind] at callable
      cases callable
  constructor
  case answers => exact Server.Endpoint.route?_statement _ _ _
  case verb_eq => rfl
  case method_named => exact functionName?_of_isBehaviorMethod made
  case calls => exact Server.Endpoint.calledMethod?_statement _ _ _
  case stub_named => rfl
  case sends =>
    rw [reads]
    exact sends_helperOf behavior.httpMethod
  case asks =>
    refine ⟨(Stub.of behavior).returns, ?_⟩
    rw [reads, ← address]
    exact body_stub behavior entity identity.name
  case keys => exact keys_of_isBehaviorMethod made
  case onRecord =>
    intro (kind : behavior.type = .ofInstance)
    obtain ⟨endpoint, stub⟩ := path_onRecord identity.name kind
    refine ⟨_, endpoint, address.symm.trans stub, quiet, ?_⟩
    simp [Stub.of, Stub.method, kind]
  case onClass =>
    intro (kind : behavior.type = .ofClass)
    obtain ⟨endpoint, _⟩ := path_onClass identity.name kind
    rw [endpoint]
    refine ⟨addressOf_of_brace_not_mem _ slashed, slashed, ?_⟩
    simp [Stub.of, Stub.method, kind]

end Calls

/-- The statement with the address of a router. -/
def routerAt (address entity : String) : Statement :=
  .bind "router" (.call (.name "APIRouter") []
    [.named "prefix" (.str address), .named "tags" (.list [.str entity])])

/-- A router at an address that has these endpoints and those over records. -/
structure IsRouter (entity : String) (idType : Expr) (address : String)
    (endpoints : List Statement) (module : Module) : Prop where
  placed : routerAt address entity ∈ module.body
  routes : (module.body.filter fun statement => statement.route?.isSome).Perm
    (Server.Router.endpoints entity idType ++ endpoints)

/-- A class of the client at an address below that of all, with these stubs behind its operations. -/
structure IsClient (entity : String) (identity : Identity) (plural : String)
    (stubs : List ClientCode.Method) (source : ClientCode.Source) : Prop where
  addressed : ["  static collectionUrl(): string \x7b",
    "    return `$\x7bBusinessObjectBase.baseUrl\x7d/$\x7bthis.plural\x7d`;",
    "  \x7d"] <:+: Runtime.businessObjectBase
  members : ∃ owner, source.classes = [owner] ∧ owner.name = entity ∧
    owner.base = some "BusinessObjectBase" ∧ owner.members =
      [classField "entityName" entity, classField "plural" plural,
        classField "idField" identity.name] ++ operations entity identity.type.name ++
      stubs.map .method

private theorem filter_route_code (module : Module) :
    (module.code.filter fun statement => statement.route?.isSome) =
      module.body.filter fun statement => statement.route?.isSome := by
  rw [Module.code, List.filter_filter]
  apply List.filter_congr
  intro statement _
  cases imported : statement.isImport with
  | true =>
    cases statement with
    | importModules | importFrom => rfl
    | _ => cases imported
  | false => rw [Bool.not_false, Bool.and_true]

/-- The router of an entity answers with its endpoints over records and those of behaviors. -/
theorem isRouter_of_code {entity : String} {idType : Expr} {module : Module}
    {behaviors : List ActiveBehavior}
    (code : module.code.Perm ((Server.Router.skeleton entity idType).code ++
      behaviors.map fun behavior => (Server.Endpoint.of behavior).statement entity idType)) :
    IsRouter entity idType ("/" ++ collectionPath entity)
      (behaviors.map fun behavior => (Server.Endpoint.of behavior).statement entity idType)
      module where
  placed := by
    have own : routerAt ("/" ++ collectionPath entity) entity ∈
        (Server.Router.skeleton entity idType).code := List.mem_cons_of_mem _ List.mem_cons_self
    exact (List.mem_filter.mp (code.mem_iff.mpr (List.mem_append_left _ own))).1
  routes := by
    have routes := code.filter fun statement => statement.route?.isSome
    rw [filter_route_code, List.filter_append, filter_route_code] at routes
    have own : ((Server.Router.skeleton entity idType).body.filter fun statement =>
        statement.route?.isSome) = Server.Router.endpoints entity idType := rfl
    have all : ∀ statement ∈ behaviors.map fun behavior =>
        (Server.Endpoint.of behavior).statement entity idType, statement.route?.isSome = true := by
      intro statement listed
      obtain ⟨behavior, _, rfl⟩ := List.mem_map.mp listed
      rw [Server.Endpoint.route?_statement, Option.isSome_some]
    rwa [own, List.filter_eq_self.mpr all] at routes

/-- The client of an entity has the stubs of its behaviors. -/
theorem isClient_businessObjectSource (entity : String) (identity : Identity)
    (members : List DataMember) (relationships : List Relationship) (stubs : List Stub) :
    IsClient entity identity (collectionPath entity)
      (stubs.map fun stub => stub.method entity identity.name)
      (businessObjectSource entity identity members relationships stubs) where
  addressed := infix_of_drop 27 (by decide +kernel)
  members := ⟨businessObjectClass entity identity stubs, rfl, rfl, rfl, by
    rw [List.map_map]
    rfl⟩

/-- The calls of behaviors with the methods that they become. -/
def callsOf (entity : String) (identity : Identity) (idType : Expr)
    (behaviors : List ActiveBehavior) (methods : List Statement) : List RemoteCall :=
  (behaviors.zip methods).map fun (behavior, method) =>
    { behavior, method, endpoint := (Server.Endpoint.of behavior).statement entity idType
      stub := (Stub.of behavior).method entity identity.name }

section CallsOf

variable {entity : String} {entities : List String} (identity : Identity) (idType : Expr)
  {behaviors : List ActiveBehavior} {methods : List Statement}

theorem map_callsOf (alike : List.Forall₂ (IsBehaviorMethod entity entities) behaviors methods) :
    (callsOf entity identity idType behaviors methods).map RemoteCall.behavior = behaviors ∧
      (callsOf entity identity idType behaviors methods).map RemoteCall.method = methods ∧
      (callsOf entity identity idType behaviors methods).map RemoteCall.endpoint =
        (behaviors.map fun behavior => (Server.Endpoint.of behavior).statement entity idType) ∧
      (callsOf entity identity idType behaviors methods).map RemoteCall.stub =
        behaviors.map fun behavior => (Stub.of behavior).method entity identity.name := by
  induction alike with
  | nil => exact ⟨rfl, rfl, rfl, rfl⟩
  | cons _ _ ih =>
    obtain ⟨ofBehaviors, ofMethods, ofEndpoints, ofStubs⟩ := ih
    exact ⟨congrArg (_ :: ·) ofBehaviors, congrArg (_ :: ·) ofMethods,
      congrArg (_ :: ·) ofEndpoints, congrArg (_ :: ·) ofStubs⟩

theorem callsOf_fit (alike : List.Forall₂ (IsBehaviorMethod entity entities) behaviors methods)
    (callable : ∀ behavior ∈ behaviors, behavior.type.isMethod = true)
    (named : ∀ behavior ∈ behaviors, isName behavior.function.name = true) :
    ∀ call ∈ callsOf entity identity idType behaviors methods, ∃ verb path helper,
      call.Fits entity identity verb path helper := by
  intro call listed
  obtain ⟨⟨behavior, method⟩, paired, rfl⟩ := List.mem_map.mp listed
  have member := (List.of_mem_zip paired).1
  exact ⟨_, _, _, remoteCall_fits identity idType (callable behavior member)
    (List.forall₂_zip alike paired) (named behavior member)⟩

end CallsOf

/-- A business object, a router and a client of an entity that fit. Each has one piece of code for every
instance or class behavior: a method, an endpoint and a stub, besides what it has for every entity. The
pieces of a behavior fit each other, and the client asks where the router is. -/
def Connects (registry : Registry) (declared : Declared Entity)
    (object route client : Generation.Produced) (calls : List RemoteCall) : Prop :=
  ∃ (behaviors : List ActiveBehavior) (business router : Module) (source : ClientCode.Source)
    (splices : Splices) (plural : String),
    (ActiveBehavior.ofEntity registry declared.unit).outcome = .ok behaviors ∧
    calls.map RemoteCall.behavior = behaviors.filter (fun behavior => behavior.type.isMethod) ∧
    Server.Prints business object ∧ Server.Prints router route ∧ client = .text source.render ∧
    business.findClass? declared.unit.name = some (.classDef declared.unit.name [] [] []
      (attributes declared.unit.name (Identity.of declared.unit).name ++
        (members declared.unit.name (.name (Identity.of declared.unit).type.serverName)).map
          (Member.statement splices) ++ calls.map RemoteCall.method)) ∧
    IsRouter declared.unit.name (.name (Identity.of declared.unit).type.serverName)
      ("/" ++ plural) (calls.map RemoteCall.endpoint) router ∧
    IsClient declared.unit.name (Identity.of declared.unit) plural (calls.map RemoteCall.stub)
      source ∧
    ∀ call ∈ calls, ∃ verb path helper,
      call.Fits declared.unit.name (Identity.of declared.unit) verb path helper

section Entity

variable {registry : Registry} {declared : Declared Entity}
  {object route client : Generation.Produced}

theorem exists_connects
    (stored : (Server.generateBusinessObject declared registry).outcome = .ok object)
    (routed : (Server.generateRoute declared registry).outcome = .ok route)
    (asked : (generateBusinessObject declared registry).outcome = .ok client) :
    ∃ calls, Connects registry declared object route client calls := by
  obtain ⟨dataSource, business, _, built, printed⟩ :=
    Server.exists_businessObject_of_generate stored
  obtain ⟨behaviors, splices, methods, attached, ended, _⟩ := businessObject_methods built
  obtain ⟨router, made, shown⟩ := Server.exists_router_of_generate routed
  obtain ⟨others, same, code, names⟩ := Server.router_code made
  obtain rfl := Except.ok.inj (attached.symm.trans same)
  obtain ⟨properties, relationships, others, _, same, given⟩ :=
    exists_source_of_generateBusinessObject asked
  obtain rfl := Except.ok.inj (attached.symm.trans same)
  have alike := ended.methods
  obtain ⟨ofBehaviors, ofMethods, ofEndpoints, ofStubs⟩ := map_callsOf
    (Identity.of declared.unit) (.name (Identity.of declared.unit).type.serverName) alike
  refine ⟨callsOf declared.unit.name (Identity.of declared.unit)
    (.name (Identity.of declared.unit).type.serverName) _ methods, behaviors, business, router, _,
    splices, collectionPath declared.unit.name, attached, ofBehaviors, printed, shown, given, ?_, ?_,
    ?_, ?_⟩
  · rw [ofMethods]
    exact ended.found
  · rw [ofEndpoints]
    exact isRouter_of_code code
  · rw [ofStubs]
    have client := isClient_businessObjectSource declared.unit.name (Identity.of declared.unit)
      (dataMembers (Identity.of declared.unit) properties relationships) relationships
      (stubsOf behaviors)
    rwa [stubsOf, List.map_map] at client
  · refine callsOf_fit _ _ alike (fun behavior listed => (List.mem_filter.mp listed).2) ?_
    intro behavior listed
    obtain ⟨member, callable⟩ := List.mem_filter.mp listed
    exact names behavior member callable

/-- The business object, the router and the client of an entity fit, whatever its behaviors. What a stub
sends are the parameters of the method exactly if their names are in normal form. -/
theorem stubs_fit_endpoints
    (stored : (Server.generateBusinessObject declared registry).outcome = .ok object)
    (routed : (Server.generateRoute declared registry).outcome = .ok route)
    (asked : (generateBusinessObject declared registry).outcome = .ok client) :
    ∃ calls, Connects registry declared object route client calls ∧
      ∀ call ∈ calls, call.method.keys = call.sent ↔ ∀ key ∈ call.sent, identifier key = key := by
  obtain ⟨calls, connects⟩ := exists_connects stored routed asked
  refine ⟨calls, connects, fun call listed => ?_⟩
  obtain ⟨_, _, _, _, _, _, _, _, _, _, _, _, _, _, fits⟩ := connects
  obtain ⟨_, _, _, fit⟩ := fits call listed
  rw [fit.keys]
  conv_lhs => rw [← List.map_id call.sent, List.map_map]
  exact List.map_inj_left

end Entity

/-- The free seats of a row, from a width on that is named by a sign that is not in normal form. -/
def freeSeats : Function where
  name := "freeSeats"
  async := true
  params := [⟨"hall", false, none⟩, ⟨"row", false, some ⟨"number", false⟩⟩,
    ⟨"\u00b5", true, some ⟨"number", false⟩⟩]
  returns := some ⟨"number", false⟩
  body := "return 0"

/-- All halls of a town are closed. -/
def closeAll : Function where
  name := "closeAll"
  async := false
  params := [⟨"town", false, some ⟨"string", false⟩⟩]
  returns := none
  body := "pass"

def hall : Entity := { offset := 0, name := "Hall" }

def ofHall : Behavior :=
  { offset := 0, name := "Free Seats", owner := "Hall", type := some "Instance"
    httpMethod := some .get, function := some freeSeats }

def ofHalls : Behavior :=
  { offset := 0, name := "Close", owner := "Hall", type := some "Class"
    httpMethod := some .delete, function := some closeAll }

def halls : Registry where
  units := Registry.declare none false 0
    (Server.stored ++ [.entity hall, .behavior ofHall, .behavior ofHalls])
  distinct := by decide

/-- The behaviors of halls that clients may call. -/
def hallCalls : List ActiveBehavior :=
  [ofHall.active .ofInstance freeSeats, ofHalls.active .ofClass closeAll]

theorem exists_generated_halls : ∃ object route client,
    (Server.generateBusinessObject ⟨hall, false, none, 2⟩ halls).outcome = .ok object ∧
    (Server.generateRoute ⟨hall, false, none, 2⟩ halls).outcome = .ok route ∧
    (generateBusinessObject ⟨hall, false, none, 2⟩ halls).outcome = .ok client := by
  obtain ⟨object, stored⟩ : ∃ object,
      (Server.generateBusinessObject ⟨hall, false, none, 2⟩ halls).outcome = .ok object :=
    Server.exists_produced_of_isPrintable rfl rfl (by decide +kernel)
  have linked : (Server.resolveAssociations halls hall).outcome = .ok [] := rfl
  have built : (Server.router halls hall).outcome =
      (Server.addEndpoints "Hall" (.name "int") hallCalls
        (Server.askableRouter "Hall" (.name "int"))).outcome :=
    Server.router_askable linked rfl (identifier_of_ascii (by decide))
      (identifier_of_ascii (by decide)) rfl rfl rfl
  have printable : Module.isPrintable (Server.router halls hall).outcome = true := by
    rw [built]
    decide +kernel
  obtain ⟨route, routed⟩ : ∃ route,
      (Server.generateRoute ⟨hall, false, none, 2⟩ halls).outcome = .ok route :=
    Server.exists_route_of_isPrintable printable
  exact ⟨object, route, _, stored, routed, rfl⟩

theorem stubs_fit_endpoints_halls : ∃ object route client, ∃ calls : List RemoteCall,
    (Server.generateBusinessObject ⟨hall, false, none, 2⟩ halls).outcome = .ok object ∧
    (Server.generateRoute ⟨hall, false, none, 2⟩ halls).outcome = .ok route ∧
    (generateBusinessObject ⟨hall, false, none, 2⟩ halls).outcome = .ok client ∧
    Connects halls ⟨hall, false, none, 2⟩ object route client calls ∧
    ∀ call ∈ calls, call.method.keys = call.sent ↔ ∀ key ∈ call.sent, identifier key = key := by
  obtain ⟨object, route, client, stored, routed, asked⟩ := exists_generated_halls
  obtain ⟨calls, connects, keys⟩ := stubs_fit_endpoints stored routed asked
  exact ⟨object, route, client, calls, stored, routed, asked, connects, keys⟩

/-- The stub sends the width under the sign of the design, and the method has no such parameter. -/
theorem micro_key_unknown_halls : ∃ object route client calls,
    (Server.generateBusinessObject ⟨hall, false, none, 2⟩ halls).outcome = .ok object ∧
    (Server.generateRoute ⟨hall, false, none, 2⟩ halls).outcome = .ok route ∧
    (generateBusinessObject ⟨hall, false, none, 2⟩ halls).outcome = .ok client ∧
    Connects halls ⟨hall, false, none, 2⟩ object route client calls ∧
    ∃ call ∈ calls, call.sent = ["row", "\u00b5"] ∧ call.method.keys = ["row", "\u03bc"] := by
  obtain ⟨object, route, client, stored, routed, asked⟩ := exists_generated_halls
  obtain ⟨calls, connects⟩ := exists_connects stored routed asked
  refine ⟨object, route, client, calls, stored, routed, asked, connects, ?_⟩
  obtain ⟨behaviors, _, _, _, _, _, attached, listed, _, _, _, _, _, _, fits⟩ := connects
  have given : (ActiveBehavior.ofEntity halls hall).outcome = .ok hallCalls := rfl
  obtain rfl := Except.ok.inj (given.symm.trans attached)
  obtain ⟨call, member, same⟩ := List.mem_map.mp (listed ▸ List.mem_cons_self :
    ofHall.active .ofInstance freeSeats ∈ calls.map RemoteCall.behavior)
  obtain ⟨_, _, _, fit⟩ := fits call member
  have sent : call.sent = ["row", "\u00b5"] := by
    rw [RemoteCall.sent, same]
    rfl
  refine ⟨call, member, sent, ?_⟩
  rw [fit.keys, sent]
  decide +kernel

end Blueprint.Client
