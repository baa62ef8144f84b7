import Mathlib.Data.List.Nodup
import Mathlib.Data.List.TakeWhile
import Blueprint.Design.Check
import Blueprint.Proofs.Design.OptionBags
import Blueprint.Proofs.Outcomes
import Blueprint.Proofs.Text

namespace Blueprint.Design

section Repeats

variable {α : Type} {nameOf : α → String} {seen : List String} {values : List α}

/-- The values whose names have occurred before. -/
def repeats (nameOf : α → String) (seen : List String) : List α → List α
  | [] => []
  | value :: rest =>
    if nameOf value ∈ seen then value :: repeats nameOf seen rest
    else repeats nameOf (nameOf value :: seen) rest

theorem firstRepeated?_eq_head? (seen : List String) (values : List α) :
    firstRepeated? nameOf seen values = (repeats nameOf seen values).head? := by
  induction values generalizing seen with
  | nil => rfl
  | cons value values ih =>
    simp only [firstRepeated?, repeats, List.contains_iff_mem]
    split
    · rfl
    · exact ih _

theorem repeats_eq_nil_iff : repeats nameOf seen values = [] ↔
    (values.map nameOf).Nodup ∧ ∀ value ∈ values, nameOf value ∉ seen := by
  induction values generalizing seen with
  | nil => simp [repeats]
  | cons value values ih =>
    rw [repeats, List.map_cons, List.nodup_cons, List.forall_mem_cons]
    split
    · rename_i known
      exact iff_of_false (List.cons_ne_nil _ _) fun fresh => fresh.2.1 known
    · rename_i fresh
      rw [ih]
      simp only [List.mem_cons, not_or, forall_and, List.mem_map, not_exists, not_and]
      tauto

theorem repeats_nil_eq_nil_iff : repeats nameOf [] values = [] ↔ (values.map nameOf).Nodup := by
  simp [repeats_eq_nil_iff]

end Repeats

section FirstOr

variable {α β : Type} {problems others : List Problem}

/-- A value, if there are no problems; else the first of them. -/
def firstOr (problems : List Problem) (value : α) : Except Problem α :=
  match problems with
  | [] => .ok value
  | problem :: _ => .error problem

theorem firstOr_bind {step : Except Problem α} {next : α → Except Problem β} {value : α} {result : β}
    (here : step = firstOr problems value) (later : next value = firstOr others result) :
    step >>= next = firstOr (problems ++ others) result := by
  rw [here]
  cases problems with
  | nil => exact later
  | cons problem problems => rfl

theorem firstOr_mapM {step : α → Except Problem β} {problemsOf : α → List Problem} {value : α → β}
    (each : ∀ item, step item = firstOr (problemsOf item) (value item)) (items : List α) :
    items.mapM step = firstOr (items.flatMap problemsOf) (items.map value) := by
  induction items with
  | nil => rfl
  | cons item items ih =>
    rw [List.mapM_cons, List.flatMap_cons, List.map_cons, ← List.append_nil (items.flatMap _)]
    exact firstOr_bind (each item) (firstOr_bind ih rfl)

theorem firstOr_report {first : Option Problem} (found : first = problems.head?) :
    report first = firstOr problems PUnit.unit := by
  rw [found]
  cases problems with
  | nil => rfl
  | cons => rfl

end FirstOr

/-- A problem, if a condition holds. -/
def problemIf (holds : Bool) (problem : Problem) : List Problem := if holds then [problem] else []

section Parts

/-- The options of a property, key by key. -/
def Property.bag (property : Property) : List (String × Json) :=
  property.written.map fun option => (option.key, option.value)

/-- The options of a method, key by key. -/
def Method.bag (method : Method) : List (String × Json) :=
  method.written.map fun option => (option.key, option.value)

def repeatedOptions (owner : String) (written : List WrittenOption) : List Problem :=
  (repeats WrittenOption.key [] written).map fun option =>
    ⟨.repeatedOption option.key owner, option.offset⟩

/-- A property with its options as values. -/
def Property.settled (property : Property) : Property :=
  { property with options := PropertyOptions.ofBag property.bag }

/-- A method with its options as values. -/
def Method.settled (method : Method) : Method :=
  { method with options := MethodOptions.ofBag method.bag }

/-- A unit with the options of its parts as values. -/
def Unit.settled : Unit → Unit
  | .entity unit => .entity { unit with properties := unit.properties.map Property.settled }
  | .mixin unit => .mixin { unit with properties := unit.properties.map Property.settled }
  | .page unit => .page { unit with
      properties := unit.properties.map Property.settled, methods := unit.methods.map Method.settled }
  | .component unit => .component { unit with
      properties := unit.properties.map Property.settled, methods := unit.methods.map Method.settled }
  | unit => unit

def Property.problems (property : Property) : List Problem :=
  repeatedOptions property.name property.written ++
  problemIf (!(PropertyOptions.problems property.bag).isEmpty)
    ⟨.invalidOptions .property property.name (PropertyOptions.problems property.bag),
      property.offset⟩ ++
  problemIf ((PropertyOptions.ofBag property.bag).hasMany.getD false && !property.type.array)
    ⟨.manyWithoutArray property.name, property.offset⟩ ++
  problemIf ((PropertyOptions.ofBag property.bag).markers.length > 1)
    ⟨.conflictingMarkers property.name (PropertyOptions.ofBag property.bag).markers,
      property.offset⟩

def Method.problems (method : Method) : List Problem :=
  repeatedOptions method.name method.written ++
  problemIf (!(MethodOptions.problems method.bag).isEmpty)
    ⟨.invalidOptions .method method.name (MethodOptions.problems method.bag), method.offset⟩

def Behavior.problems (behavior : Behavior) : List Problem :=
  behavior.type.toList.flatMap fun type =>
    problemIf (type != "" && (BehaviorType.ofName? type).isNone)
      ⟨.unknownBehaviorType behavior.name type, behavior.offset⟩

/-- The problems of the parts of a unit, properties before methods. -/
def Unit.problems : Unit → List Problem
  | .behavior unit => unit.problems
  | unit => unit.properties.flatMap Property.problems ++ unit.methods.flatMap Method.problems

private theorem bagOf_eq (owner : String) (written : List WrittenOption) :
    bagOf owner written = firstOr (repeatedOptions owner written)
      (written.map fun option => (option.key, option.value)) := by
  rw [bagOf, firstRepeated?_eq_head?, repeatedOptions]
  cases repeats WrittenOption.key [] written with
  | nil => rfl
  | cons => rfl

theorem Method.check_eq (method : Method) :
    method.check = firstOr method.problems method.settled := by
  refine firstOr_bind (bagOf_eq _ _) ?_
  rw [MethodOptions.check_eq, ← Method.bag]
  cases shape : MethodOptions.problems method.bag with
  | nil => rfl
  | cons problem problems => rfl

theorem Property.check_eq (property : Property) :
    property.check = firstOr property.problems property.settled := by
  rw [Property.problems, List.append_assoc, List.append_assoc]
  refine firstOr_bind (bagOf_eq _ _) ?_
  rw [PropertyOptions.check_eq, ← Property.bag]
  cases shape : PropertyOptions.problems property.bag with
  | nil =>
    rw [if_pos rfl]
    dsimp only
    cases (PropertyOptions.ofBag property.bag).hasMany.getD false && !property.type.array with
    | true => rfl
    | false =>
      by_cases several : (PropertyOptions.ofBag property.bag).markers.length > 1
      · rw [if_pos several, decide_eq_true several]
        rfl
      · rw [if_neg several, decide_eq_false several]
        rfl
  | cons problem problems => rfl

theorem Behavior.check_eq (behavior : Behavior) :
    behavior.check = firstOr behavior.problems behavior := by
  unfold Behavior.check Behavior.problems
  split
  · rename_i none
    rw [none]
    rfl
  · rename_i empty
    rw [empty]
    rfl
  · rename_i type filled given
    have shown : (type != "") = true := bne_iff_ne.mpr filled
    rw [given, Option.toList_some, List.flatMap_cons, List.flatMap_nil, List.append_nil, shown,
      Bool.true_and]
    cases BehaviorType.ofName? type with
    | none => rfl
    | some => rfl

theorem Unit.check_eq (unit : Unit) : unit.check = firstOr unit.problems unit.settled := by
  have properties (items : List Property) := firstOr_mapM Property.check_eq items
  have methods (items : List Method) := firstOr_mapM Method.check_eq items
  cases unit with
  | entity unit => exact firstOr_bind (properties _) rfl
  | mixin unit => exact firstOr_bind (properties _) rfl
  | behavior unit =>
    have only : unit.problems = unit.problems ++ [] := (List.append_nil _).symm
    rw [Unit.problems, only]
    exact firstOr_bind (Behavior.check_eq unit) rfl
  | page unit =>
    refine firstOr_bind (properties unit.properties) ?_
    rw [Unit.methods, ← List.append_nil (List.flatMap Method.problems _)]
    exact firstOr_bind (methods _) rfl
  | component unit =>
    refine firstOr_bind (properties unit.properties) ?_
    rw [Unit.methods, ← List.append_nil (List.flatMap Method.problems _)]
    exact firstOr_bind (methods _) rfl
  | project unit => rfl
  | dataSource unit => rfl
  | selectorInterface unit => rfl

end Parts

section Whole

def nameProblems (units : List Unit) : List Problem :=
  UnitKind.all.flatMap fun kind =>
    (repeats Unit.name [] (ofKind kind units)).map fun unit =>
      ⟨.repeatedUnit kind unit.name, unit.offset⟩

def memberProblems (units : List Unit) : List Problem :=
  [UnitKind.entity, .mixin, .page, .component].flatMap fun kind =>
    (ofKind kind units).flatMap fun unit =>
      ((repeats Property.name [] unit.properties).map fun property =>
        ⟨.repeatedMember kind unit.name .property property.name, property.offset⟩) ++
      ((repeats Method.name [] unit.methods).map fun method =>
        ⟨.repeatedMember kind unit.name .method method.name, method.offset⟩)

/-- An entity's identities that are too many are one problem; it lies where the second of them is. -/
def identityProblems (units : List Unit) : List Problem :=
  (ofKind .entity units).flatMap fun entity =>
    (((flaggedIdentities entity.properties).drop 1).take 1).map (fun second =>
      ⟨.severalIdentities entity.name ((flaggedIdentities entity.properties).map Property.name),
        second.offset⟩) ++
    ((flaggedIdentities entity.properties).filter fun property =>
      property.type.array || (identityType? property.type.name).isNone).map fun property =>
        ⟨.invalidIdentity entity.name property.name property.type.name, property.offset⟩

/-- A parameter has a dot and names no property of the page in front of it. -/
def isDangling (page : Page) (param : String) : Bool :=
  match routeParamProperty param with
  | (property, some _) => !page.properties.any (·.name == property)
  | (_, none) => false

def pathProblems (units : List Unit) : List Problem :=
  units.flatMap fun
    | .page page => (routeParams page.path).flatMap fun param =>
        problemIf (isDangling page param) ⟨.unknownPathParameter page.name param, page.offset⟩
    | _ => []

def callProblems (units : List Unit) : List Problem :=
  ((ofKind .page units).flatMap fun page =>
    (page.methods.filter fun method => method.options.callAfterLoad.getD false).map fun method =>
      ⟨.callAfterLoadOfPage page.name method.name, method.offset⟩) ++
  ((ofKind .component units).flatMap fun component =>
    (component.methods.filter fun method => method.options.callOnLoad.getD false).map fun method =>
      ⟨.callOnLoadOfComponent component.name method.name, method.offset⟩)

/-- The problems of a design as a whole. -/
def wholeProblems (units : List Unit) : List Problem :=
  nameProblems units ++ memberProblems units ++ identityProblems units ++ pathProblems units ++
    callProblems units

/-- All problems of a design, in the order in which they are looked for. -/
def problems (units : List Unit) : List Problem :=
  units.flatMap Unit.problems ++ wholeProblems (units.map Unit.settled)

variable {units : List Unit}

theorem repeatedUnit?_eq (units : List Unit) : repeatedUnit? units = (nameProblems units).head? := by
  rw [nameProblems, List.head?_flatMap]
  simp only [repeatedUnit?, firstRepeated?_eq_head?, List.head?_map]

private theorem repeatedMember?_eq (units : List Unit) :
    repeatedMember? units = (memberProblems units).head? := by
  rw [memberProblems, List.head?_flatMap]
  simp only [repeatedMember?, firstRepeated?_eq_head?, List.head?_flatMap, List.head?_append,
    List.head?_map]

private theorem invalidIdentity?_eq (units : List Unit) :
    invalidIdentity? units = (identityProblems units).head? := by
  rw [identityProblems, List.head?_flatMap, invalidIdentity?]
  congr 1
  funext entity
  rcases flaggedIdentities entity.properties with _ | ⟨first, _ | ⟨second, others⟩⟩
  · rfl
  · simp only [List.drop_one, List.tail_cons, List.take_nil, List.map_nil, List.nil_append,
      List.head?_map, List.head?_filter, List.find?_singleton]
    split <;> rfl
  · rfl

theorem invalidPath?_eq (units : List Unit) : invalidPath? units = (pathProblems units).head? := by
  rw [pathProblems, List.head?_flatMap, invalidPath?]
  congr 1
  funext unit
  cases unit with
  | page page =>
    dsimp only
    rw [List.head?_flatMap]
    congr 1
    funext param
    unfold isDangling
    rcases routeParamProperty param with ⟨property, _ | field⟩
    · rfl
    · dsimp only
      cases page.properties.any (·.name == property) <;> rfl
  | _ => rfl

theorem invalidCall?_eq (units : List Unit) : invalidCall? units = (callProblems units).head? := by
  rw [callProblems, List.head?_append, List.head?_flatMap, List.head?_flatMap]
  simp only [invalidCall?, List.head?_map, List.head?_filter]

private theorem checkWhole_eq (units : List Unit) :
    checkWhole units = firstOr (wholeProblems units) PUnit.unit := by
  rw [wholeProblems, List.append_assoc, List.append_assoc, List.append_assoc]
  exact firstOr_bind (firstOr_report (repeatedUnit?_eq units)) (firstOr_bind
    (firstOr_report (repeatedMember?_eq units)) (firstOr_bind
    (firstOr_report (invalidIdentity?_eq units)) (firstOr_bind
    (firstOr_report (invalidPath?_eq units)) (firstOr_report (invalidCall?_eq units)))))

private theorem checkUnits_eq (units : List Unit) :
    checkUnits units = firstOr (problems units) (units.map Unit.settled) := by
  rw [problems, ← List.append_nil (wholeProblems _)]
  exact firstOr_bind (firstOr_mapM Unit.check_eq units) (firstOr_bind (checkWhole_eq _) rfl)

end Whole

section Sound

/-- An option is given and says yes. -/
def Flagged (bag : List (String × Json)) (name : String) : Prop :=
  ∃ value, given? bag name = some value ∧ ReadsAs true value

/-- At most one value of a list has a property. -/
def AtMostOne {α : Type} (holds : α → Prop) (values : List α) : Prop :=
  values.Pairwise fun one other => ¬ (holds one ∧ holds other)

/-- The types of behaviors, as a design names them. -/
def behaviorTypeNames : List String :=
  ["Instance", "Class", "Before Create", "After Create", "Before Update", "After Update",
    "Before Delete", "After Delete", "Before Read", "After Read", "After Start", "App"]

/-- The types of which an identity can be, in lower case. -/
def identityTypeNames : List String :=
  ["string", "text", "uuid", "email", "number", "integer", "serial"]

/-- A design that keeps all rules. -/
structure Sound (units : List Unit) : Prop where
  /-- No bag repeats a key, and every bag is valid for what has it. -/
  bags : ∀ unit ∈ units,
    (∀ property ∈ unit.properties, (property.written.map WrittenOption.key).Nodup ∧
      ValidBag PropertyOptions.demands property.bag) ∧
    ∀ method ∈ unit.methods, (method.written.map WrittenOption.key).Nodup ∧
      ValidBag MethodOptions.demands method.bag
  /-- What is marked as many is an array, and nothing has two marks of an association. -/
  marks : ∀ unit ∈ units, ∀ property ∈ unit.properties,
    (Flagged property.bag "hasMany" → property.type.array = true) ∧
    AtMostOne (Flagged property.bag) ["belongsTo", "hasMany", "hasOne", "references"]
  /-- Every type of a behavior that is not empty is one of twelve. -/
  behaviors : ∀ behavior, .behavior behavior ∈ units → ∀ type, behavior.type = some type →
    type ≠ "" → type ∈ behaviorTypeNames
  /-- Units of one kind have names of their own. -/
  names : units.Pairwise fun one other => one.kind = other.kind → one.name ≠ other.name
  /-- Within a unit, properties have names of their own, and methods have. -/
  members : ∀ unit ∈ units, (unit.properties.map Property.name).Nodup ∧
    (unit.methods.map Method.name).Nodup
  /-- At most one property of an entity is flagged as its identity: a single number or text. -/
  identities : ∀ entity, .entity entity ∈ units →
    AtMostOne (fun property => Flagged property.bag "id") entity.properties ∧
    ∀ property ∈ entity.properties, Flagged property.bag "id" → property.type.array = false ∧
      Text.lower property.type.name ∈ identityTypeNames
  /-- A dotted parameter of a page's path starts with the name of one of the page's properties. -/
  paths : ∀ page, .page page ∈ units → ∀ param ∈ routeParams page.path, ∀ name field,
    param = name ++ "." ++ field → '.' ∉ name.toList →
    ∃ property ∈ page.properties, property.name = name
  /-- What is called on load belongs to pages, and what is called after load to components. -/
  calls : (∀ page, .page page ∈ units → ∀ method ∈ page.methods,
      ¬ Flagged method.bag "callAfterLoad") ∧
    ∀ component, .component component ∈ units → ∀ method ∈ component.methods,
      ¬ Flagged method.bag "callOnLoad"

variable {units : List Unit} {bag : List (String × Json)} {name : String}

theorem flagged_iff :
    (readOption bag name OptionType.boolean).getD false = true ↔ Flagged bag name := by
  have some : (readOption bag name OptionType.boolean).getD false = true ↔
      readOption bag name OptionType.boolean = some true := by
    cases readOption bag name OptionType.boolean with
    | none => exact iff_of_false Bool.false_ne_true nofun
    | some answer => rw [Option.getD_some, Option.some.injEq]
  rw [some, readOption_eq_some_iff]
  exact exists_congr fun value => and_congr_right fun _ => OptionType.boolean_eq_ok_iff

theorem length_filter_le_one_iff {α : Type} {accepts : α → Bool} {values : List α} :
    (values.filter accepts).length ≤ 1 ↔ AtMostOne (accepts · = true) values := by
  unfold AtMostOne
  induction values with
  | nil => simp
  | cons value values ih =>
    rw [List.pairwise_cons, ← ih, List.filter_cons]
    split
    · rename_i accepted
      have single (count : Nat) : count + 1 ≤ 1 ↔ count = 0 := by omega
      rw [List.length_cons, single, List.length_eq_zero_iff]
      constructor
      · intro none
        refine ⟨fun other listed both => ?_, by rw [none]; exact Nat.zero_le 1⟩
        exact List.filter_eq_nil_iff.mp none other listed both.2
      · rintro ⟨apart, _⟩
        exact List.filter_eq_nil_iff.mpr fun other listed also => apart other listed ⟨accepted, also⟩
    · rename_i refused
      simp [refused]

private theorem markers_ofBag (bag : List (String × Json)) : (PropertyOptions.ofBag bag).markers =
    ["belongsTo", "hasMany", "hasOne", "references"].filter fun name =>
      (readOption bag name OptionType.boolean).getD false := by
  have each : (PropertyOptions.ofBag bag).markers =
      (["belongsTo", "hasMany", "hasOne", "references"].map fun name =>
        (name, readOption bag name OptionType.boolean)).filterMap fun marker =>
          if marker.2.getD false then some marker.1 else none := rfl
  rw [each, List.filterMap_map, ← List.filterMap_eq_filter]
  rfl

theorem problemIf_eq_nil_iff {holds : Bool} {problem : Problem} :
    problemIf holds problem = [] ↔ holds = false := by
  cases holds <;> simp [problemIf]

private theorem repeatedOptions_eq_nil_iff {owner : String} {written : List WrittenOption} :
    repeatedOptions owner written = [] ↔ (written.map WrittenOption.key).Nodup := by
  rw [repeatedOptions, List.map_eq_nil_iff, repeats_nil_eq_nil_iff]

theorem Property.problems_eq_nil_iff {property : Property} : property.problems = [] ↔
    ((property.written.map WrittenOption.key).Nodup ∧
      ValidBag PropertyOptions.demands property.bag) ∧
    (Flagged property.bag "hasMany" → property.type.array = true) ∧
    AtMostOne (Flagged property.bag) ["belongsTo", "hasMany", "hasOne", "references"] := by
  have many : ((PropertyOptions.ofBag property.bag).hasMany.getD false && !property.type.array) =
      false ↔ (Flagged property.bag "hasMany" → property.type.array = true) := by
    rw [← flagged_iff, PropertyOptions.ofBag]
    cases (readOption property.bag "hasMany" OptionType.boolean).getD false <;> simp
  have few : decide ((PropertyOptions.ofBag property.bag).markers.length > 1) = false ↔
      AtMostOne (Flagged property.bag) ["belongsTo", "hasMany", "hasOne", "references"] := by
    rw [decide_eq_false_iff_not, Nat.not_lt, markers_ofBag, length_filter_le_one_iff]
    simp only [flagged_iff]
  rw [Property.problems, List.append_eq_nil_iff, List.append_eq_nil_iff, List.append_eq_nil_iff,
    repeatedOptions_eq_nil_iff, problemIf_eq_nil_iff, problemIf_eq_nil_iff, problemIf_eq_nil_iff,
    many, few, Bool.not_eq_false', List.isEmpty_iff, PropertyOptions.problems_eq_nil_iff, and_assoc]

theorem Method.problems_eq_nil_iff {method : Method} : method.problems = [] ↔
    (method.written.map WrittenOption.key).Nodup ∧ ValidBag MethodOptions.demands method.bag := by
  rw [Method.problems, List.append_eq_nil_iff, repeatedOptions_eq_nil_iff, problemIf_eq_nil_iff,
    Bool.not_eq_false', List.isEmpty_iff, MethodOptions.problems_eq_nil_iff]

private theorem isNone_ofName?_iff {type : String} :
    (BehaviorType.ofName? type).isNone = true ↔ type ∉ behaviorTypeNames := by
  have names : behaviorTypeNames = BehaviorType.all.map BehaviorType.name := rfl
  rw [BehaviorType.ofName?, Option.isNone_iff_eq_none, List.find?_eq_none, names, List.mem_map]
  simp

theorem Behavior.problems_eq_nil_iff {behavior : Behavior} : behavior.problems = [] ↔
    ∀ type, behavior.type = some type → type ≠ "" → type ∈ behaviorTypeNames := by
  unfold Behavior.problems
  cases behavior.type with
  | none => simp
  | some type =>
    rw [Option.toList_some, List.flatMap_cons, List.flatMap_nil, List.append_nil,
      problemIf_eq_nil_iff, Bool.eq_false_iff, Ne, Bool.and_eq_true, bne_iff_ne,
      isNone_ofName?_iff]
    simp

/-- The parts of a unit have no problems exactly if none of them has one. -/
theorem Unit.problems_eq_nil_iff {unit : Unit} : unit.problems = [] ↔
    (∀ property ∈ unit.properties, property.problems = []) ∧
    (∀ method ∈ unit.methods, method.problems = []) ∧
    ∀ behavior, unit = .behavior behavior → behavior.problems = [] := by
  cases unit with
  | behavior unit => simp [Unit.problems, Unit.properties, Unit.methods]
  | _ => simp [Unit.problems, List.flatMap_eq_nil_iff]

end Sound

section Settled

variable {units : List Unit} {unit : Unit}

@[simp] theorem Unit.name_settled (unit : Unit) : unit.settled.name = unit.name := by
  cases unit <;> rfl

@[simp] theorem Unit.kind_settled (unit : Unit) : unit.settled.kind = unit.kind := by
  cases unit <;> rfl

@[simp] theorem Unit.properties_settled (unit : Unit) :
    unit.settled.properties = unit.properties.map Property.settled := by
  cases unit <;> rfl

@[simp] theorem Unit.methods_settled (unit : Unit) :
    unit.settled.methods = unit.methods.map Method.settled := by
  cases unit <;> rfl

theorem ofKind_settled (kind : UnitKind) (units : List Unit) :
    ofKind kind (units.map Unit.settled) = (ofKind kind units).map Unit.settled := by
  rw [ofKind, List.filter_map, ofKind]
  congr 1
  refine List.filter_congr fun unit _ => ?_
  rw [Function.comp_apply, Unit.kind_settled]

theorem UnitKind.mem_all (kind : UnitKind) : kind ∈ UnitKind.all := by
  cases kind <;> decide

private theorem mem_ofKind_iff {kind : UnitKind} :
    unit ∈ ofKind kind units ↔ unit ∈ units ∧ unit.kind = kind := by
  rw [ofKind, List.mem_filter, beq_iff_eq]

theorem forall_ofKind_iff {σ : Type} {make : σ → Unit} {kind : UnitKind}
    (made : ∀ unit : Unit, unit.kind = kind ↔ ∃ state, make state = unit) {holds : Unit → Prop} :
    (∀ unit ∈ ofKind kind units, holds unit) ↔ ∀ state, make state ∈ units → holds (make state) := by
  simp only [mem_ofKind_iff]
  constructor
  · exact fun all state listed => all _ ⟨listed, (made _).mpr ⟨state, rfl⟩⟩
  · rintro all unit ⟨listed, kind⟩
    obtain ⟨state, rfl⟩ := (made unit).mp kind
    exact all state listed

theorem kind_eq_entity_iff (unit : Unit) : unit.kind = .entity ↔ ∃ entity, .entity entity = unit := by
  cases unit <;> simp [Unit.kind]

private theorem kind_eq_page_iff (unit : Unit) : unit.kind = .page ↔ ∃ page, .page page = unit := by
  cases unit <;> simp [Unit.kind]

private theorem kind_eq_component_iff (unit : Unit) :
    unit.kind = .component ↔ ∃ component, .component component = unit := by
  cases unit <;> simp [Unit.kind]

theorem nameProblems_eq_nil_iff : nameProblems (units.map Unit.settled) = [] ↔
    units.Pairwise fun one other => one.kind = other.kind → one.name ≠ other.name := by
  have distinct (kind : UnitKind) :
      ((ofKind kind (units.map Unit.settled)).map Unit.name).Nodup ↔ units.Pairwise
        fun one other => one.kind = kind → other.kind = kind → one.name ≠ other.name := by
    have same : Unit.name ∘ Unit.settled = Unit.name := funext Unit.name_settled
    rw [ofKind_settled, List.map_map, same, List.Nodup, List.pairwise_map, ofKind,
      List.pairwise_filter]
    simp only [beq_iff_eq]
  simp only [nameProblems, List.flatMap_eq_nil_iff, List.map_eq_nil_iff, repeats_nil_eq_nil_iff,
    UnitKind.mem_all, forall_true_left, distinct, List.pairwise_iff_getElem]
  constructor
  · exact fun all i j below above ordered alike => all _ i j below above ordered alike rfl
  · rintro all kind i j below above ordered rfl alike
    exact all i j below above ordered alike.symm

theorem memberProblems_eq_nil_iff : memberProblems (units.map Unit.settled) = [] ↔
    ∀ unit ∈ units, (unit.properties.map Property.name).Nodup ∧
      (unit.methods.map Method.name).Nodup := by
  have properties : Property.name ∘ Property.settled = Property.name := rfl
  have methods : Method.name ∘ Method.settled = Method.name := rfl
  simp only [memberProblems, List.flatMap_eq_nil_iff, List.append_eq_nil_iff, List.map_eq_nil_iff,
    repeats_nil_eq_nil_iff, ofKind_settled, List.forall_mem_map, Unit.properties_settled,
    Unit.methods_settled, List.map_map, properties, methods, mem_ofKind_iff]
  constructor
  · intro all unit listed
    by_cases owns : unit.kind ∈ [UnitKind.entity, .mixin, .page, .component]
    · exact all _ owns unit ⟨listed, rfl⟩
    · have bare : unit.properties = [] ∧ unit.methods = [] := by
        cases unit <;> first | exact ⟨rfl, rfl⟩ | simp [Unit.kind] at owns
      rw [bare.1, bare.2]
      exact ⟨List.nodup_nil, List.nodup_nil⟩
  · exact fun all kind _ unit listed => all unit listed.1

/-- The scalars that can identify, by name. -/
theorem isNone_identityType?_iff {name : String} :
    (identityType? name).isNone = false ↔ Text.lower name ∈ identityTypeNames := by
  rw [identityType?, Scalar.ofName?]
  generalize Text.lower name = word
  by_cases known : word ∈ Scalar.table.map Prod.fst
  · have each : ∀ word ∈ Scalar.table.map Prod.fst,
        ((Scalar.table.lookup word).bind Scalar.identity?).isNone = false ↔
          word ∈ identityTypeNames := by decide
    exact each word known
  · rw [OrderedMap.lookup_eq_none_of_not_mem known]
    have within : identityTypeNames ⊆ Scalar.table.map Prod.fst := by decide
    exact iff_of_false (by simp) fun listed => known (within listed)

theorem flagged_settled (property : Property) :
    property.settled.options.id.getD false = true ↔ Flagged property.bag "id" := flagged_iff

theorem flaggedIdentities_settled (properties : List Property) :
    flaggedIdentities (properties.map Property.settled) = (properties.filter fun property =>
      property.settled.options.id.getD false).map Property.settled := by
  rw [flaggedIdentities, List.filter_map]
  rfl

theorem identityProblems_eq_nil_iff : identityProblems (units.map Unit.settled) = [] ↔
    ∀ entity, .entity entity ∈ units →
      AtMostOne (fun property => Flagged property.bag "id") entity.properties ∧
      ∀ property ∈ entity.properties, Flagged property.bag "id" → property.type.array = false ∧
        Text.lower property.type.name ∈ identityTypeNames := by
  have single {α : Type} (values : List α) : (values.drop 1).take 1 = [] ↔ values.length ≤ 1 := by
    rcases values with _ | ⟨_, _ | _⟩ <;> simp
  have type (property : Property) : property.settled.type = property.type := rfl
  rw [identityProblems, List.flatMap_eq_nil_iff, ofKind_settled, List.forall_mem_map,
    forall_ofKind_iff kind_eq_entity_iff]
  refine forall₂_congr fun entity _ => ?_
  rw [List.append_eq_nil_iff, List.map_eq_nil_iff, List.map_eq_nil_iff, single,
    Unit.properties_settled, flaggedIdentities_settled, List.length_map, length_filter_le_one_iff,
    List.filter_eq_nil_iff, List.forall_mem_map]
  simp only [flagged_settled, List.mem_filter, and_imp, Bool.not_eq_true, Bool.or_eq_false_iff, type,
    isNone_identityType?_iff]
  rfl

/-- A dotted parameter starts with what is in front of its first dot. -/
theorem splitParam_eq_some_iff {param name field : List Char} :
    RoutePath.splitParam param = (name, some field) ↔ param = name ++ '.' :: field ∧ '.' ∉ name := by
  unfold RoutePath.splitParam
  constructor
  · intro split
    split at split
    · rename_i rest behind
      cases split
      refine ⟨?_, fun listed => ?_⟩
      · rw [← behind, List.takeWhile_append_dropWhile]
      · simpa using List.mem_takeWhile_imp listed
    · cases split
  · rintro ⟨rfl, undotted⟩
    have passes : ∀ c ∈ name, (c != '.') = true := fun c listed =>
      bne_iff_ne.mpr fun dot => undotted (dot ▸ listed)
    rw [List.dropWhile_append_of_pos passes, List.takeWhile_append_of_pos passes,
      List.dropWhile_cons_of_neg (by decide), List.takeWhile_cons_of_neg (by decide)]
    simp only [List.append_nil]

theorem isDangling_eq_false_iff {page : Page} {param : String} : isDangling page param = false ↔
    ∀ name field, param = name ++ "." ++ field → '.' ∉ name.toList →
      ∃ property ∈ page.properties, property.name = name := by
  have dotted (name field : String) : RoutePath.splitParam param.toList =
      (name.toList, some field.toList) ↔ param = name ++ "." ++ field ∧ '.' ∉ name.toList := by
    rw [splitParam_eq_some_iff, ← String.toList_inj]
    simp
  unfold isDangling routeParamProperty
  rcases split : RoutePath.splitParam param.toList with ⟨property, _ | rest⟩
  · refine iff_of_true rfl fun name field made undotted => ?_
    have := (dotted name field).mpr ⟨made, undotted⟩
    rw [split] at this
    cases this
  · dsimp only [Option.map_some]
    rw [Bool.not_eq_false', List.any_eq_true]
    simp only [beq_iff_eq]
    constructor
    · intro known name field made undotted
      have := (dotted name field).mpr ⟨made, undotted⟩
      rw [split] at this
      cases this
      rwa [String.ofList_toList] at known
    · intro all
      have := (dotted (String.ofList property) (String.ofList rest)).mp (by
        rw [split, String.toList_ofList, String.toList_ofList])
      exact all _ _ this.1 this.2

private theorem isDangling_settled (page : Page) (param : String) : isDangling
    { page with
      properties := page.properties.map Property.settled, methods := page.methods.map Method.settled }
    param = isDangling page param := by
  unfold isDangling
  simp only [List.any_map]
  rfl

theorem pathProblems_eq_nil_iff : pathProblems (units.map Unit.settled) = [] ↔
    ∀ page, .page page ∈ units → ∀ param ∈ routeParams page.path, ∀ name field,
      param = name ++ "." ++ field → '.' ∉ name.toList →
      ∃ property ∈ page.properties, property.name = name := by
  simp only [← isDangling_eq_false_iff]
  rw [pathProblems, List.flatMap_eq_nil_iff, List.forall_mem_map]
  constructor
  · intro none page listed param given
    have := List.flatMap_eq_nil_iff.mp (none _ listed) param given
    rwa [problemIf_eq_nil_iff, isDangling_settled] at this
  · intro sound unit listed
    cases unit with
    | page page =>
      refine List.flatMap_eq_nil_iff.mpr fun param given => ?_
      rw [problemIf_eq_nil_iff, isDangling_settled]
      exact sound page listed param given
    | _ => rfl

theorem callProblems_eq_nil_iff : callProblems (units.map Unit.settled) = [] ↔
    (∀ page, .page page ∈ units → ∀ method ∈ page.methods, ¬ Flagged method.bag "callAfterLoad") ∧
    ∀ component, .component component ∈ units → ∀ method ∈ component.methods,
      ¬ Flagged method.bag "callOnLoad" := by
  have after (method : Method) : method.settled.options.callAfterLoad.getD false = true ↔
      Flagged method.bag "callAfterLoad" := flagged_iff
  have onLoad (method : Method) : method.settled.options.callOnLoad.getD false = true ↔
      Flagged method.bag "callOnLoad" := flagged_iff
  rw [callProblems, List.append_eq_nil_iff, List.flatMap_eq_nil_iff, List.flatMap_eq_nil_iff,
    ofKind_settled, ofKind_settled, List.forall_mem_map, List.forall_mem_map,
    forall_ofKind_iff kind_eq_page_iff, forall_ofKind_iff kind_eq_component_iff]
  simp only [List.map_eq_nil_iff, List.filter_eq_nil_iff, Unit.methods_settled, List.forall_mem_map,
    after, onLoad]
  rfl

/-- A design has no problems exactly if it keeps all rules. -/
theorem problems_eq_nil_iff : problems units = [] ↔ Sound units := by
  rw [problems, List.append_eq_nil_iff, List.flatMap_eq_nil_iff, wholeProblems,
    List.append_eq_nil_iff, List.append_eq_nil_iff, List.append_eq_nil_iff, List.append_eq_nil_iff,
    nameProblems_eq_nil_iff, memberProblems_eq_nil_iff, identityProblems_eq_nil_iff,
    pathProblems_eq_nil_iff, callProblems_eq_nil_iff]
  simp only [Unit.problems_eq_nil_iff, Property.problems_eq_nil_iff, Method.problems_eq_nil_iff,
    Behavior.problems_eq_nil_iff]
  constructor
  · rintro ⟨parts, ⟨⟨⟨names, members⟩, identities⟩, paths⟩, calls⟩
    exact {
      bags := fun unit listed =>
        ⟨fun property owned => ((parts unit listed).1 property owned).1, (parts unit listed).2.1⟩
      marks := fun unit listed property owned => ((parts unit listed).1 property owned).2
      behaviors := fun behavior listed => (parts _ listed).2.2 behavior rfl
      names, members, identities, paths, calls }
  · intro sound
    refine ⟨fun unit listed => ⟨fun property owned => ⟨(sound.bags unit listed).1 property owned,
      sound.marks unit listed property owned⟩, (sound.bags unit listed).2, ?_⟩,
      ⟨⟨⟨sound.names, sound.members⟩, sound.identities⟩, sound.paths⟩, sound.calls⟩
    rintro behavior rfl
    exact sound.behaviors behavior listed

end Settled

section Parsing

variable {text : String}

/-- What is made of a text that can be read: its units with the values that their options are written
with, or the first of their problems, with its position. -/
theorem parse_eq {written : List Unit} (readable : readUnits text.toList = .ok written) :
    parse text = match problems written with
      | [] => .ok (written.map Unit.settled)
      | problem :: _ =>
        .error (.invalid problem.fault (Position.ofOffset text.toList problem.offset)) := by
  rw [parse, parseChars, readable]
  dsimp only
  rw [checkUnits_eq]
  cases problems written with
  | nil => rfl
  | cons => rfl

/-- The units of a text that is accepted are those that are written there, and they keep all rules. -/
theorem settled_of_parse {units : List Unit} (parsed : parse text = .ok units) :
    ∃ written, readUnits text.toList = .ok written ∧ Sound written ∧
      units = written.map Unit.settled := by
  cases readable : readUnits text.toList with
  | error offset =>
    rw [parse, parseChars, readable] at parsed
    cases parsed
  | ok written =>
    rw [parse_eq readable] at parsed
    cases found : problems written with
    | nil =>
      rw [found] at parsed
      exact ⟨written, rfl, problems_eq_nil_iff.mp found, (Except.ok.inj parsed).symm⟩
    | cons =>
      rw [found] at parsed
      cases parsed

/-- A text that can be read is accepted exactly if its units keep all rules, and then the units have
the values that their options are written with. Else its first problem is reported where it lies. -/
theorem parse_iff_sound {written : List Unit} (readable : readUnits text.toList = .ok written) :
    ((∃ units, parse text = .ok units) ↔ Sound written) ∧
    parse text = match problems written with
      | [] => .ok (written.map Unit.settled)
      | problem :: _ =>
        .error (.invalid problem.fault (Position.ofOffset text.toList problem.offset)) := by
  refine ⟨?_, parse_eq readable⟩
  rw [parse_eq readable, ← problems_eq_nil_iff]
  cases problems written with
  | nil => exact iff_of_true ⟨_, rfl⟩ rfl
  | cons => exact iff_of_false (fun accepted => nomatch accepted.choose_spec) nofun

/-- Two entities of one name; the second repeats an option. -/
def twiceText : String :=
  "Entity Note end\nEntity Note\n    properties: - key: string (id, id);\nend\n"

/-- The repeated option is reported, since it is a problem of a part, and not the repeated name. -/
theorem parse_twiceText : ∃ written, readUnits twiceText.toList = .ok written ∧ ¬ Sound written ∧
    parse twiceText = .error (.invalid (.repeatedOption "id" "key") ⟨3, 36⟩) := by
  have found : (readUnits twiceText.toList).toOption.map problems =
      some [⟨.repeatedOption "id" "key", 63⟩, ⟨.repeatedUnit .entity "Note", 16⟩] := by
    simp (disch := rfl) only [twiceText, Text.toList_of_eq]
    decide +kernel
  have lies : Position.ofOffset twiceText.toList 63 = ⟨3, 36⟩ := by
    simp (disch := rfl) only [twiceText, Text.toList_of_eq]
    decide +kernel
  cases readable : readUnits twiceText.toList with
  | error offset =>
    rw [readable] at found
    cases found
  | ok written =>
    rw [readable] at found
    obtain ⟨sound, parsed⟩ := parse_iff_sound readable
    rw [Option.some.inj found] at parsed
    dsimp only at parsed
    rw [lies] at parsed
    refine ⟨written, rfl, fun keeps => ?_, parsed⟩
    obtain ⟨units, accepted⟩ := sound.mpr keeps
    rw [accepted] at parsed
    cases parsed

end Parsing

end Blueprint.Design
