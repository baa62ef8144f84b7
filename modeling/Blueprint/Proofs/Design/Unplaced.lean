import Blueprint.Design.Check

namespace Blueprint.Design

def WrittenOption.unplaced (option : WrittenOption) : WrittenOption := { option with offset := 0 }

def Property.unplaced (property : Property) : Property :=
  { property with offset := 0, written := property.written.map WrittenOption.unplaced }

def Method.unplaced (method : Method) : Method :=
  { method with offset := 0, written := method.written.map WrittenOption.unplaced }

def Project.unplaced (unit : Project) : Project := { unit with offset := 0 }

def DataSource.unplaced (unit : DataSource) : DataSource := { unit with offset := 0 }

def Entity.unplaced (unit : Entity) : Entity :=
  { unit with offset := 0, properties := unit.properties.map Property.unplaced }

def Mixin.unplaced (unit : Mixin) : Mixin :=
  { unit with offset := 0, properties := unit.properties.map Property.unplaced }

def Behavior.unplaced (unit : Behavior) : Behavior := { unit with offset := 0 }

def Page.unplaced (unit : Page) : Page :=
  { unit with
    offset := 0
    properties := unit.properties.map Property.unplaced
    methods := unit.methods.map Method.unplaced }

def Component.unplaced (unit : Component) : Component :=
  { unit with
    offset := 0
    properties := unit.properties.map Property.unplaced
    methods := unit.methods.map Method.unplaced }

def SelectorInterface.unplaced (unit : SelectorInterface) : SelectorInterface :=
  { unit with offset := 0 }

/-- A unit without the offsets of its parts. -/
def Unit.unplaced : Unit → Unit
  | .project unit => .project unit.unplaced
  | .dataSource unit => .dataSource unit.unplaced
  | .entity unit => .entity unit.unplaced
  | .mixin unit => .mixin unit.unplaced
  | .behavior unit => .behavior unit.unplaced
  | .page unit => .page unit.unplaced
  | .component unit => .component unit.unplaced
  | .selectorInterface unit => .selectorInterface unit.unplaced

/-- A problem without its place. -/
def Problem.unplaced (problem : Problem) : Problem := { problem with offset := 0 }

/-- An outcome without places. -/
def withoutPlaces {α β : Type} (change : α → β) : Except Problem α → Except Problem β
  | .error problem => .error problem.unplaced
  | .ok value => .ok (change value)

section Parts

variable {α β γ δ : Type}

theorem withoutPlaces_bind {first : Except Problem α} {firstToo : Except Problem β}
    {change : α → β} {next : α → Except Problem γ} {nextToo : β → Except Problem δ}
    {changeNext : γ → δ} (same : firstToo = withoutPlaces change first)
    (step : ∀ value, nextToo (change value) = withoutPlaces changeNext (next value)) :
    firstToo >>= nextToo = withoutPlaces changeNext (first >>= next) := by
  subst same
  cases first with
  | error problem => rfl
  | ok value => exact step value

theorem withoutPlaces_mapM {check : α → Except Problem α} {change : α → α}
    (each : ∀ item, check (change item) = withoutPlaces change (check item)) (items : List α) :
    (items.map change).mapM check = withoutPlaces (List.map change) (items.mapM check) := by
  induction items with
  | nil => rfl
  | cons item items ih =>
    rw [List.map_cons, List.mapM_cons, List.mapM_cons]
    exact withoutPlaces_bind (each item) fun value => withoutPlaces_bind ih fun values => rfl

theorem firstRepeated?_map {nameOf : α → String} {change : α → α}
    (same : ∀ value, nameOf (change value) = nameOf value) (seen : List String) (values : List α) :
    firstRepeated? nameOf seen (values.map change) =
      (firstRepeated? nameOf seen values).map change := by
  induction values generalizing seen with
  | nil => rfl
  | cons value values ih =>
    rw [List.map_cons, firstRepeated?, firstRepeated?, same, ih]
    split <;> rfl

private theorem bagOf_unplaced (owner : String) (written : List WrittenOption) :
    bagOf owner (written.map WrittenOption.unplaced) = withoutPlaces id (bagOf owner written) := by
  have keys (option : WrittenOption) : option.unplaced.key = option.key := rfl
  rw [bagOf, firstRepeated?_map keys, bagOf]
  cases firstRepeated? WrittenOption.key [] written with
  | some option => rfl
  | none =>
    rw [Option.map_none, List.map_map]
    rfl

theorem Property.check_unplaced (property : Property) :
    property.unplaced.check = withoutPlaces Property.unplaced property.check := by
  refine withoutPlaces_bind (bagOf_unplaced property.name property.written) fun bag => ?_
  rw [id]
  cases PropertyOptions.check bag with
  | error problems => rfl
  | ok options =>
    change (if options.hasMany.getD false && !property.type.array then _ else _) =
      withoutPlaces _ (if options.hasMany.getD false && !property.type.array then _ else _)
    split
    · rfl
    · change (if options.markers.length > 1 then _ else _) =
        withoutPlaces _ (if options.markers.length > 1 then _ else _)
      split
      · rfl
      · rfl

theorem Method.check_unplaced (method : Method) :
    method.unplaced.check = withoutPlaces Method.unplaced method.check := by
  refine withoutPlaces_bind (bagOf_unplaced method.name method.written) fun bag => ?_
  rw [id]
  cases MethodOptions.check bag with
  | error problems => rfl
  | ok options => rfl

theorem Behavior.check_unplaced (behavior : Behavior) :
    behavior.unplaced.check = withoutPlaces Behavior.unplaced behavior.check := by
  obtain ⟨offset, name, owner, description, type, httpMethod, uses, imports, function⟩ := behavior
  rw [Behavior.check, Behavior.check]
  dsimp only [Behavior.unplaced]
  split
  · rfl
  · rfl
  · split
    · rfl
    · rfl

theorem Unit.check_unplaced (unit : Unit) :
    unit.unplaced.check = withoutPlaces Unit.unplaced unit.check := by
  have properties := withoutPlaces_mapM Property.check_unplaced
  have methods := withoutPlaces_mapM Method.check_unplaced
  cases unit with
  | entity unit => exact withoutPlaces_bind (properties unit.properties) fun _ => rfl
  | mixin unit => exact withoutPlaces_bind (properties unit.properties) fun _ => rfl
  | behavior unit => exact withoutPlaces_bind unit.check_unplaced fun _ => rfl
  | page unit =>
    exact withoutPlaces_bind (properties unit.properties) fun _ =>
      withoutPlaces_bind (methods unit.methods) fun _ => rfl
  | component unit =>
    exact withoutPlaces_bind (properties unit.properties) fun _ =>
      withoutPlaces_bind (methods unit.methods) fun _ => rfl
  | project unit => rfl
  | dataSource unit => rfl
  | selectorInterface unit => rfl

end Parts

section Whole

variable (units : List Unit)

theorem Unit.kind_unplaced (unit : Unit) : unit.unplaced.kind = unit.kind := by
  cases unit <;> rfl

theorem Unit.name_unplaced (unit : Unit) : unit.unplaced.name = unit.name := by
  cases unit <;> rfl

theorem Unit.offset_unplaced (unit : Unit) : unit.unplaced.offset = 0 := by
  cases unit <;> rfl

theorem Unit.properties_unplaced (unit : Unit) :
    unit.unplaced.properties = unit.properties.map Property.unplaced := by
  cases unit <;> rfl

theorem Unit.methods_unplaced (unit : Unit) :
    unit.unplaced.methods = unit.methods.map Method.unplaced := by
  cases unit <;> rfl

theorem ofKind_unplaced (kind : UnitKind) :
    ofKind kind (units.map Unit.unplaced) = (ofKind kind units).map Unit.unplaced := by
  rw [ofKind, List.filter_map, ofKind]
  congr 2
  funext unit
  rw [Function.comp_apply, unit.kind_unplaced]

theorem findSome?_unplaced {α : Type} {items : List α} {change : α → α}
    {find : α → Option Problem} (each : ∀ item, find (change item) = (find item).map Problem.unplaced) :
    (items.map change).findSome? find = (items.findSome? find).map Problem.unplaced := by
  rw [List.findSome?_map, List.map_findSome?]
  congr 1
  funext item
  exact each item

private theorem repeatedUnit?_unplaced :
    repeatedUnit? (units.map Unit.unplaced) = (repeatedUnit? units).map Problem.unplaced := by
  rw [repeatedUnit?, repeatedUnit?, List.map_findSome?]
  congr 1
  funext kind
  rw [ofKind_unplaced, firstRepeated?_map Unit.name_unplaced, Function.comp_apply, Option.map_map,
    Option.map_map]
  congr 1
  funext unit
  rw [Function.comp_apply, Function.comp_apply, unit.name_unplaced, unit.offset_unplaced]
  rfl

theorem repeatedMember?_unplaced :
    repeatedMember? (units.map Unit.unplaced) = (repeatedMember? units).map Problem.unplaced := by
  have properties (property : Property) : property.unplaced.name = property.name := rfl
  have methods (method : Method) : method.unplaced.name = method.name := rfl
  rw [repeatedMember?, repeatedMember?, List.map_findSome?]
  congr 1
  funext kind
  rw [ofKind_unplaced, Function.comp_apply]
  refine findSome?_unplaced fun unit => ?_
  rw [unit.properties_unplaced, unit.methods_unplaced, unit.name_unplaced,
    firstRepeated?_map properties, firstRepeated?_map methods, Option.map_or, Option.map_map,
    Option.map_map, Option.map_map, Option.map_map]
  rfl

private theorem flaggedIdentities_unplaced (properties : List Property) :
    flaggedIdentities (properties.map Property.unplaced) =
      (flaggedIdentities properties).map Property.unplaced :=
  List.filter_map

theorem invalidIdentity?_unplaced :
    invalidIdentity? (units.map Unit.unplaced) = (invalidIdentity? units).map Problem.unplaced := by
  rw [invalidIdentity?, invalidIdentity?, ofKind_unplaced]
  refine findSome?_unplaced fun unit => ?_
  rw [unit.properties_unplaced, unit.name_unplaced, flaggedIdentities_unplaced]
  match flaggedIdentities unit.properties with
  | [] => rfl
  | [property] =>
    rw [List.map_cons, List.map_nil]
    dsimp only [Property.unplaced]
    split <;> rfl
  | first :: second :: rest =>
    rw [List.map_cons, List.map_cons]
    dsimp only
    rw [List.map_cons, List.map_cons, List.map_map]
    rfl

theorem invalidPath?_unplaced :
    invalidPath? (units.map Unit.unplaced) = (invalidPath? units).map Problem.unplaced := by
  refine findSome?_unplaced fun unit => ?_
  cases unit with
  | page page =>
    change (routeParams page.path).findSome? _ = ((routeParams page.path).findSome? _).map _
    rw [List.map_findSome?]
    congr 1
    funext param
    rw [Function.comp_apply]
    rcases routeParamProperty param with ⟨property, _ | path⟩
    · rfl
    · have named : (page.unplaced.properties.any (·.name == property)) =
          page.properties.any (·.name == property) := List.any_map
      simp only [named]
      split <;> rfl
  | _ => rfl

private theorem invalidCall?_unplaced :
    invalidCall? (units.map Unit.unplaced) = (invalidCall? units).map Problem.unplaced := by
  rw [invalidCall?, invalidCall?, ofKind_unplaced, ofKind_unplaced, Option.map_or]
  congr 1
  · refine findSome?_unplaced fun page => ?_
    rw [page.methods_unplaced, page.name_unplaced, List.find?_map, Option.map_map, Option.map_map]
    rfl
  · refine findSome?_unplaced fun component => ?_
    rw [component.methods_unplaced, component.name_unplaced, List.find?_map, Option.map_map,
      Option.map_map]
    rfl

theorem report_unplaced (problem : Option Problem) :
    report (problem.map Problem.unplaced) = withoutPlaces id (report problem) := by
  cases problem <;> rfl

private theorem checkWhole_unplaced :
    checkWhole (units.map Unit.unplaced) = withoutPlaces id (checkWhole units) := by
  rw [checkWhole, repeatedUnit?_unplaced, repeatedMember?_unplaced, invalidIdentity?_unplaced,
    invalidPath?_unplaced, invalidCall?_unplaced, checkWhole]
  refine withoutPlaces_bind (report_unplaced _) fun _ => ?_
  refine withoutPlaces_bind (report_unplaced _) fun _ => ?_
  refine withoutPlaces_bind (report_unplaced _) fun _ => ?_
  exact withoutPlaces_bind (report_unplaced _) fun _ => report_unplaced _

theorem checkUnits_unplaced :
    checkUnits (units.map Unit.unplaced) =
      withoutPlaces (List.map Unit.unplaced) (checkUnits units) :=
  withoutPlaces_bind (withoutPlaces_mapM Unit.check_unplaced units) fun units =>
    withoutPlaces_bind (checkWhole_unplaced units) fun _ => rfl

end Whole

end Blueprint.Design
