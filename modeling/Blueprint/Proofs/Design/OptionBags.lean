import Blueprint.Design.Unit
import Blueprint.Design.Options
import Blueprint.Proofs.OrderedMap

namespace Blueprint.Design

section Values

/-- A value that reads as yes or as no. -/
def ReadsAs (answer : Bool) : Json → Prop
  | .bool value => value = answer
  | .int value => value = if answer then 1 else 0
  | .float value => value.toInt? = some (if answer then 1 else 0)
  | .str value => Text.lower value ∈ if answer then OptionType.yesTexts else OptionType.noTexts
  | _ => False

def IsAnswer (value : Json) : Prop := ∃ answer, ReadsAs answer value

def IsText (value : Json) : Prop := ∃ text, value = .str text

def IsObject (value : Json) : Prop := ∃ fields, value = .obj fields

def IsReadMode (value : Json) : Prop := value = .str "Automatically" ∨ value = .str "On Demand"

def IsScope (value : Json) : Prop :=
  value = .str "public" ∨ value = .str "private" ∨ value = .str "protected"

/-- The value that counts for an option: the one under its name, or else the one under its name with
underscores. -/
def given? (bag : List (String × Json)) (name : String) : Option Json :=
  (bag.lookup name).or (bag.lookup (underscored name))

/-- Options with what their values have to be. -/
abbrev Demands := List (String × (Json → Prop))

/-- A bag that meets demands: its keys are names of options, or their spellings with underscores
where the name itself is not given, and the values are as demanded. -/
structure ValidBag (demands : Demands) (bag : List (String × Json)) : Prop where
  known : ∀ key ∈ bag.map Prod.fst, ∃ demand ∈ demands,
    key = demand.1 ∨ key = underscored demand.1 ∧ demand.1 ∉ bag.map Prod.fst
  typed : ∀ demand ∈ demands, ∀ value, given? bag demand.1 = some value → demand.2 value

/-- A rule: its condition alone, or an object with a condition and, at will, a message. -/
def IsRule (value : Json) : Prop :=
  IsText value ∨ ∃ fields, value = .obj fields ∧ (given? fields "condition").isSome ∧
    ValidBag [("condition", IsText), ("message", IsText)] fields

/-- What the options of a property have to be. -/
def PropertyOptions.demands : Demands :=
  [("id", IsAnswer), ("required", IsAnswer), ("column", IsObject), ("hidden", IsAnswer),
    ("disabled", IsAnswer), ("displayName", IsText), ("placeholder", IsText), ("helpText", IsText),
    ("presentAs", IsText), ("requiredWhen", IsRule), ("excludeWhen", IsRule),
    ("disabledWhen", IsRule), ("belongsTo", IsAnswer), ("hasMany", IsAnswer), ("hasOne", IsAnswer),
    ("references", IsAnswer), ("foreignKey", IsText), ("input", IsAnswer), ("read", IsReadMode),
    ("save", IsReadMode), ("onChangeCall", IsText), ("afterReadCall", IsText), ("include", IsText),
    ("order", IsText)]

/-- What the options of a method have to be. -/
def MethodOptions.demands : Demands :=
  [("callOnLoad", IsAnswer), ("callAfterLoad", IsAnswer), ("scope", IsScope)]

end Values

section Types

variable {α : Type} {type : OptionType α} {accepts : Json → Prop} {value : Json}

/-- A type reads the values that are as demanded, and reports something of every other. -/
structure OptionType.Reads (type : OptionType α) (accepts : Json → Prop) : Prop where
  reads : ∀ value, (∃ result, type value = .ok result) ↔ accepts value
  reports : ∀ value problems, type value = .error problems → problems ≠ []

namespace OptionType

theorem text_eq_ok_iff {result : String} : text value = .ok result ↔ value = .str result := by
  constructor
  · intro read
    cases value <;> cases read
    rfl
  · rintro rfl
    rfl

theorem boolean_int (value : Int) : boolean (.int value) =
    if value = 0 then .ok false else if value = 1 then .ok true
    else .error [⟨[], .unclearBoolean⟩] := by
  by_cases zero : value = 0
  · subst zero
    rfl
  · by_cases one : value = 1
    · subst one
      rfl
    · rw [if_neg zero, if_neg one]
      unfold boolean
      split <;> first | rfl | simp_all

theorem boolean_float (value : Double) : boolean (.float value) =
    if value.toInt? = some 0 then .ok false else if value.toInt? = some 1 then .ok true
    else .error [⟨[], .notBoolean⟩] := by
  unfold boolean
  dsimp only
  by_cases zero : value.toInt? = some 0
  · rw [zero]
    rfl
  · by_cases one : value.toInt? = some 1
    · rw [one]
      rfl
    · rw [if_neg zero, if_neg one]
      split <;> first | rfl | contradiction

private theorem boolean_str (value : String) : boolean (.str value) =
    if Text.lower value ∈ yesTexts then .ok true else if Text.lower value ∈ noTexts then .ok false
    else .error [⟨[], .unclearBoolean⟩] := by
  simp only [← List.contains_iff_mem]
  rfl

theorem boolean_eq_ok_iff {answer : Bool} : boolean value = .ok answer ↔ ReadsAs answer value := by
  cases value with
  | bool value => exact ⟨fun read => Except.ok.inj read, fun same => congrArg Except.ok same⟩
  | int value =>
    rw [boolean_int, ReadsAs]
    cases answer <;> by_cases zero : value = 0 <;> by_cases one : value = 1 <;> simp_all
  | float value =>
    rw [boolean_float, ReadsAs]
    cases answer <;> by_cases zero : value.toInt? = some 0 <;>
      by_cases one : value.toInt? = some 1 <;> simp_all
  | str value =>
    rw [boolean_str, ReadsAs]
    -- No word stands for both answers.
    have apart : ∀ word ∈ yesTexts, word ∉ noTexts := by decide
    cases answer <;> by_cases yes : Text.lower value ∈ yesTexts <;>
      by_cases no : Text.lower value ∈ noTexts <;> simp_all
  | null => exact ⟨nofun, nofun⟩
  | arr items => exact ⟨nofun, nofun⟩
  | obj fields => exact ⟨nofun, nofun⟩

theorem reads_boolean : boolean.Reads IsAnswer where
  reads value := exists_congr fun _ => boolean_eq_ok_iff
  reports value problems failed := by
    rintro rfl
    cases value with
    | int value =>
      rw [boolean_int] at failed
      split at failed
      · cases failed
      · split at failed <;> cases failed
    | float value =>
      rw [boolean_float] at failed
      split at failed
      · cases failed
      · split at failed <;> cases failed
    | str value =>
      rw [boolean_str] at failed
      split at failed
      · cases failed
      · split at failed <;> cases failed
    | bool value => cases failed
    | null => cases failed
    | arr items => cases failed
    | obj fields => cases failed

private theorem reads_text : text.Reads IsText where
  reads value := exists_congr fun _ => text_eq_ok_iff
  reports value problems failed := by
    rintro rfl
    cases value <;> cases failed

private theorem reads_object : object.Reads IsObject where
  reads value := by
    refine ⟨?_, ?_⟩
    · rintro ⟨result, read⟩
      cases value <;> cases read
      exact ⟨_, rfl⟩
    · rintro ⟨fields, rfl⟩
      exact ⟨fields, rfl⟩
  reports value problems failed := by
    rintro rfl
    cases value <;> cases failed

private theorem reads_readMode : readMode.Reads IsReadMode where
  reads value := by
    unfold readMode IsReadMode
    split
    · simp
    · simp
    · exact iff_of_false (fun ⟨_, read⟩ => nomatch read) (by simp_all)
  reports value problems failed := by
    rintro rfl
    unfold readMode at failed
    split at failed <;> cases failed

private theorem reads_scope : scope.Reads IsScope where
  reads value := by
    unfold scope IsScope
    split
    · simp
    · simp
    · simp
    · exact iff_of_false (fun ⟨_, read⟩ => nomatch read) (by simp_all)
  reports value problems failed := by
    rintro rfl
    unfold scope at failed
    split at failed <;> cases failed

end OptionType

end Types

section Given

variable {bag : List (String × Json)} {name key : String} {value : Json}

theorem has_eq_isSome (bag : List (String × Json)) (key : String) :
    OrderedMap.has key bag = (bag.lookup key).isSome := by
  rw [Bool.eq_iff_iff, List.lookup_isSome_iff, OrderedMap.has, List.any_eq_true]
  simp only [Bool.beq_comm]

private theorem mem_keys_iff : key ∈ bag.map Prod.fst ↔ (bag.lookup key).isSome = true := by
  rw [← has_eq_isSome, OrderedMap.has, List.any_eq_true, List.mem_map]
  simp only [beq_iff_eq]

theorem given_cases (bag : List (String × Json)) (name : String) :
    (givenKey? bag name = none ∧ given? bag name = none) ∨
      ∃ key value, givenKey? bag name = some key ∧ bag.lookup key = some value ∧
        given? bag name = some value := by
  simp only [givenKey?, given?, List.find?_cons, List.find?_nil, has_eq_isSome]
  cases own : bag.lookup name with
  | some value => exact .inr ⟨name, value, rfl, own, rfl⟩
  | none =>
    cases low : bag.lookup (underscored name) with
    | some value => exact .inr ⟨underscored name, value, rfl, low, rfl⟩
    | none => exact .inl ⟨rfl, rfl⟩

/-- The key that counts is the name of the option, or its spelling where the name is not given. -/
theorem givenKey?_eq_some_iff : givenKey? bag name = some key ↔
    key ∈ bag.map Prod.fst ∧ (key = name ∨ key = underscored name ∧ name ∉ bag.map Prod.fst) := by
  simp only [givenKey?, List.find?_cons, List.find?_nil, has_eq_isSome, mem_keys_iff]
  cases own : (bag.lookup name).isSome with
  | true =>
    constructor
    · rintro ⟨⟩
      exact ⟨own, .inl rfl⟩
    · rintro ⟨_, rfl | ⟨_, absent⟩⟩
      · rfl
      · exact absurd rfl absent
  | false =>
    cases low : (bag.lookup (underscored name)).isSome with
    | true =>
      constructor
      · rintro ⟨⟩
        exact ⟨low, .inr ⟨rfl, Bool.false_ne_true⟩⟩
      · rintro ⟨given, rfl | ⟨rfl, _⟩⟩
        · rw [own] at given
          cases given
        · rfl
    | false =>
      refine iff_of_false nofun ?_
      rintro ⟨given, rfl | ⟨rfl, _⟩⟩
      · rw [own] at given
        cases given
      · rw [low] at given
        cases given

end Given

section Checkings

variable {α β : Type} {bag : List (String × Json)} {name : String} {type : OptionType α}
  {accepts : Json → Prop} {here later problems : List OptionProblem}

/-- A checking gives a value and adds problems to those before. -/
def Checks (checking : Checking α) (value : α) (problems : List OptionProblem) : Prop :=
  ∀ before, checking.run before = (value, before ++ problems)

theorem checks_pure (value : α) : Checks (pure value) value [] := by
  intro before
  rw [List.append_nil]
  rfl

private theorem checks_modify (problems : List OptionProblem) :
    Checks (modify (· ++ problems)) PUnit.unit problems :=
  fun _ => rfl

private theorem checks_bind {first : Checking α} {next : α → Checking β} {value : α} {result : β}
    (one : Checks first value here) (two : Checks (next value) result later) :
    Checks (first >>= next) result (here ++ later) := by
  intro before
  rw [← List.append_assoc, ← two, StateT.run_bind, one]
  rfl

theorem checks_cons {first : Checking α} {next : α → Checking β} {value : α} {result : β}
    {others : List (List OptionProblem)} (one : Checks first value here)
    (two : Checks (next value) result others.flatten) :
    Checks (first >>= next) result (here :: others).flatten :=
  checks_bind one two

theorem result_of_checks {checking : Checking α} {value : α} (checks : Checks checking value problems) :
    checking.result = if problems = [] then .ok value else .error problems := by
  unfold Checking.result
  rw [checks []]
  cases problems with
  | nil => rfl
  | cons => rfl

/-- The value of an option that is given and as its type demands. -/
def readOption (bag : List (String × Json)) (name : String) (type : OptionType α) : Option α :=
  (given? bag name).bind fun value => (type value).toOption

/-- The problems of an option, with the key under which it is given. -/
def problemsOf (bag : List (String × Json)) (name : String) (type : OptionType α) :
    List OptionProblem :=
  match givenKey? bag name with
  | none => []
  | some key =>
    match type ((bag.lookup key).getD .null) with
    | .ok _ => []
    | .error problems => problems.map fun problem => { problem with path := key :: problem.path }

theorem checks_option (bag : List (String × Json)) (name : String) (type : OptionType α) :
    Checks (option bag name type) (readOption bag name type) (problemsOf bag name type) := by
  unfold option readOption problemsOf
  rcases given_cases bag name with ⟨noKey, none⟩ | ⟨key, value, counts, found, given⟩
  · rw [noKey, none]
    exact checks_pure _
  · rw [counts, given]
    dsimp only
    rw [found, Option.getD_some, Option.bind_some]
    cases type value with
    | ok result => exact checks_pure _
    | error problems =>
      intro before
      rfl

theorem problemsOf_eq_nil_iff (reads : type.Reads accepts) : problemsOf bag name type = [] ↔
    ∀ value, given? bag name = some value → accepts value := by
  unfold problemsOf
  rcases given_cases bag name with ⟨noKey, none⟩ | ⟨key, value, counts, found, given⟩
  · rw [noKey, none]
    exact iff_of_true rfl nofun
  · rw [counts, given]
    dsimp only
    rw [found, Option.getD_some]
    simp only [Option.some.injEq, forall_eq', ← reads.reads]
    cases read : type value with
    | ok result => exact iff_of_true rfl ⟨result, rfl⟩
    | error problems =>
      refine iff_of_false (fun none => ?_) (by simp)
      exact reads.reports value problems read (List.map_eq_nil_iff.mp none)

theorem readOption_eq_some_iff {result : α} : readOption bag name type = some result ↔
    ∃ value, given? bag name = some value ∧ type value = .ok result := by
  rw [readOption, Option.bind_eq_some_iff]
  refine exists_congr fun value => and_congr_right fun _ => ?_
  cases type value <;> simp [Except.toOption]

/-- The keys that belong to none of the named options. -/
def unknownKeys (bag : List (String × Json)) (names : List String) : List OptionProblem :=
  (bag.filter fun entry => !(names.filterMap (givenKey? bag)).contains entry.1).map fun entry =>
    ⟨[entry.1], .unknown⟩

theorem checks_refuseOthers (bag : List (String × Json)) (names : List String) :
    Checks (refuseOthers bag names) ⟨⟩ (unknownKeys bag names) :=
  checks_modify _

private theorem unknownKeys_eq_nil_iff {names : List String} : unknownKeys bag names = [] ↔
    ∀ key ∈ bag.map Prod.fst, ∃ name ∈ names,
      key = name ∨ key = underscored name ∧ name ∉ bag.map Prod.fst := by
  simp only [unknownKeys, List.map_eq_nil_iff, List.filter_eq_nil_iff, Bool.not_eq_true',
    Bool.not_eq_false, List.contains_iff_mem, List.mem_filterMap, List.forall_mem_map,
    givenKey?_eq_some_iff]
  refine forall₂_congr fun entry listed => exists_congr fun name => and_congr_right fun _ => ?_
  exact and_iff_right (List.mem_map_of_mem listed)

theorem validBag_iff {demands : Demands} : ValidBag demands bag ↔
    (∀ demand ∈ demands, ∀ value, given? bag demand.1 = some value → demand.2 value) ∧
      unknownKeys bag (demands.map Prod.fst) = [] := by
  rw [unknownKeys_eq_nil_iff]
  constructor
  · rintro ⟨known, typed⟩
    exact ⟨typed, by simpa using known⟩
  · rintro ⟨typed, known⟩
    exact ⟨by simpa using known, typed⟩

end Checkings

section Rules

variable {fields : List (String × Json)}

/-- The problems of a rule that is given as an object. -/
def ruleProblems (fields : List (String × Json)) : List OptionProblem :=
  List.flatten
    [problemsOf fields "condition" OptionType.text,
      if OrderedMap.has "condition" fields then [] else [⟨["condition"], .missing⟩],
      problemsOf fields "message" OptionType.text, unknownKeys fields ["condition", "message"]]

theorem OptionType.rule_obj (fields : List (String × Json)) : OptionType.rule (.obj fields) =
    if ruleProblems fields = [] then
      .ok ⟨(readOption fields "condition" OptionType.text).getD "",
        readOption fields "message" OptionType.text⟩
    else .error (ruleProblems fields) := by
  refine result_of_checks ?_
  unfold ruleProblems
  refine checks_cons (checks_option _ _ _) ?_
  have rest : Checks
      (do
        let message ← option fields "message" OptionType.text
        refuseOthers fields ["condition", "message"]
        return (⟨(readOption fields "condition" OptionType.text).getD "", message⟩ :
          ConditionalRule))
      ⟨(readOption fields "condition" OptionType.text).getD "",
        readOption fields "message" OptionType.text⟩
      [problemsOf fields "message" OptionType.text,
        unknownKeys fields ["condition", "message"]].flatten :=
    checks_cons (checks_option _ _ _) (checks_cons (checks_refuseOthers _ _) (checks_pure _))
  cases OrderedMap.has "condition" fields with
  | true => exact rest
  | false => exact checks_cons (checks_modify _) rest

private theorem ruleProblems_eq_nil_iff : ruleProblems fields = [] ↔
    (given? fields "condition").isSome = true ∧
      ValidBag [("condition", IsText), ("message", IsText)] fields := by
  have spelled : underscored "condition" = "condition" := by decide
  have given : given? fields "condition" = fields.lookup "condition" := by
    rw [given?, spelled, Option.or_self]
  rw [validBag_iff, ruleProblems, List.flatten_eq_nil_iff, given]
  simp only [List.forall_mem_cons, List.not_mem_nil, false_implies, implies_true, and_true,
    problemsOf_eq_nil_iff OptionType.reads_text, has_eq_isSome, ite_eq_left_iff, reduceCtorEq,
    imp_false, Decidable.not_not, List.map_cons, List.map_nil]
  tauto

theorem OptionType.reads_rule : OptionType.rule.Reads IsRule where
  reads value := by
    cases value with
    | str text => exact iff_of_true ⟨_, rfl⟩ (.inl ⟨text, rfl⟩)
    | obj fields =>
      have shape : IsRule (.obj fields) ↔ ruleProblems fields = [] := by
        simp [IsRule, IsText, ruleProblems_eq_nil_iff]
      rw [OptionType.rule_obj, shape]
      split
      · rename_i none
        exact iff_of_true ⟨_, rfl⟩ none
      · rename_i some
        exact iff_of_false (fun ⟨_, read⟩ => nomatch read) some
    | _ =>
      refine iff_of_false (fun ⟨_, read⟩ => nomatch read) ?_
      simp [IsRule, IsText]
  reports value problems failed := by
    rintro rfl
    cases value with
    | obj fields =>
      rw [OptionType.rule_obj] at failed
      split at failed
      · cases failed
      · rename_i some
        exact some (Except.error.inj failed)
    | _ => cases failed

end Rules

section Bags

variable {bag : List (String × Json)}

/-- The options of a property that a bag gives. -/
def PropertyOptions.ofBag (bag : List (String × Json)) : PropertyOptions where
  id := readOption bag "id" OptionType.boolean
  required := readOption bag "required" OptionType.boolean
  column := readOption bag "column" OptionType.object
  hidden := readOption bag "hidden" OptionType.boolean
  disabled := readOption bag "disabled" OptionType.boolean
  displayName := readOption bag "displayName" OptionType.text
  placeholder := readOption bag "placeholder" OptionType.text
  helpText := readOption bag "helpText" OptionType.text
  presentAs := readOption bag "presentAs" OptionType.text
  requiredWhen := readOption bag "requiredWhen" OptionType.rule
  excludeWhen := readOption bag "excludeWhen" OptionType.rule
  disabledWhen := readOption bag "disabledWhen" OptionType.rule
  belongsTo := readOption bag "belongsTo" OptionType.boolean
  hasMany := readOption bag "hasMany" OptionType.boolean
  hasOne := readOption bag "hasOne" OptionType.boolean
  references := readOption bag "references" OptionType.boolean
  foreignKey := readOption bag "foreignKey" OptionType.text
  input := readOption bag "input" OptionType.boolean
  read := readOption bag "read" OptionType.readMode
  save := readOption bag "save" OptionType.readMode
  onChangeCall := readOption bag "onChangeCall" OptionType.text
  afterReadCall := readOption bag "afterReadCall" OptionType.text
  included := readOption bag "include" OptionType.text
  order := readOption bag "order" OptionType.text

/-- The problems of a property's bag, in the order in which they are reported. -/
def PropertyOptions.problems (bag : List (String × Json)) : List OptionProblem :=
  List.flatten
    [problemsOf bag "id" OptionType.boolean, problemsOf bag "required" OptionType.boolean,
      problemsOf bag "column" OptionType.object, problemsOf bag "hidden" OptionType.boolean,
      problemsOf bag "disabled" OptionType.boolean, problemsOf bag "displayName" OptionType.text,
      problemsOf bag "placeholder" OptionType.text, problemsOf bag "helpText" OptionType.text,
      problemsOf bag "presentAs" OptionType.text, problemsOf bag "requiredWhen" OptionType.rule,
      problemsOf bag "excludeWhen" OptionType.rule, problemsOf bag "disabledWhen" OptionType.rule,
      problemsOf bag "belongsTo" OptionType.boolean, problemsOf bag "hasMany" OptionType.boolean,
      problemsOf bag "hasOne" OptionType.boolean, problemsOf bag "references" OptionType.boolean,
      problemsOf bag "foreignKey" OptionType.text, problemsOf bag "input" OptionType.boolean,
      problemsOf bag "read" OptionType.readMode, problemsOf bag "save" OptionType.readMode,
      problemsOf bag "onChangeCall" OptionType.text,
      problemsOf bag "afterReadCall" OptionType.text, problemsOf bag "include" OptionType.text,
      problemsOf bag "order" OptionType.text, unknownKeys bag PropertyOptions.names]

theorem PropertyOptions.check_eq (bag : List (String × Json)) : PropertyOptions.check bag =
    if PropertyOptions.problems bag = [] then .ok (PropertyOptions.ofBag bag)
    else .error (PropertyOptions.problems bag) := by
  refine result_of_checks ?_
  unfold PropertyOptions.problems
  iterate 24 refine checks_cons (checks_option _ _ _) ?_
  exact checks_cons (checks_refuseOthers _ _) (checks_pure _)

/-- A property's bag has no problems exactly if it is valid. -/
theorem PropertyOptions.problems_eq_nil_iff :
    PropertyOptions.problems bag = [] ↔ ValidBag PropertyOptions.demands bag := by
  rw [validBag_iff, PropertyOptions.problems, List.flatten_eq_nil_iff]
  simp only [PropertyOptions.demands, List.forall_mem_cons, List.not_mem_nil, false_implies,
    implies_true, and_true, and_assoc, problemsOf_eq_nil_iff OptionType.reads_boolean,
    problemsOf_eq_nil_iff OptionType.reads_object, problemsOf_eq_nil_iff OptionType.reads_text,
    problemsOf_eq_nil_iff OptionType.reads_rule, problemsOf_eq_nil_iff OptionType.reads_readMode]
  rfl

/-- The options of a method that a bag gives. -/
def MethodOptions.ofBag (bag : List (String × Json)) : MethodOptions where
  callOnLoad := readOption bag "callOnLoad" OptionType.boolean
  callAfterLoad := readOption bag "callAfterLoad" OptionType.boolean
  scope := readOption bag "scope" OptionType.scope

/-- The problems of a method's bag, in the order in which they are reported. -/
def MethodOptions.problems (bag : List (String × Json)) : List OptionProblem :=
  List.flatten
    [problemsOf bag "callOnLoad" OptionType.boolean,
      problemsOf bag "callAfterLoad" OptionType.boolean, problemsOf bag "scope" OptionType.scope,
      unknownKeys bag ["callOnLoad", "callAfterLoad", "scope"]]

theorem MethodOptions.check_eq (bag : List (String × Json)) : MethodOptions.check bag =
    if MethodOptions.problems bag = [] then .ok (MethodOptions.ofBag bag)
    else .error (MethodOptions.problems bag) := by
  refine result_of_checks ?_
  unfold MethodOptions.problems
  iterate 3 refine checks_cons (checks_option _ _ _) ?_
  exact checks_cons (checks_refuseOthers _ _) (checks_pure _)

/-- A method's bag has no problems exactly if it is valid. -/
theorem MethodOptions.problems_eq_nil_iff :
    MethodOptions.problems bag = [] ↔ ValidBag MethodOptions.demands bag := by
  rw [validBag_iff, MethodOptions.problems, List.flatten_eq_nil_iff]
  simp only [MethodOptions.demands, List.forall_mem_cons, List.not_mem_nil, false_implies,
    implies_true, and_true, and_assoc, problemsOf_eq_nil_iff OptionType.reads_boolean,
    problemsOf_eq_nil_iff OptionType.reads_scope]
  rfl

end Bags

section TextOptions

variable {bag : List (String × Json)} {name key : String} {value : Json}

/-- The options of a property that are texts. -/
def textOptions : List String :=
  ["displayName", "placeholder", "helpText", "presentAs", "foreignKey", "onChangeCall",
    "afterReadCall", "include", "order"]

/-- A key is the name of an option or its spelling with underscores. -/
def Spells (key name : String) : Prop := key = name ∨ key = underscored name

theorem mem_names_of_mem_textOptions (listed : name ∈ textOptions) : name ∈ PropertyOptions.names :=
  (show textOptions ⊆ PropertyOptions.names by decide) listed

/-- The letters of a key as small ones, without its underscores. -/
def condensed (key : String) : List Char := (key.toList.filter (· != '_')).map Char.toLower

theorem small_of_isUpper {c : Char} (upper : c.isUpper = true) :
    (c != '_') = true ∧ (c.toLower != '_') = true ∧ c.toLower.toLower = c.toLower := by
  have table : ∀ n ∈ List.range' 0x41 26, (Char.ofNat n != '_') = true ∧
      ((Char.ofNat n).toLower != '_') = true ∧
      (Char.ofNat n).toLower.toLower = (Char.ofNat n).toLower := by decide
  obtain ⟨above, below⟩ := of_decide_eq_true upper
  have first : 0x41 ≤ c.toNat := UInt32.le_iff_toNat_le.mp above
  have last : c.toNat ≤ 0x5a := UInt32.le_iff_toNat_le.mp below
  have here := table c.toNat (List.mem_range'_1.mpr (by omega))
  rwa [Char.ofNat_toNat] at here

theorem condensed_underscored (name : String) : condensed (underscored name) = condensed name := by
  rw [condensed, condensed, underscored, String.toList_ofList]
  induction name.toList with
  | nil => rfl
  | cons c rest ih =>
    rw [List.flatMap_cons, List.filter_append, List.map_append, ih]
    split
    · rename_i upper
      obtain ⟨other, small, stays⟩ := small_of_isUpper upper
      simp [other, small, stays]
    · by_cases line : c = '_' <;> simp [line]

theorem Spells.condensed_eq (spelled : Spells key name) : condensed key = condensed name := by
  obtain rfl | rfl := spelled
  · rfl
  · exact condensed_underscored name

theorem Spells.eq {other : String} (first : Spells key name) (second : Spells key other)
    (listed : name ∈ PropertyOptions.names) (also : other ∈ PropertyOptions.names) : name = other := by
  have apart : (PropertyOptions.names.map condensed).Nodup := by decide
  exact List.inj_on_of_nodup_map apart listed also (first.condensed_eq.symm.trans second.condensed_eq)

theorem given?_of_mem (distinct : (bag.map Prod.fst).Nodup)
    (valid : ValidBag PropertyOptions.demands bag) (listed : name ∈ PropertyOptions.names)
    (spelled : Spells key name) (entry : (key, value) ∈ bag) : given? bag name = some value := by
  have found : bag.lookup key = some value := OrderedMap.lookup_of_mem distinct entry
  by_cases own : key = name
  · rw [given?, ← own, found, Option.some_or]
  · obtain ⟨demand, member, known⟩ := valid.known _ (List.mem_map_of_mem entry)
    obtain rfl := spelled.eq (known.imp_right And.left) listed (List.mem_map_of_mem member)
    have absent := (known.resolve_left own).2
    obtain rfl := spelled.resolve_left own
    rw [given?, OrderedMap.lookup_eq_none_of_not_mem absent, Option.none_or, found]

theorem lookup_givenEntries {entries : List (String × Option Json)}
    (distinct : (entries.map Prod.fst).Nodup) (name : String) :
    (entries.filterMap fun entry => entry.2.map (entry.1, ·)).lookup name =
      (entries.lookup name).join := by
  induction entries with
  | nil => rfl
  | cons entry entries ih =>
    obtain ⟨key, value⟩ := entry
    obtain ⟨fresh, later⟩ := List.nodup_cons.mp distinct
    rw [List.lookup_cons, List.filterMap_cons]
    cases value with
    | none =>
      rw [Option.map_none, ih later]
      cases same : name == key with
      | true =>
        rw [beq_iff_eq.mp same, OrderedMap.lookup_eq_none_of_not_mem fresh]
        rfl
      | false => rfl
    | some value =>
      rw [Option.map_some, List.lookup_cons, ih later]
      cases name == key <;> rfl

/-- What a valid bag has under a key of a text option is the value of that option. -/
theorem lookup_bag_of_mem {text : String} (distinct : (bag.map Prod.fst).Nodup)
    (valid : ValidBag PropertyOptions.demands bag) (listed : name ∈ textOptions)
    (spelled : Spells key name) (entry : (key, .str text) ∈ bag) : ∃ fields,
    (PropertyOptions.ofBag bag).bag = .obj fields ∧ fields.lookup name = some (.str text) := by
  have given := given?_of_mem distinct valid (mem_names_of_mem_textOptions listed) spelled entry
  have read : readOption bag name OptionType.text = some text :=
    readOption_eq_some_iff.mpr ⟨_, given, rfl⟩
  have shown : ∃ fields, (PropertyOptions.ofBag bag).bag = .obj fields ∧
      fields.lookup name = (readOption bag name OptionType.text).map .str := by
    refine ⟨_, rfl, (lookup_givenEntries ?_ name).trans ?_⟩
    · show PropertyOptions.names.Nodup
      decide
    simp only [textOptions, List.mem_cons, List.not_mem_nil, or_false] at listed
    rcases listed with rfl | rfl | rfl | rfl | rfl | rfl | rfl | rfl | rfl
    all_goals rfl
  rwa [read] at shown

/-- A bag with a single key gives the option of that key alone. -/
theorem eq_and_spells_of_given? {other : Json} (given : given? [(key, value)] name = some other) :
    other = value ∧ Spells key name := by
  rcases Option.or_eq_some_iff.mp given with own | ⟨_, low⟩
  · obtain ⟨rfl, rfl⟩ := Prod.mk.inj (List.mem_singleton.mp (OrderedMap.mem_of_lookup own))
    exact ⟨rfl, .inl rfl⟩
  · obtain ⟨rfl, rfl⟩ := Prod.mk.inj (List.mem_singleton.mp (OrderedMap.mem_of_lookup low))
    exact ⟨rfl, .inr rfl⟩

/-- A text alone makes a valid bag. -/
theorem validBag_singleton (listed : name ∈ textOptions) (spelled : Spells key name) (text : String) :
    ValidBag PropertyOptions.demands [(key, .str text)] := by
  have named := mem_names_of_mem_textOptions listed
  have texts : ∀ demand ∈ PropertyOptions.demands, demand.1 ∈ textOptions → demand.2 = IsText := by
    simp [PropertyOptions.demands, textOptions]
  refine ⟨?_, fun demand member json given => ?_⟩
  · obtain ⟨demand, member, same⟩ := List.mem_map.mp
      (show name ∈ PropertyOptions.demands.map Prod.fst from named)
    refine List.forall_mem_singleton.mpr ⟨demand, member, ?_⟩
    by_cases own : key = demand.1
    · exact .inl own
    · rw [same] at own ⊢
      exact .inr ⟨spelled.resolve_left own, fun again => own (List.mem_singleton.mp again).symm⟩
  · obtain ⟨rfl, spells⟩ := eq_and_spells_of_given? given
    obtain rfl := spelled.eq spells named (List.mem_map_of_mem member)
    rw [texts demand member listed]
    exact ⟨text, rfl⟩

end TextOptions

end Blueprint.Design
