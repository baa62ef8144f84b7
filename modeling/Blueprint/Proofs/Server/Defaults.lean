import Blueprint.Proofs.ServerCode.LiteralValues
import Blueprint.Server.Schema

/-!
Initializers as defaults. The value of an initializer is printed as a literal that evaluates to it
again, unless a part of it goes by a name, an integer has too many digits or brackets are nested too
deeply. An initializer fails at the first fault of its expression, in the order of reading.
-/

namespace Blueprint.ServerCode

open Literal (Refusal)

mutual

/-- The value of an expression can be a key, if it has one. -/
def Expr.makesKey : Expr → Bool
  | .list _ | .set _ | .dict _ | .call .. => false
  | .tuple items => Expr.makeKeys items
  | _ => true

def Expr.makeKeys : List Expr → Bool
  | [] => true
  | item :: items => item.makesKey && Expr.makeKeys items

end

/-- The constant that an expression is behind at most one sign. -/
def Expr.signedConstant? : Expr → Option Constant
  | .constant value | .unary .plus (.constant value) | .unary .minus (.constant value) => some value
  | _ => none

/-- What is wrong with a sum, which has to be one of a real and an imaginary number. A whole number
has to be within the range of doubles. -/
def sumFaults (left right : Expr) : List Refusal :=
  match left.signedConstant?, right with
  | some (.int value), .constant (.imaginary _) =>
    match Double.ofInt value with
    | .infinite _ => [.tooLarge]
    | _ => []
  | some (.float _), .constant (.imaginary _) => []
  | _, _ => [.notConstant]

mutual

/-- What is wrong with an expression as a literal, in the order in which it is read. -/
def Expr.faults : Expr → List Refusal
  | .constant _ => []
  | .tuple items | .list items => Expr.itemFaults items
  | .set items => Expr.memberFaults items
  | .dict entries => Expr.entryFaults entries
  | .call (.name "set") [] [] => []
  | .binary left operator right =>
    if operator == .add || operator == .subtract then sumFaults left right else [.notConstant]
  | other =>
    match other.signedConstant? with
    | some (.int _) | some (.float _) | some (.imaginary _) => []
    | _ => [.notConstant]

def Expr.itemFaults : List Expr → List Refusal
  | [] => []
  | item :: items => item.faults ++ Expr.itemFaults items

/-- A member that cannot be one is noticed as soon as it is read. -/
def Expr.memberFaults : List Expr → List Refusal
  | [] => []
  | item :: items =>
    item.faults ++ ((if item.makesKey then [] else [.notAKey]) ++ Expr.memberFaults items)

/-- A key that cannot be one is noticed as soon as its value is read. -/
def Expr.entryFaults : List DictEntry → List Refusal
  | [] => []
  | .pair key value :: entries =>
    key.faults ++ (value.faults ++
      ((if key.makesKey then [] else [.notAKey]) ++ Expr.entryFaults entries))
  | .spread _ :: _ => [.notConstant]

end

namespace Literal

section Keys

private theorem isKey_of_number {value : Literal} {x : Number} (number : value.number? = some x) :
    value.isKey = true := by
  cases value <;> cases number <;> rfl

theorem areKeys_ofExprs {items : List Expr} {values : List Literal}
    (each : ∀ item ∈ items, ∀ value, ofExpr item = .ok value → value.isKey = item.makesKey)
    (read : ofExprs items = .ok values) : areKeys values = Expr.makeKeys items := by
  induction items generalizing values with
  | nil =>
    cases read
    rfl
  | cons item items ih =>
    obtain ⟨here, later⟩ := List.forall_mem_cons.mp each
    rw [ofExprs] at read
    obtain ⟨value, first, read⟩ := bind_eq_ok_iff.mp read
    obtain ⟨others, rest, made⟩ := bind_eq_ok_iff.mp read
    cases made
    rw [areKeys, Expr.makeKeys, here value first, ih later rest]

/-- Whether a value can be a key shows in its expression. -/
theorem isKey_ofExpr {expr : Expr} {value : Literal} (read : ofExpr expr = .ok value) :
    value.isKey = expr.makesKey := by
  induction expr using Expr.induction generalizing value with
  | step expr ih =>
    cases expr with
    | constant constant =>
      cases read
      cases constant <;> rfl
    | tuple items =>
      rw [ofExpr] at read
      obtain ⟨values, each, rfl⟩ := map_eq_ok_iff.mp read
      exact areKeys_ofExprs (fun item member value read => ih item member read) each
    | list | set | dict =>
      rw [ofExpr] at read
      obtain ⟨values, each, rfl⟩ := map_eq_ok_iff.mp read
      rfl
    | call function arguments keywords =>
      unfold ofExpr at read
      split at read
      case h_6 =>
        cases read
        rfl
      case h_8 => cases read
      all_goals contradiction
    | binary left operator right =>
      rw [ofExpr] at read
      split at read
      · obtain ⟨left', _, read⟩ := bind_eq_ok_iff.mp read
        obtain ⟨right', _, read⟩ := bind_eq_ok_iff.mp read
        obtain ⟨x, number⟩ := number_of_complexSum read
        exact isKey_of_number number
      · cases read
    | _ =>
      unfold ofExpr at read
      obtain ⟨x, number⟩ := number_of_signedNumber read
      exact isKey_of_number number

end Keys

section Errors

/-- The error of an outcome. -/
def error? {ε α : Type} : Except ε α → Option ε
  | .ok _ => Option.none
  | .error failure => some failure

theorem error?_map {ε α β : Type} (first : Except ε α) (image : α → β) :
    error? (first.map image) = error? first := by
  cases first <;> rfl

theorem error?_bind {ε α β : Type} {first : Except ε α} {next : α → Except ε β} {later : Option ε}
    (same : ∀ value, first = .ok value → error? (next value) = later) :
    error? (first >>= next) = (error? first).or later := by
  cases first with
  | ok value => exact same value rfl
  | error failure => rfl

variable {items : List Expr} {entries : List DictEntry}

private theorem error?_ofExprs (each : ∀ item ∈ items, error? (ofExpr item) = item.faults.head?) :
    error? (ofExprs items) = (Expr.itemFaults items).head? := by
  induction items with
  | nil => rfl
  | cons item items ih =>
    obtain ⟨here, later⟩ := List.forall_mem_cons.mp each
    rw [ofExprs, Expr.itemFaults, List.head?_append, ← here, ← ih later]
    exact error?_bind fun value _ => by cases ofExprs items <;> rfl

theorem error?_ofMembers (members : List Literal)
    (each : ∀ item ∈ items, error? (ofExpr item) = item.faults.head?) :
    error? (ofMembers members items) = (Expr.memberFaults items).head? := by
  induction items generalizing members with
  | nil => rfl
  | cons item items ih =>
    obtain ⟨here, later⟩ := List.forall_mem_cons.mp each
    rw [ofMembers, Expr.memberFaults, List.head?_append, ← here]
    refine error?_bind fun member read => ?_
    rw [isKey_ofExpr read]
    cases item.makesKey with
    | true => exact ih _ later
    | false => rfl

theorem error?_ofEntries (written : List (Literal × Literal))
    (each : ∀ part ∈ entries.flatMap DictEntry.displayed,
      error? (ofExpr part) = part.faults.head?) :
    error? (ofEntries written entries) = (Expr.entryFaults entries).head? := by
  induction entries generalizing written with
  | nil => rfl
  | cons entry entries ih =>
    rw [List.flatMap_cons, List.forall_mem_append] at each
    obtain ⟨here, later⟩ := each
    cases entry with
    | spread => rfl
    | pair key value =>
      have first := here key List.mem_cons_self
      have second := here value (List.mem_cons_of_mem _ List.mem_cons_self)
      rw [ofEntries, Expr.entryFaults, List.head?_append, List.head?_append, ← first, ← second]
      refine error?_bind fun key' read => error?_bind fun value' _ => ?_
      rw [isKey_ofExpr read]
      cases key.makesKey with
      | true => exact ih _ later
      | false => rfl

theorem error?_realPart_neg (n : Nat) : error? (realPart (int (-n))) = error? (realPart (int n)) := by
  rcases Nat.eq_zero_or_pos n with rfl | some
  · rfl
  · rw [realPart, realPart, ofInt_neg some]
    cases Double.ofInt n <;> rfl

theorem signedConstant?_cases {expr : Expr} {constant : Constant}
    (found : expr.signedConstant? = some constant) :
    expr = .constant constant ∨ expr = .unary .plus (.constant constant) ∨
      expr = .unary .minus (.constant constant) := by
  unfold Expr.signedConstant? at found
  split at found <;> cases found
  · exact Or.inl rfl
  · exact Or.inr (Or.inl rfl)
  · exact Or.inr (Or.inr rfl)

private theorem signedNumber_of_none {expr : Expr} (unfound : expr.signedConstant? = Option.none) :
    signedNumber expr = .error .notConstant := by
  cases expr with
  | constant => cases unfound
  | unary operator operand => cases operator <;> cases operand <;> first | rfl | cases unfound
  | _ => rfl

private theorem error?_signedNumber (expr : Expr) : error? (signedNumber expr) =
    (match expr.signedConstant? with
      | some (.int _) | some (.float _) | some (.imaginary _) => []
      | _ => [Refusal.notConstant]).head? := by
  cases found : expr.signedConstant? with
  | none =>
    rw [signedNumber_of_none found]
    rfl
  | some constant =>
    rcases signedConstant?_cases found with rfl | rfl | rfl <;> cases constant <;> rfl

/-- With an imaginary number on its right, a sum depends on the number on its left. -/
theorem error?_sum_imaginary (left : Expr) (plus : Bool) (imaginary : Double) :
    error? (signedNumber left >>= fun first =>
      complexSum first plus (complex (.zero false) imaginary)) =
        (sumFaults left (.constant (.imaginary imaginary))).head? := by
  have whole (n : Nat) : error? (realPart (int n)) =
      (sumFaults (.constant (.int n)) (.constant (.imaginary imaginary))).head? := by
    simp only [realPart, sumFaults, Expr.signedConstant?]
    cases Double.ofInt n <;> rfl
  have part (first : Literal) :
      error? (complexSum first plus (complex (.zero false) imaginary)) = error? (realPart first) :=
    error?_map _ _
  cases found : left.signedConstant? with
  | none =>
    unfold sumFaults
    rw [signedNumber_of_none found, found]
    rfl
  | some constant =>
    cases constant with
    | int n =>
      rcases signedConstant?_cases found with rfl | rfl | rfl
      · exact (part _).trans (whole n)
      · exact (part _).trans (whole n)
      · exact ((part _).trans (error?_realPart_neg n)).trans (whole n)
    | _ => rcases signedConstant?_cases found with rfl | rfl | rfl <;> rfl

/-- Without an imaginary number on its right there is no sum. -/
theorem error?_sum_other (left : Expr) {right : Expr} (plus : Bool)
    (other : ∀ imaginary, right ≠ .constant (.imaginary imaginary)) :
    error? (do complexSum (← signedNumber left) plus (← numberOf right)) =
      (sumFaults left right).head? := by
  have refused : sumFaults left right = [.notConstant] := by
    unfold sumFaults
    split
    · exact absurd rfl (other _)
    · exact absurd rfl (other _)
    · rfl
  have later (first : Literal) :
      error? (numberOf right >>= fun second => complexSum first plus second) =
        some .notConstant := by
    unfold numberOf
    split
    · rfl
    · rfl
    · exact absurd rfl (other _)
    · rfl
  have either : (error? (signedNumber left)).or (some .notConstant) = some .notConstant := by
    rw [error?_signedNumber]
    split <;> rfl
  rw [refused]
  exact (error?_bind fun first _ => later first).trans either

private theorem error?_sum (left right : Expr) (plus : Bool) :
    error? (do complexSum (← signedNumber left) plus (← numberOf right)) =
      (sumFaults left right).head? := by
  by_cases imaginary : ∃ imaginary, right = .constant (.imaginary imaginary)
  · obtain ⟨imaginary, rfl⟩ := imaginary
    exact error?_sum_imaginary left plus imaginary
  · exact error?_sum_other left plus fun value same => imaginary ⟨value, same⟩

/-- An expression is refused for the first thing that is wrong with it. -/
theorem error?_ofExpr (expr : Expr) : error? (ofExpr expr) = expr.faults.head? := by
  induction expr using Expr.induction with
  | step expr ih =>
    cases expr with
    | constant => rfl
    | tuple items | list items =>
      rw [ofExpr, Expr.faults, error?_map]
      exact error?_ofExprs ih
    | set items =>
      rw [ofExpr, Expr.faults, error?_map]
      exact error?_ofMembers [] ih
    | dict entries =>
      rw [ofExpr, Expr.faults, error?_map]
      exact error?_ofEntries [] ih
    | call function arguments keywords =>
      unfold ofExpr Expr.faults
      split
      case h_6 same =>
        obtain ⟨rfl, rfl, rfl⟩ := Expr.call.inj same
        rfl
      case h_8 => split <;> first | rfl | contradiction
      all_goals contradiction
    | binary left operator right =>
      rw [ofExpr, Expr.faults]
      split
      · exact error?_sum left right _
      · rfl
    | _ =>
      unfold ofExpr Expr.faults
      exact error?_signedNumber _

end Errors

/-- A value whose text says all about it: none of its parts goes by a name, its integers can be
written, and its brackets are not nested too deeply to be read. -/
structure Writable (value : Literal) : Prop where
  nameless : Throughout IsNameless value
  digits : value.hasDigits = true
  shallow : value.depth ≤ mostBrackets

/-- A value is written as a literal that evaluates to it. -/
def EvaluatesBack (value : Literal) : Prop :=
  ∃ text found, value.written = .ok text ∧ readExpr text = .ok value.toExpr ∧
    value.toExpr.isLiteral = true ∧ ofExpr value.toExpr = .ok found ∧ Alike value found

private theorem written_eq_ok_iff {value : Literal} {text : String} :
    value.written = .ok text ↔ value.hasDigits = true ∧ value.print = text := by
  unfold written
  split
  · next digits => simp [digits]
  · next digits => simp [digits]

theorem evaluatesBack_iff {value : Literal} (formed : Formed value) :
    EvaluatesBack value ↔ Writable value := by
  constructor
  · rintro ⟨text, found, written, read, literal, _, _⟩
    obtain ⟨digits, rfl⟩ := written_eq_ok_iff.mp written
    rw [readExpr_print value digits] at read
    split at read
    · next shallow => exact ⟨(isLiteral_toExpr value).mp literal, digits, shallow⟩
    · cases read
  · rintro ⟨nameless, digits, shallow⟩
    obtain ⟨found, evaluated, alike⟩ := exists_ofExpr_toExpr formed nameless
    have read := readExpr_print value digits
    rw [if_pos shallow] at read
    exact ⟨value.print, found, written_eq_ok_iff.mpr ⟨digits, rfl⟩, read,
      (isLiteral_toExpr value).mpr nameless, evaluated, alike⟩

/-- The expression that an initializer is if it is no JSON. -/
def expression? (initializer : String) : Option Expr :=
  match Json.parse? initializer with
  | some _ => Option.none
  | Option.none =>
    (readExpr (String.ofList (initializer.toList.dropWhile Text.isIndent))).toOption

theorem formed_ofText {initializer : String} {value : Literal}
    (read : ofText initializer = .ok (some value)) : Formed value := by
  unfold ofText at read
  simp only at read
  split at read
  · next json =>
    cases read
    exact formed_parse? json
  · split at read
    · cases read
    · split at read
      · next evaluated =>
        cases read
        exact formed_ofExpr evaluated
      · split at read <;> cases read

theorem ofText_eq_error_iff {initializer : String} {failure : Failure} :
    ofText initializer = .error failure ↔ ∃ expr ∈ expression? initializer,
      ∃ refusal ∈ expr.faults.head?, refusal.failure? = some failure := by
  unfold ofText expression?
  cases Json.parse? initializer with
  | some value => simp
  | none =>
    simp only
    cases readExpr (String.ofList (initializer.toList.dropWhile Text.isIndent)) with
    | error => simp [Except.toOption]
    | ok expr =>
      simp only [Except.toOption, Option.mem_def, Option.some.injEq, exists_eq_left', ← error?_ofExpr]
      cases ofExpr expr with
      | ok found => simp [error?]
      | error refusal => cases failed : refusal.failure? <;> simp [error?, failed]

end Literal

end Blueprint.ServerCode

namespace Blueprint.Server

open ServerCode

/-- The value of an initializer is the default of its property's column. -/
theorem default_of_fieldArguments {property : Design.Property} {type : ServerType} {required : Bool}
    {arguments : List Keyword} {value : Literal} (given : value ≠ .none)
    (read : Literal.ofText property.initializer = .ok (some value))
    (made : fieldArguments property type required = .ok arguments) :
    arguments.head? = some (.named "default" value.toExpr) := by
  have initial : ∀ found, initialValue property.initializer = .ok found → found = some value := by
    intro found initial
    unfold initialValue at initial
    split at initial
    · next empty =>
      rw [String.isEmpty_iff] at empty
      rw [empty] at read
      cases read
    · rw [read, ok_bind] at initial
      split at initial
      · next absent => cases absent
      · next nothing => exact absurd (Option.some.inj nothing) given
      · next other same =>
        obtain ⟨_, _, initial⟩ := bind_eq_ok_iff.mp initial
        cases initial
        exact same.symm
  obtain ⟨found, valued, made⟩ := bind_eq_ok_iff.mp made
  cases initial found valued
  cases made
  rfl

/-- Every initializer has a value or none, unless the first fault of its expression is a failure. A
value is the default of its property's column. It is written as a literal that evaluates to it,
unless a part of it goes by a name, an integer in it has too many digits or its brackets are nested
too deeply.

This is about the values that the readers find. They refuse texts in which an escape gives a character
by its name (`\N`) or half of a surrogate pair, and have no limit on nesting but that on brackets: how
deep an interpreter follows arrays and objects, signs or calls before its stack ends is left out. -/
theorem default_evaluates_iff (initializer : String) :
    (∀ value ≠ Literal.none, Literal.ofText initializer = .ok (some value) →
      (value.EvaluatesBack ↔ value.Writable) ∧
      ∀ property type required arguments, property.initializer = initializer →
        fieldArguments property type required = .ok arguments →
        arguments.head? = some (.named "default" value.toExpr)) ∧
    ∀ failure, Literal.ofText initializer = .error failure ↔
      ∃ expr ∈ Literal.expression? initializer, ∃ refusal ∈ expr.faults.head?,
        refusal.failure? = some failure := by
  refine ⟨fun value given read => ⟨?_, ?_⟩, fun failure => Literal.ofText_eq_error_iff⟩
  · exact Literal.evaluatesBack_iff (Literal.formed_ofText read)
  · rintro property type required arguments rfl made
    exact default_of_fieldArguments given read made

/-- A pair is written as it is, and is the default of a column. -/
theorem default_evaluates_pair :
    let pair := Literal.tuple [.int 1, .bool true]
    Literal.ofText "(1, True)" = .ok (some pair) ∧ pair.Writable ∧ pair.EvaluatesBack ∧
      ∃ arguments,
        fieldArguments ⟨0, "place", false, ⟨"Point", false⟩, [], "(1, True)", {}⟩
          (.forward "Point") true = .ok arguments ∧
        arguments.head? = some (.named "default" pair.toExpr) := by
  intro pair
  have read : Literal.ofText "(1, True)" = .ok (some pair) := by
    have read := Literal.readExpr_print pair rfl
    have json : Json.parse? "(1, True)" = none := rfl
    have text : pair.print = String.ofList ("(1, True)".toList.dropWhile Text.isIndent) := rfl
    rw [text, if_pos (by decide)] at read
    unfold Literal.ofText
    simp only [json, read]
    rfl
  have initial : initialValue "(1, True)" = .ok (some pair) := by
    unfold initialValue
    rw [read]
    rfl
  have writable : pair.Writable := by
    refine ⟨Literal.throughout_iff.mpr ⟨trivial, ?_⟩, rfl, by decide⟩
    have leaf {value : Literal} (whole : value.parts = []) (here : value.IsNameless) :
        value.Throughout Literal.IsNameless :=
      Literal.throughout_iff.mpr ⟨here, by simp [whole]⟩
    exact List.forall_mem_cons.mpr
      ⟨leaf rfl trivial, List.forall_mem_cons.mpr ⟨leaf rfl trivial, nofun⟩⟩
  have claimed := (default_evaluates_iff "(1, True)").1 pair (fun same => nomatch same) read
  have made : fieldArguments ⟨0, "place", false, ⟨"Point", false⟩, [], "(1, True)", {}⟩
      (.forward "Point") true = .ok [.named "default" pair.toExpr] := by
    unfold fieldArguments
    rw [initial]
    rfl
  exact ⟨read, writable, claimed.1.mpr writable, _, made, claimed.2 _ _ _ _ rfl made⟩

/-- A list as a key fails, and what is no number is written as a name. -/
theorem list_key_fails : Literal.ofText "\x7b[]: 1\x7d" = .error .wrongType ∧
    Literal.ofText "NaN" = .ok (some (.float .nan)) ∧ ¬ (Literal.float .nan).EvaluatesBack := by
  refine ⟨?_, rfl, fun back => ?_⟩
  · have read := Literal.readExpr_print (.dict [(.list [], .int 1)]) rfl
    have json : Json.parse? "\x7b[]: 1\x7d" = none := rfl
    have text : (Literal.dict [(.list [], .int 1)]).print = String.ofList
        ("\x7b[]: 1\x7d".toList.dropWhile Text.isIndent) := rfl
    rw [text, if_pos (by decide)] at read
    unfold Literal.ofText
    simp only [json, read]
    rfl
  · exact (Literal.throughout_iff.mp
      ((Literal.evaluatesBack_iff (Literal.formed_leaf rfl rfl)).mp back).nameless).1

end Blueprint.Server
