import Blueprint.Proofs.ServerCode.FormedLiterals
import Blueprint.Proofs.ServerCode.LiteralGrammar

namespace Blueprint.ServerCode

mutual

/-- An expression that is made of constants, signs and brackets: it has no names and calls nothing. -/
def Expr.isLiteral : Expr → Bool
  | .constant _ => true
  | .tuple items | .list items | .set items => Expr.areLiterals items
  | .dict entries => Expr.entriesAreLiterals entries
  | .unary _ operand => operand.isLiteral
  | .binary left _ right => left.isLiteral && right.isLiteral
  | _ => false

def Expr.areLiterals : List Expr → Bool
  | [] => true
  | item :: items => item.isLiteral && Expr.areLiterals items

def Expr.entriesAreLiterals : List DictEntry → Bool
  | [] => true
  | .pair key value :: entries => key.isLiteral && value.isLiteral && Expr.entriesAreLiterals entries
  | .spread _ :: _ => false

end

theorem Expr.areLiterals_eq (items : List Expr) :
    Expr.areLiterals items = items.all Expr.isLiteral := by
  induction items with
  | nil => rfl
  | cons item items ih => rw [areLiterals, List.all_cons, ih]

namespace Literal

section Numbers

open Double

variable {real imaginary : Double}

private theorem ofParts_true (mantissa : Nat) (exponent : Int) :
    ofParts true mantissa exponent = (ofParts false mantissa exponent).negate := by
  unfold ofParts
  simp only
  generalize (if (mantissa == 2 * leastNormal) = true then leastNormal else mantissa) = mantissa
  generalize (if (_ == 2 * leastNormal) = true then exponent + 1 else exponent) = exponent
  split <;> rfl

theorem ofInt_neg {n : Nat} (some : 0 < n) : ofInt (-n) = (ofInt n).negate := by
  have down : decide ((-n : Int) < 0) = true := decide_eq_true (by omega)
  have up : decide ((n : Int) < 0) = false := decide_eq_false (by omega)
  rw [ofInt, ofInt, down, up, Int.natAbs_neg, Int.natAbs_natCast, ofRatio, ofRatio,
    if_neg (by simpa using some.ne'), if_neg (by simpa using some.ne')]
  exact ofParts_true _ _

private theorem magnitudeExpr_unsigned (finite : real.IsFinite) :
    magnitudeExpr (unsigned real) = .constant (.float (unsigned real)) := by
  rcases real with _ | _ | ⟨negative, mantissa, exponent, fits⟩
  · cases finite
  · cases finite
  · cases negative <;> rfl

private theorem imaginaryExpr_unsigned (finite : imaginary.IsFinite) :
    imaginaryExpr (unsigned imaginary) = .constant (.imaginary (unsigned imaginary)) := by
  rcases imaginary with _ | _ | ⟨negative, mantissa, exponent, fits⟩
  · cases finite
  · cases finite
  · cases negative <;> rfl

theorem signed_unsigned (x : Double) :
    (if x.isNegative then (unsigned x).negate else unsigned x) = x := by
  rcases x with _ | negative | negative
  · rfl
  · cases negative <;> rfl
  · cases negative <;> rfl

theorem signedNumber_signed (negative : Bool) {constant : Constant} {number : Literal}
    (read : numberOf (.constant constant) = .ok number) :
    signedNumber (signed negative (.constant constant)) =
      .ok (if negative then number.negative else number) := by
  cases negative with
  | false => exact read
  | true =>
    change (numberOf (.constant constant)).map Literal.negative = _
    rw [read]
    rfl

/-- The real part of a sum is read as the double, or as zero without its sign. -/
theorem realPart_realExpr (finite : real.IsFinite) :
    ∃ left found, signedNumber (realExpr real) = .ok left ∧ realPart left = .ok found ∧
      unsignedZero found = unsignedZero real := by
  rw [realExpr_eq, shortExpr]
  cases written : real.whole? with
  | none =>
    refine ⟨float real, real, ?_, rfl, rfl⟩
    simp only
    rw [magnitudeExpr_unsigned finite, signedNumber_signed _ rfl]
    have same := signed_unsigned real
    split at same <;> simp_all [Literal.negative]
  | some whole =>
    have value := ofInt_whole finite written
    rcases real with _ | _ | ⟨negative, mantissa, exponent, fits⟩
    · cases finite
    · cases finite
    · rw [unsigned_finite] at value
      simp only
      rw [signedNumber_signed _ rfl]
      cases negative with
      | false => exact ⟨int whole, _, rfl, by rw [realPart, value], rfl⟩
      | true =>
        refine ⟨int (-whole), ?_⟩
        rcases whole_cases written with ⟨rfl, rfl⟩ | ⟨some, near⟩
        · have zero : ofInt (-((0 : Nat) : Int)) = .finite false 0 exponent fits := value
          exact ⟨.finite false 0 exponent fits, rfl, by rw [realPart, zero], rfl⟩
        · have whole_pos : 0 < whole := by exact_mod_cast near.pos some
          rw [realPart, ofInt_neg whole_pos, value]
          exact ⟨_, rfl, rfl, rfl⟩

theorem ofExpr_signed (negative : Bool) {constant : Constant} {number : Literal}
    (read : numberOf (.constant constant) = .ok number) :
    ofExpr (signed negative (.constant constant)) =
      .ok (if negative then number.negative else number) := by
  cases negative with
  | false => cases constant <;> cases read <;> rfl
  | true => exact signedNumber_signed true read

private theorem ofExpr_sum {left : Expr} {first : Literal} (minus : Bool)
    (read : signedNumber left = .ok first) (part : realPart first = .ok real) :
    ofExpr (.binary left (if minus then .subtract else .add) (.constant (.imaginary imaginary))) =
      .ok (if minus then complex real (unsignedZero imaginary.negate)
        else complex (unsignedZero real) (unsignedZero imaginary)) := by
  have sum (plus : Bool) : complexSum first plus (complex (.zero false) imaginary) =
      .ok (if plus then complex (unsignedZero real) (unsignedZero imaginary)
        else complex real (unsignedZero imaginary.negate)) := by
    rw [complexSum, part]
    rfl
  cases minus <;> (unfold ofExpr; rw [read]; exact sum _)

/-- A complex number is read from its expression but for the signs of zeros. -/
theorem exists_ofExpr_complexExpr (finite : real.IsFinite) (finite' : imaginary.IsFinite) :
    ∃ value, ofExpr (complexExpr real imaginary) = .ok value ∧
      Alike (complex real imaginary) value := by
  have same := signed_unsigned imaginary
  rw [complexExpr_eq, imaginaryExpr_unsigned finite']
  split
  · next hidden =>
    rcases real with _ | _ | ⟨negative, mantissa, exponent, fits⟩
    · cases finite
    · cases finite
    · cases negative <;> cases mantissa <;> cases hidden
      obtain rfl : exponent = minExponent := fits.2.2.2.resolve_left (by decide)
      rw [ofExpr_signed _ rfl]
      cases sign : imaginary.isNegative with
      | false =>
        rw [sign] at same
        exact ⟨_, rfl, .complex rfl (congrArg unsignedZero same.symm)⟩
      | true =>
        rw [sign] at same
        exact ⟨_, rfl, .complex rfl (congrArg unsignedZero same.symm)⟩
  · obtain ⟨left, found, read, part, level⟩ := realPart_realExpr finite
    rw [ofExpr_sum imaginary.isNegative read part]
    cases sign : imaginary.isNegative with
    | false =>
      rw [sign] at same
      refine ⟨_, rfl, .complex ?_ ?_⟩
      · rw [unsignedZero_unsignedZero, level]
      · rw [unsignedZero_unsignedZero]
        exact congrArg unsignedZero same.symm
    | true =>
      rw [sign] at same
      refine ⟨_, rfl, .complex level.symm ?_⟩
      rw [unsignedZero_unsignedZero]
      exact congrArg unsignedZero same.symm

end Numbers

section Names

open Double

theorem throughout_iff {holds : Literal → Prop} {value : Literal} :
    Throughout holds value ↔ holds value ∧ ∀ part ∈ value.parts, Throughout holds part :=
  ⟨fun | .mk here inside => ⟨here, inside⟩, fun ⟨here, inside⟩ => .mk here inside⟩

/-- What a value is itself, apart from its parts, is written without a name. -/
def IsNameless : Literal → Prop
  | ellipsis => False
  | float value => value.IsFinite
  | complex real imaginary => real.IsFinite ∧ imaginary.IsFinite
  | set items => items ≠ []
  | _ => True

theorem isLiteral_signed (negative : Bool) (expr : Expr) :
    (signed negative expr).isLiteral = expr.isLiteral := by
  cases negative <;> simp [signed, Expr.isLiteral]

private theorem isLiteral_magnitudeExpr (x : Double) :
    (magnitudeExpr (unsigned x)).isLiteral = true ↔ x.IsFinite := by
  rcases x with _ | negative | negative
  · exact ⟨nofun, nofun⟩
  · cases negative <;> exact ⟨nofun, nofun⟩
  · cases negative <;> exact ⟨fun _ => trivial, fun _ => rfl⟩

private theorem isLiteral_imaginaryExpr (x : Double) :
    (imaginaryExpr (unsigned x)).isLiteral = true ↔ x.IsFinite := by
  rcases x with _ | negative | negative
  · exact ⟨nofun, nofun⟩
  · cases negative <;> exact ⟨nofun, nofun⟩
  · cases negative <;> exact ⟨fun _ => trivial, fun _ => rfl⟩

private theorem isLiteral_realExpr (x : Double) : (realExpr x).isLiteral = true ↔ x.IsFinite := by
  rw [realExpr_eq, isLiteral_signed, shortExpr]
  cases written : x.whole? with
  | none => exact isLiteral_magnitudeExpr x
  | some whole =>
    rcases x with _ | negative | negative
    · cases written
    · cases written
    · exact ⟨fun _ => trivial, fun _ => rfl⟩

private theorem isLiteral_complexExpr (real imaginary : Double) :
    (complexExpr real imaginary).isLiteral = true ↔ real.IsFinite ∧ imaginary.IsFinite := by
  rw [complexExpr_eq]
  split
  · next hidden =>
    have finite : real.IsFinite := by
      cases real with
      | finite => trivial
      | _ => cases hidden
    rw [isLiteral_signed, isLiteral_imaginaryExpr, and_iff_right finite]
  · rw [Expr.isLiteral, Bool.and_eq_true, isLiteral_realExpr, isLiteral_imaginaryExpr]

private theorem entriesAreLiterals_toEntries (entries : List (Literal × Literal)) :
    Expr.entriesAreLiterals (toEntries entries) = true ↔
      ∀ part ∈ (dict entries).parts, part.toExpr.isLiteral = true := by
  induction entries with
  | nil => exact ⟨fun _ => nofun, fun _ => rfl⟩
  | cons entry entries ih =>
    rw [toEntries, Expr.entriesAreLiterals, Bool.and_eq_true, Bool.and_eq_true, ih, parts, parts,
      List.flatMap_cons, List.forall_mem_append, List.forall_mem_cons, List.forall_mem_singleton]

/-- The expression of a value is a literal exactly if nothing in the value goes by a name. -/
theorem isLiteral_toExpr (value : Literal) :
    value.toExpr.isLiteral = true ↔ Throughout IsNameless value := by
  induction value using Literal.induction with
  | step value ih =>
    rw [throughout_iff]
    have inside : (∀ part ∈ value.parts, part.toExpr.isLiteral = true) ↔
        ∀ part ∈ value.parts, Throughout IsNameless part :=
      forall₂_congr ih
    rw [← inside]
    cases value with
    | none | bool | text | bytes =>
      exact ⟨fun _ => ⟨trivial, List.forall_mem_nil _⟩, fun _ => rfl⟩
    | ellipsis => exact ⟨fun named => Bool.noConfusion named, fun both => both.1.elim⟩
    | int value =>
      rw [toExpr, isLiteral_signed]
      exact ⟨fun _ => ⟨trivial, List.forall_mem_nil _⟩, fun _ => rfl⟩
    | float value =>
      rw [toExpr, isLiteral_signed, isLiteral_magnitudeExpr]
      exact ⟨fun finite => ⟨finite, List.forall_mem_nil _⟩, fun both => both.1⟩
    | complex real imaginary =>
      rw [toExpr, isLiteral_complexExpr]
      exact ⟨fun finite => ⟨finite, List.forall_mem_nil _⟩, fun both => both.1⟩
    | tuple items | list items =>
      rw [toExpr, Expr.isLiteral, Expr.areLiterals_eq, toExprs_eq, List.all_map, List.all_eq_true]
      exact ⟨fun each => ⟨trivial, each⟩, fun both => both.2⟩
    | set items =>
      cases items with
      | nil => exact ⟨fun called => Bool.noConfusion called, fun both => absurd rfl both.1⟩
      | cons item items =>
        change Expr.areLiterals (toExprs (item :: items)) = true ↔ _
        rw [Expr.areLiterals_eq, toExprs_eq, List.all_map, List.all_eq_true]
        exact ⟨fun each => ⟨List.cons_ne_nil _ _, each⟩, fun both => both.2⟩
    | dict entries =>
      rw [toExpr, Expr.isLiteral, entriesAreLiterals_toEntries]
      exact ⟨fun each => ⟨trivial, each⟩, fun both => both.2⟩

end Names

section ReadBack

variable {items done : List Literal} {entries written : List (Literal × Literal)}

private theorem exists_ofExprs
    (read : ∀ item ∈ items, ∃ value, ofExpr item.toExpr = .ok value ∧ Alike item value) :
    ∃ values, ofExprs (toExprs items) = .ok values ∧ List.Forall₂ Alike items values := by
  induction items with
  | nil => exact ⟨[], rfl, .nil⟩
  | cons item items ih =>
    obtain ⟨⟨value, first, alike⟩, later⟩ := List.forall_mem_cons.mp read
    obtain ⟨values, rest, each⟩ := ih later
    refine ⟨value :: values, ?_, .cons alike each⟩
    rw [toExprs, ofExprs, first, rest]
    rfl

theorem insert_of_apart {members : List Literal} {member : Literal}
    (apart : ∀ value ∈ members, same value member = false) :
    insert member members = members ++ [member] := by
  have absent : members.any (same member) = false := by
    rw [List.any_eq_false]
    intro value listed
    rw [same_comm, apart value listed]
    exact Bool.false_ne_true
  rw [insert, absent]
  rfl

private theorem write_of_apart {key : Literal} (value : Literal)
    (apart : ∀ entry ∈ written, same entry.1 key = false) :
    write key value written = written ++ [(key, value)] := by
  induction written with
  | nil => rfl
  | cons entry written ih =>
    obtain ⟨here, later⟩ := List.forall_mem_cons.mp apart
    rw [write, here, ih later]
    rfl

theorem apart_of_alike {others : List Literal} {key key' : Literal}
    (each : List.Forall₂ Alike done others) (alike : Alike key key')
    (apart : ∀ value ∈ done, same value key = false) :
    ∀ value ∈ others, same value key' = false := by
  induction each with
  | nil => nofun
  | cons first _ ih =>
    obtain ⟨here, later⟩ := List.forall_mem_cons.mp apart
    exact List.forall_mem_cons.mpr ⟨(first.same alike).trans here, ih later⟩

/-- Members that differ are read one behind the other, whatever other members were read before. -/
theorem exists_ofMembers {others : List Literal} (keys : AreKeys (done ++ items))
    (before : List.Forall₂ Alike done others)
    (read : ∀ item ∈ items, ∃ value, ofExpr item.toExpr = .ok value ∧ Alike item value) :
    ∃ values, ofMembers others (toExprs items) = .ok (others ++ values) ∧
      List.Forall₂ Alike items values := by
  induction items generalizing done others with
  | nil => exact ⟨[], by rw [List.append_nil]; rfl, .nil⟩
  | cons item items ih =>
    obtain ⟨⟨value, first, alike⟩, later⟩ := List.forall_mem_cons.mp read
    have able : value.isKey = true :=
      alike.isKey.trans (keys.keys item (List.mem_append_right _ List.mem_cons_self))
    have apart := apart_of_alike before alike fun earlier listed =>
      (List.pairwise_append.mp keys.unequal).2.2 earlier listed item List.mem_cons_self
    rw [List.append_cons] at keys
    obtain ⟨values, rest, each⟩ := ih keys (List.rel_append before (.cons alike .nil)) later
    refine ⟨value :: values, ?_, .cons alike each⟩
    rw [toExprs, ofMembers, first]
    change (if value.isKey then _ else _) = _
    rw [if_pos able, insert_of_apart apart, rest, List.append_assoc]
    rfl

/-- Entries whose keys differ are read one behind the other, whatever other entries were read
before. -/
theorem exists_ofEntries {others : List (Literal × Literal)}
    (keys : AreKeys ((written ++ entries).map Prod.fst))
    (before : List.Forall₂ Alike (written.map Prod.fst) (others.map Prod.fst))
    (read : ∀ part ∈ (dict entries).parts, ∃ value, ofExpr part.toExpr = .ok value ∧
      Alike part value) :
    ∃ values, ofEntries others (toEntries entries) = .ok (others ++ values) ∧
      List.Forall₂ Alike (entries.map Prod.fst) (values.map Prod.fst) ∧
      List.Forall₂ Alike (entries.map Prod.snd) (values.map Prod.snd) := by
  induction entries generalizing written others with
  | nil => exact ⟨[], by rw [List.append_nil]; rfl, .nil, .nil⟩
  | cons entry entries ih =>
    obtain ⟨key, value⟩ := entry
    rw [parts, List.flatMap_cons, List.forall_mem_append, List.forall_mem_cons,
      List.forall_mem_singleton] at read
    obtain ⟨⟨⟨key', first, alike⟩, value', second, alike'⟩, later⟩ := read
    rw [List.map_append] at keys
    have able : key'.isKey = true :=
      alike.isKey.trans (keys.keys key (List.mem_append_right _ List.mem_cons_self))
    have apart := apart_of_alike before alike fun earlier listed =>
      (List.pairwise_append.mp keys.unequal).2.2 earlier listed key List.mem_cons_self
    have longer : List.Forall₂ Alike ((written ++ [(key, value)]).map Prod.fst)
        ((others ++ [(key', value')]).map Prod.fst) := by
      rw [List.map_append, List.map_append]
      exact List.rel_append before (.cons alike .nil)
    rw [← List.map_append, List.append_cons] at keys
    obtain ⟨values, rest, each, each'⟩ := ih keys longer later
    refine ⟨(key', value') :: values, ?_, .cons alike each, .cons alike' each'⟩
    rw [toEntries, ofEntries, first, second]
    change (if key'.isKey then _ else _) = _
    rw [if_pos able, write_of_apart value' (List.forall_mem_map.mp apart), rest, List.append_assoc]
    rfl

/-- The expression of a value has an equal value, if nothing in it goes by a name. -/
theorem exists_ofExpr_toExpr {value : Literal} (formed : Formed value)
    (nameless : Throughout IsNameless value) :
    ∃ found, ofExpr value.toExpr = .ok found ∧ Alike value found := by
  induction value using Literal.induction with
  | step value ih =>
    obtain ⟨keys, formed⟩ := throughout_iff.mp formed
    obtain ⟨here, nameless⟩ := throughout_iff.mp nameless
    replace ih : ∀ part ∈ value.parts, ∃ found, ofExpr part.toExpr = .ok found ∧ Alike part found :=
      fun part member => ih part member (formed part member) (nameless part member)
    cases value with
    | none | bool | text | bytes => exact ⟨_, rfl, .refl _⟩
    | ellipsis => cases here
    | int value =>
      have sign : (if decide (value < 0) = true then (int value.natAbs).negative
          else int value.natAbs) = int value := by
        by_cases below : value < 0
        · rw [if_pos (decide_eq_true below)]
          exact congrArg int (by omega)
        · rw [if_neg (by simpa using below)]
          exact congrArg int (by omega)
      exact ⟨int value, (ofExpr_signed _ rfl).trans (congrArg _ sign), .refl _⟩
    | float value =>
      have sign : (if value.isNegative = true then (float (unsigned value)).negative
          else float (unsigned value)) = float value := by
        have same := signed_unsigned value
        cases negative : value.isNegative <;> (rw [negative] at same; exact congrArg float same)
      rw [toExpr, magnitudeExpr_unsigned here]
      exact ⟨float value, (ofExpr_signed _ rfl).trans (congrArg _ sign), .refl _⟩
    | complex real imaginary => exact exists_ofExpr_complexExpr here.1 here.2
    | tuple items =>
      obtain ⟨values, read, each⟩ := exists_ofExprs ih
      refine ⟨tuple values, ?_, .tuple each⟩
      rw [toExpr, ofExpr]
      exact congrArg (Except.map tuple) read
    | list items =>
      obtain ⟨values, read, each⟩ := exists_ofExprs ih
      refine ⟨list values, ?_, .list each⟩
      rw [toExpr, ofExpr]
      exact congrArg (Except.map list) read
    | set items =>
      cases items with
      | nil => exact absurd rfl here
      | cons item items =>
        have all : AreKeys ([] ++ item :: items) := keys
        obtain ⟨values, read, each⟩ := exists_ofMembers all .nil ih
        refine ⟨set (shown values), ?_, .set each (shown_perm values).symm⟩
        exact congrArg (Except.map fun members => set (shown members)) read
    | dict entries =>
      have all : AreKeys (([] ++ entries).map Prod.fst) := keys
      have before : List.Forall₂ Alike (([] : List (Literal × Literal)).map Prod.fst)
          (([] : List (Literal × Literal)).map Prod.fst) := .nil
      obtain ⟨values, read, each, each'⟩ := exists_ofEntries all before ih
      refine ⟨dict values, ?_, .dict each each'⟩
      rw [toExpr, ofExpr]
      exact congrArg (Except.map dict) read

end ReadBack

end Literal

end Blueprint.ServerCode
