import Mathlib.Data.List.Basic
import Blueprint.Proofs.Decimal.Shortest
import Blueprint.ServerCode.Literal
import Blueprint.Proofs.ServerCode.QuotedTexts

namespace Blueprint.ServerCode

/-- A character that no digit and no part of a number is, so that a number in front of it ends. -/
def endMarks : List Char := [',', ')', ']', '\x7d', ':', '+', '-']

/-- A text in front of which a value can end. -/
def Ends (rest : List Char) : Prop := ∀ c ∈ rest.head?, c ∈ endMarks

/-- A text in front of which digits, a point and an exponent end. -/
def EndsDecimal (rest : List Char) : Prop := ∀ c ∈ rest.head?, c ∈ 'j' :: endMarks

/-- Characters that a reader of lines leaves as they are. -/
def PlainText (chars : List Char) : Prop := ∀ c ∈ chars, c ∉ ['\r', '\x00']

section Ends

variable {rest : List Char}

theorem Ends.decimal (ends : Ends rest) : EndsDecimal rest :=
  fun c first => List.mem_cons_of_mem _ (ends c first)

private theorem endsDecimal_mark (rest : List Char) : EndsDecimal ('j' :: rest) := by
  intro c first
  cases first
  exact List.mem_cons_self

theorem Ends.numberEnds (ends : Ends rest) : numberEnds rest = true := by
  cases rest with
  | nil => rfl
  | cons c rest =>
    have mark : ∀ c ∈ endMarks, Text.isNamePart c = false := by decide
    simp [ServerCode.numberEnds, mark c (ends c rfl)]

end Ends

section Digits

variable {digits rest : List Char} {due : Bool}

theorem digitsFrom_append (all : ∀ c ∈ digits, c.isDigit = true) (some : due = true → digits ≠ [])
    (ends : ∀ c ∈ rest.head?, c.isDigit = false ∧ c ≠ '_') :
    digitsFrom Char.isDigit due (digits ++ rest) = .some (digits, rest) := by
  induction digits generalizing due with
  | nil =>
    have notDue : due = false := by
      cases due with
      | false => rfl
      | true => exact absurd rfl (some rfl)
    subst notDue
    cases rest with
    | nil => rfl
    | cons c rest =>
      obtain ⟨noDigit, noLine⟩ := ends c rfl
      simp [digitsFrom, noDigit, noLine]
  | cons c digits ih =>
    rw [List.cons_append, digitsFrom, if_pos (all c List.mem_cons_self),
      ih (fun d member => all d (List.mem_cons_of_mem c member)) (fun no => by cases no)]
    rfl

theorem digits?_append (all : ∀ c ∈ digits, c.isDigit = true) (some : digits ≠ [])
    (ends : ∀ c ∈ rest.head?, c.isDigit = false ∧ c ≠ '_') :
    digits? Char.isDigit (digits ++ rest) = .some (digits, rest) :=
  digitsFrom_append all (fun _ => some) ends

theorem plain_of_isDigit (all : ∀ c ∈ digits, c.isDigit = true) : PlainText digits := by
  have marks : ∀ c ∈ ['\r', '\x00'], c.isDigit = false := by decide
  exact fun c member mark => absurd (all c member) (by simp [marks c mark])

private theorem natOf_append (base : Nat) (first second : List Char) :
    natOf base (first ++ second) = natOf base first * base ^ second.length + natOf base second := by
  induction second using List.reverseRecOn with
  | nil => simp [natOf]
  | append_singleton second c ih =>
    rw [← List.append_assoc, natOf_append_singleton, natOf_append_singleton, ih,
      List.length_append, List.length_singleton, Nat.pow_succ]
    ring

theorem natOf_zeros (count : Nat) (digits : List Char) :
    natOf 10 (List.replicate count '0' ++ digits) = natOf 10 digits := by
  induction count with
  | zero => rfl
  | succ count ih => exact ih

theorem digitValue_digitChar {n : Nat} (small : n < 10) : digitValue (Nat.digitChar n) = n := by
  have all : ∀ n < 10, digitValue (Nat.digitChar n) = n := by decide
  exact all n small

theorem natOf_toDigits (n : Nat) : natOf 10 (Nat.toDigits 10 n) = n := by
  induction n using Nat.strongRecOn with
  | ind n ih =>
    by_cases single : n < 10
    · rw [Nat.toDigits_of_lt_base single]
      show 10 * 0 + digitValue (Nat.digitChar n) = n
      rw [digitValue_digitChar single, Nat.mul_zero, Nat.zero_add]
    · rw [Nat.toDigits_of_base_le (by decide) (by omega), natOf_append_singleton,
        ih (n / 10) (by omega), digitValue_digitChar (Nat.mod_lt n (by decide))]
      exact Nat.div_add_mod n 10

theorem isDigit_toDigits (n : Nat) : ∀ c ∈ Nat.toDigits 10 n, c.isDigit = true :=
  fun _ member => Nat.isDigit_of_mem_toDigits (by decide) (by decide) member

theorem head?_toDigits {n : Nat} (positive : 0 < n) : (Nat.toDigits 10 n).head? ≠ some '0' := by
  induction n using Nat.strongRecOn with
  | ind n ih =>
    by_cases single : n < 10
    · have all : ∀ n < 10, 0 < n → Nat.digitChar n ≠ '0' := by decide
      rw [Nat.toDigits_of_lt_base single, List.head?_cons]
      exact fun same => all n single positive (Option.some.inj same)
    · rw [Nat.toDigits_of_base_le (by decide) (by omega),
        List.head?_append_of_ne_nil _ Nat.toDigits_ne_nil]
      exact ih (n / 10) (by omega) (by omega)

private theorem isInteger_toDigits {n : Nat} (few : (Nat.toDigits 10 n).length ≤ mostDigits) :
    isInteger (Nat.toDigits 10 n) = true := by
  cases n with
  | zero => rfl
  | succ n =>
    have leading := head?_toDigits (Nat.succ_pos n)
    rw [isInteger, if_neg (by simpa using leading)]
    exact decide_eq_true few

end Digits

/-- A decimal as it is written: digits, digits behind a point, and an exponent with its sign. -/
structure DecimalText where
  whole : List Char
  fraction : Option (List Char)
  power : Option (Bool × List Char)

namespace DecimalText

/-- The characters of a decimal. -/
def chars (text : DecimalText) : List Char :=
  text.whole ++ (text.fraction.elim [] ('.' :: ·) ++
    text.power.elim [] fun power => 'e' :: (if power.1 then '-' else '+') :: power.2)

/-- The value of an exponent. -/
def exponent? (text : DecimalText) : Option Int :=
  text.power.map fun power => if power.1 then -(natOf 10 power.2 : Int) else natOf 10 power.2

/-- The digits of a decimal as a number. -/
def digits (text : DecimalText) : Nat := natOf 10 (text.whole ++ text.fraction.getD [])

/-- The power of ten that the digits are multiplied by. -/
def place (text : DecimalText) : Int :=
  text.exponent?.getD 0 - (text.fraction.getD []).length

/-- All digits are digits, and there are some in each part. -/
structure Formed (text : DecimalText) : Prop where
  whole : text.whole ≠ [] ∧ ∀ c ∈ text.whole, c.isDigit = true
  fraction : ∀ digits ∈ text.fraction, digits ≠ [] ∧ ∀ c ∈ digits, c.isDigit = true
  power : ∀ power ∈ text.power, power.2 ≠ [] ∧ ∀ c ∈ power.2, c.isDigit = true

section Reading

variable {text : DecimalText} {rest : List Char}

theorem plain_chars (formed : text.Formed) : PlainText text.chars := by
  intro c member
  rcases List.mem_append.mp member with whole | member
  · exact plain_of_isDigit formed.whole.2 c whole
  · rcases List.mem_append.mp member with fraction | power
    · cases found : text.fraction with
      | none =>
        rw [found] at fraction
        cases fraction
      | some digits =>
        rw [found] at fraction
        rcases List.mem_cons.mp fraction with rfl | digit
        · decide
        · exact plain_of_isDigit (formed.fraction digits found).2 c digit
    · cases found : text.power with
      | none =>
        rw [found] at power
        cases power
      | some mark =>
        rw [found] at power
        rcases List.mem_cons.mp power with rfl | power
        · decide
        · rcases List.mem_cons.mp power with rfl | digit
          · split <;> decide
          · exact plain_of_isDigit (formed.power _ found).2 c digit

theorem EndsDecimal.apart (ends : EndsDecimal rest) :
    ∀ c ∈ rest.head?, (c.isDigit = false ∧ c ≠ '_') ∧ c ≠ '.' ∧ c ≠ 'e' ∧ c ≠ 'E' := by
  intro c first
  have all : ∀ c ∈ 'j' :: endMarks,
      (c.isDigit = false ∧ c ≠ '_') ∧ c ≠ '.' ∧ c ≠ 'e' ∧ c ≠ 'E' := by decide
  exact all c (ends c first)

private theorem exponent_of_ends (ends : EndsDecimal rest) : exponent rest = (none, rest) := by
  cases rest with
  | nil => rfl
  | cons c rest =>
    obtain ⟨-, -, lower, upper⟩ := EndsDecimal.apart ends c rfl
    unfold exponent
    simp only [beq_iff_eq, lower, upper, or_self, if_false, Bool.or_eq_true]
    split <;> rfl

private theorem exponent_append {power : Bool × List Char}
    (formed : power.2 ≠ [] ∧ ∀ c ∈ power.2, c.isDigit = true) (ends : EndsDecimal rest) :
    exponent ('e' :: (if power.1 then '-' else '+') :: power.2 ++ rest) =
      (some (if power.1 then -(natOf 10 power.2 : Int) else natOf 10 power.2), rest) := by
  have digits := digits?_append formed.2 formed.1 fun c first => (EndsDecimal.apart ends c first).1
  obtain ⟨negative, mark⟩ := power
  cases negative
  · simp only [exponent, List.cons_append, Bool.false_eq_true, if_false, digits]
    rfl
  · simp only [exponent, List.cons_append, if_true, digits]
    rfl

private theorem exponent_power (formed : text.Formed) (ends : EndsDecimal rest) :
    exponent (text.power.elim [] (fun power => 'e' :: (if power.1 then '-' else '+') :: power.2) ++
      rest) = (text.exponent?, rest) := by
  unfold exponent?
  cases power : text.power with
  | none => exact exponent_of_ends ends
  | some found => exact exponent_append (formed.power found power) ends

private theorem apart_power (text : DecimalText) (ends : EndsDecimal rest) :
    ∀ c ∈ (text.power.elim [] (fun power => 'e' :: (if power.1 then '-' else '+') :: power.2) ++
      rest).head?, (c.isDigit = false ∧ c ≠ '_') ∧ c ≠ '.' := by
  cases text.power with
  | none =>
    intro c first
    obtain ⟨apart, point, -⟩ := EndsDecimal.apart ends c first
    exact ⟨apart, point⟩
  | some power =>
    intro c first
    cases first
    decide

/-- The digits behind the point are read back, or that there is none. -/
theorem fraction?_fraction (formed : text.Formed)
    (ends : ∀ c ∈ rest.head?, (c.isDigit = false ∧ c ≠ '_') ∧ c ≠ '.') :
    fraction? (text.fraction.elim [] ('.' :: ·) ++ rest) =
      some (text.fraction.getD [], text.fraction.isSome, rest) := by
  cases fraction : text.fraction with
  | none =>
    show fraction? rest = some ([], false, rest)
    cases rest with
    | nil => rfl
    | cons c rest =>
      have point := (ends c rfl).2
      unfold fraction?
      split
      · next same =>
        cases same
        exact absurd rfl point
      · rfl
  | some digits =>
    obtain ⟨some, all⟩ := formed.fraction digits fraction
    have read := digits?_append all some fun c first => (ends c first).1
    have leads : ((digits ++ rest).head?.any Char.isDigit) = true := by
      obtain ⟨c, digits, rfl⟩ := List.exists_cons_of_ne_nil some
      exact all c List.mem_cons_self
    show fraction? ('.' :: (digits ++ rest)) = _
    rw [fraction?, if_pos leads, read]
    rfl

theorem decimalNumber?_chars (formed : text.Formed) (ends : EndsDecimal rest) :
    decimalNumber? (text.chars ++ rest) =
      numeral? text.whole (text.fraction.isSome || text.power.isSome)
        (Double.ofDecimal false text.digits text.place) rest := by
  obtain ⟨some, all⟩ := formed.whole
  have leads : (text.chars ++ rest).head? ≠ .some '.' := by
    obtain ⟨c, digits, same⟩ := List.exists_cons_of_ne_nil some
    have digit := all c (same ▸ List.mem_cons_self)
    simp only [chars, same, List.cons_append, List.head?_cons, ne_eq, Option.some.injEq]
    rintro rfl
    exact absurd digit (by decide)
  have afterPower := apart_power text ends
  have afterFraction := fraction?_fraction formed afterPower
  have power := exponent_power formed ends
  have powerSome : text.exponent?.isSome = text.power.isSome := Option.isSome_map
  unfold decimalNumber?
  rw [if_neg (by simpa using leads), chars, List.append_assoc, digits?_append all some, List.append_assoc]
  · simp only [Option.bind_eq_bind, Option.bind_some, afterFraction, power, powerSome]
    rfl
  · intro c first
    cases fraction : text.fraction with
    | none =>
      rw [fraction] at first
      exact (afterPower c (by simpa using first)).1
    | some digits =>
      rw [fraction] at first
      cases first
      decide

theorem number?_of_second {text : List Char}
    (ten : ∀ c ∈ text.tail.head?, c ∉ ['x', 'X', 'o', 'O', 'b', 'B']) :
    number? text = decimalNumber? text := by
  unfold number?
  split
  · next c rest =>
    have other := ten c rfl
    simp only [List.mem_cons, List.not_mem_nil, or_false, not_or] at other
    obtain ⟨x, x', o, o', b, b'⟩ := other
    simp [x, x', o, o', b, b']
  · rfl

/-- A decimal is read back. -/
theorem number?_chars (formed : text.Formed) (ends : EndsDecimal rest) :
    number? (text.chars ++ rest) =
      numeral? text.whole (text.fraction.isSome || text.power.isSome)
        (Double.ofDecimal false text.digits text.place) rest := by
  rw [number?_of_second, decimalNumber?_chars formed ends]
  intro c second
  obtain ⟨some, all⟩ := formed.whole
  have digitApart : ∀ c : Char, c.isDigit = true → c ∉ ['x', 'X', 'o', 'O', 'b', 'B'] := by
    rintro c digit member
    have : ∀ c ∈ ['x', 'X', 'o', 'O', 'b', 'B'], c.isDigit = false := by decide
    rw [this c member] at digit
    cases digit
  obtain ⟨first, digits, same⟩ := List.exists_cons_of_ne_nil some
  rw [same] at all
  rw [chars, same] at second
  cases digits with
  | cons d digits =>
    cases second
    exact digitApart c (all c (List.mem_cons_of_mem _ List.mem_cons_self))
  | nil =>
    cases fraction : text.fraction with
    | some digits =>
      rw [fraction] at second
      cases second
      decide
    | none =>
      rw [fraction] at second
      cases power : text.power with
      | some found =>
        rw [power] at second
        cases second
        decide
      | none =>
        rw [power] at second
        have marks : ∀ c ∈ 'j' :: endMarks, c ∉ ['x', 'X', 'o', 'O', 'b', 'B'] := by decide
        exact marks c (ends c second)

end Reading

end DecimalText

section Numerals

variable {whole rest : List Char} {value : Double}

private theorem numeral?_float (ends : Ends rest) :
    numeral? whole true value rest = some (.float value, rest) := by
  unfold numeral?
  split
  · exact absurd (ends 'j' rfl) (by decide)
  · exact absurd (ends 'J' rfl) (by decide)
  · rw [ends.numberEnds]
    rfl

private theorem numeral?_int (integer : isInteger whole = true) (ends : Ends rest) :
    numeral? whole false value rest = some (.int (natOf 10 whole), rest) := by
  unfold numeral?
  split
  · exact absurd (ends 'j' rfl) (by decide)
  · exact absurd (ends 'J' rfl) (by decide)
  · rw [ends.numberEnds, integer]
    rfl

private theorem numeral?_imaginary (isDecimal : Bool) (ends : Ends rest) :
    numeral? whole isDecimal value ('j' :: rest) = some (.imaginary value, rest) :=
  if_pos ends.numberEnds

end Numerals

section Integers

variable {n : Nat} {rest : List Char}

/-- A whole number as a decimal without point and exponent. -/
def DecimalText.ofNat (n : Nat) : DecimalText := ⟨Nat.toDigits 10 n, none, none⟩

theorem DecimalText.formed_ofNat (n : Nat) : (DecimalText.ofNat n).Formed where
  whole := ⟨Nat.toDigits_ne_nil, isDigit_toDigits n⟩
  fraction := nofun
  power := nofun

private theorem number?_toDigits_append (n : Nat) (ends : EndsDecimal rest) :
    number? (Nat.toDigits 10 n ++ rest) =
      numeral? (Nat.toDigits 10 n) false (Double.ofDecimal false n 0) rest := by
  have read := DecimalText.number?_chars (DecimalText.formed_ofNat n) ends
  have digits : (DecimalText.ofNat n).digits = n := by
    show natOf 10 (Nat.toDigits 10 n ++ []) = n
    rw [List.append_nil, natOf_toDigits]
  have chars : (DecimalText.ofNat n).chars = Nat.toDigits 10 n := List.append_nil _
  rw [chars, digits] at read
  exact read

theorem number?_toDigits (few : (Nat.toDigits 10 n).length ≤ mostDigits) (ends : Ends rest) :
    number? (Nat.toDigits 10 n ++ rest) = some (.int n, rest) := by
  rw [number?_toDigits_append n ends.decimal, numeral?_int (isInteger_toDigits few) ends,
    natOf_toDigits]

end Integers

section Layouts

open Blueprint.Double (Digits)

/-- A decimal is how digits are written. -/
structure DecimalText.Spells (text : DecimalText) (d : Digits) : Prop where
  chars : d.text = text.chars
  formed : text.Formed
  decimal : (text.fraction.isSome || text.power.isSome) = true
  value : (text.digits : ℚ) * 10 ^ text.place = d.digits * 10 ^ (d.point - d.size)

variable {d : Digits}

theorem spells_whole {whole : Nat} (found : d.whole? = some whole) :
    (DecimalText.mk (Nat.toDigits 10 whole) (some ['0']) none).Spells d where
  chars := by
    unfold Digits.text
    simp only [found]
    rfl
  formed := {
    whole := ⟨Nat.toDigits_ne_nil, isDigit_toDigits whole⟩
    fraction := by
      rintro _ ⟨⟩
      decide
    power := nofun }
  decimal := rfl
  value := by
    have digits : natOf 10 (Nat.toDigits 10 whole ++ ['0']) = whole * 10 := by
      rw [natOf_append, natOf_toDigits]
      rfl
    rw [← Digits.whole?_eq found]
    show ((natOf 10 (Nat.toDigits 10 whole ++ ['0']) : Nat) : ℚ) * 10 ^ (-1 : Int) = whole
    rw [digits, zpow_neg_one]
    push_cast
    ring

/-- The digits of an exponent: at least two. -/
def markDigits (n : Nat) : List Char :=
  if (Nat.toDigits 10 n).length < 2 then '0' :: Nat.toDigits 10 n else Nat.toDigits 10 n

private theorem natOf_markDigits (n : Nat) : natOf 10 (markDigits n) = n := by
  unfold markDigits
  split
  · exact (natOf_zeros 1 _).trans (natOf_toDigits n)
  · exact natOf_toDigits n

private theorem isDigit_markDigits (n : Nat) :
    markDigits n ≠ [] ∧ ∀ c ∈ markDigits n, c.isDigit = true := by
  unfold markDigits
  split
  · exact ⟨List.cons_ne_nil _ _, List.forall_mem_cons.mpr ⟨rfl, isDigit_toDigits _⟩⟩
  · exact ⟨Nat.toDigits_ne_nil, isDigit_toDigits _⟩

theorem signed_markDigits (exponent : Int) :
    (if decide (exponent < 0) = true then -(natOf 10 (markDigits exponent.natAbs) : Int)
      else natOf 10 (markDigits exponent.natAbs)) = exponent := by
  rw [natOf_markDigits]
  split
  · next below =>
    have := of_decide_eq_true below
    omega
  · next above =>
    have := of_decide_eq_false (Bool.eq_false_iff.mpr above)
    omega

theorem spells_marked (found : d.whole? = none) (marked : d.point ≤ -4 ∨ 16 < d.point) :
    ∃ text : DecimalText, text.Spells d := by
  have some := Nat.toDigits_ne_nil (n := d.digits) (b := 10)
  obtain ⟨c, rest, same⟩ := List.exists_cons_of_ne_nil some
  have all := isDigit_toDigits d.digits
  have number := natOf_toDigits d.digits
  have size : d.size = rest.length + 1 := by rw [Digits.size, same, List.length_cons]
  rw [same] at all number
  refine ⟨⟨[c], if rest = [] then none else .some rest,
    .some (decide (d.point - 1 < 0), markDigits (d.point - 1).natAbs)⟩, ?_, ?_, ?_, ?_⟩
  · unfold Digits.text
    have test : (decide (d.point ≤ -4) || decide (16 < d.point)) = true := by simpa using marked
    simp only [found, test, if_true, same]
    cases rest with
    | nil => simp [DecimalText.chars, markDigits]
    | cons next rest => simp [DecimalText.chars, markDigits]
  · refine ⟨⟨List.cons_ne_nil _ _, ?_⟩, ?_, ?_⟩
    · exact fun d member => all d (List.mem_cons.mpr (Or.inl (List.mem_singleton.mp member)))
    · intro digits member
      split at member
      · cases member
      · next other =>
        cases member
        exact ⟨other, fun d member => all d (List.mem_cons_of_mem _ member)⟩
    · rintro _ ⟨⟩
      exact isDigit_markDigits _
  · exact Bool.or_true _
  · have digits : (if rest = [] then (none : Option (List Char)) else .some rest).getD [] = rest := by
      split
      · next empty => exact empty.symm
      · rfl
    unfold DecimalText.digits DecimalText.place DecimalText.exponent?
    simp only [digits, Option.map_some, Option.getD_some, signed_markDigits]
    rw [List.singleton_append, number, size]
    congr 2
    push_cast
    ring

theorem spells_small (found : d.whole? = none) (small : d.point ≤ 0) (plain : -4 < d.point) :
    (DecimalText.mk ['0'] (some (List.replicate (-d.point).toNat '0' ++ Nat.toDigits 10 d.digits))
      none).Spells d where
  chars := by
    unfold Digits.text
    have test : (decide (d.point ≤ -4) || decide (16 < d.point)) = false := by
      simp only [Bool.or_eq_false_iff, decide_eq_false_iff_not]
      omega
    simp only [found, test, Bool.false_eq_true, if_false, if_pos small]
    simp [DecimalText.chars]
  formed := {
    whole := ⟨List.cons_ne_nil _ _, List.forall_mem_singleton.mpr rfl⟩
    fraction := by
      rintro _ ⟨⟩
      refine ⟨List.append_ne_nil_of_right_ne_nil _ Nat.toDigits_ne_nil, ?_⟩
      intro c member
      rcases List.mem_append.mp member with zero | digit
      · rw [List.eq_of_mem_replicate zero]
        rfl
      · exact isDigit_toDigits _ c digit
    power := nofun }
  decimal := rfl
  value := by
    have number : natOf 10 (['0'] ++ (List.replicate (-d.point).toNat '0' ++
        Nat.toDigits 10 d.digits)) = d.digits :=
      (natOf_zeros 1 _).trans ((natOf_zeros _ _).trans (natOf_toDigits _))
    unfold DecimalText.digits DecimalText.place DecimalText.exponent?
    simp only [Option.getD_some, Option.map_none, Option.getD_none, List.length_append,
      List.length_replicate, number, Digits.size]
    congr 2
    push_cast
    omega

theorem spells_split (found : d.whole? = none) (some : 0 < d.point) (few : d.point ≤ 16) :
    (DecimalText.mk ((Nat.toDigits 10 d.digits).take d.point.toNat)
      (.some ((Nat.toDigits 10 d.digits).drop d.point.toNat)) none).Spells d := by
  have more : d.point < d.size := by
    unfold Digits.whole? at found
    split at found
    · cases found
    · omega
  have size : (Nat.toDigits 10 d.digits).length = d.size := rfl
  refine ⟨?_, ⟨⟨?_, ?_⟩, ?_, nofun⟩, rfl, ?_⟩
  · unfold Digits.text
    have test : (decide (d.point ≤ -4) || decide (16 < d.point)) = false := by
      simp only [Bool.or_eq_false_iff, decide_eq_false_iff_not]
      omega
    simp only [found, test, Bool.false_eq_true, if_false, if_neg (not_le.mpr some)]
    simp [DecimalText.chars]
  · rw [← List.length_pos_iff, List.length_take]
    omega
  · exact fun c member => isDigit_toDigits _ c (List.mem_of_mem_take member)
  · rintro _ ⟨⟩
    refine ⟨?_, fun c member => isDigit_toDigits _ c (List.mem_of_mem_drop member)⟩
    rw [← List.length_pos_iff, List.length_drop]
    omega
  · unfold DecimalText.digits DecimalText.place DecimalText.exponent?
    simp only [Option.getD_some, Option.map_none, Option.getD_none, List.take_append_drop,
      List.length_drop, natOf_toDigits, size]
    congr 2
    omega

theorem exists_spells (d : Digits) : ∃ text : DecimalText, text.Spells d := by
  cases found : d.whole? with
  | some whole => exact ⟨_, spells_whole found⟩
  | none =>
    by_cases marked : d.point ≤ -4 ∨ 16 < d.point
    · exact spells_marked found marked
    · by_cases small : d.point ≤ 0
      · exact ⟨_, spells_small found small (by omega)⟩
      · exact ⟨_, spells_split found (by omega) (by omega)⟩

end Layouts

section Doubles

open Blueprint.Double (Digits Fits shortest shortest_spec)
open Literal (unsigned)

variable {x : Double} {rest : List Char}

theorem ofDecimal_zero {exponent : Int} (fits : Fits 0 exponent) (place : Int) :
    Double.ofDecimal false 0 place = .finite false 0 exponent fits := by
  obtain rfl : exponent = Double.minExponent := by
    obtain ⟨-, -, -, normal | least⟩ := fits
    · cases normal
    · exact least
  rfl

theorem unsigned_finite (negative : Bool) (mantissa : Nat) (exponent : Int)
    (fits : Fits mantissa exponent) :
    unsigned (.finite negative mantissa exponent fits) = .finite false mantissa exponent fits := by
  cases negative <;> rfl

/-- The text of a double without its sign is a decimal that is read to the double. -/
theorem exists_decimal (finite : x.IsFinite) :
    ∃ text : DecimalText, x.unsignedText = text.chars ∧ text.Formed ∧
      (text.fraction.isSome || text.power.isSome) = true ∧
      Double.ofDecimal false text.digits text.place = unsigned x := by
  rcases x with _ | _ | ⟨negative, mantissa, exponent, fits⟩
  · cases finite
  · cases finite
  · rw [unsigned_finite]
    rcases Nat.eq_zero_or_pos mantissa with rfl | some
    · refine ⟨⟨['0'], .some ['0'], none⟩, rfl, ⟨by decide, ?_, nofun⟩, rfl, ofDecimal_zero fits _⟩
      rintro _ ⟨⟩
      decide
    · obtain ⟨text, spells⟩ := exists_spells (shortest mantissa exponent)
      have near := (shortest_spec some fits).2
      rw [← spells.value] at near
      refine ⟨text, ?_, spells.formed, spells.decimal, Double.ofDecimal_eq false some fits near⟩
      rw [← spells.chars]
      cases mantissa with
      | zero => cases some
      | succ mantissa => rfl

theorem number?_unsignedText (finite : x.IsFinite) (ends : Ends rest) :
    number? (x.unsignedText ++ rest) = some (.float (unsigned x), rest) := by
  obtain ⟨text, chars, formed, decimal, value⟩ := exists_decimal finite
  rw [chars, DecimalText.number?_chars formed ends.decimal, decimal, value, numeral?_float ends]

/-- A double that is written as a whole number is the one nearest to it. -/
theorem whole_cases {negative : Bool} {mantissa : Nat} {exponent : Int}
    {fits : Fits mantissa exponent} {whole : Nat}
    (found : (Double.finite negative mantissa exponent fits).whole? = some whole) :
    (mantissa = 0 ∧ whole = 0) ∨
      0 < mantissa ∧ Double.RoundsTo (whole : ℚ) mantissa exponent := by
  cases mantissa with
  | zero =>
    cases found
    exact Or.inl ⟨rfl, rfl⟩
  | succ mantissa =>
    have near := (shortest_spec (Nat.succ_pos mantissa) fits).2
    rw [← Digits.whole?_eq found] at near
    exact Or.inr ⟨Nat.succ_pos mantissa, near⟩

private theorem ofDecimal_whole {whole : Nat} (finite : x.IsFinite) (found : x.whole? = some whole) :
    Double.ofDecimal false whole 0 = unsigned x := by
  rcases x with _ | _ | ⟨negative, mantissa, exponent, fits⟩
  · cases finite
  · cases finite
  · rw [unsigned_finite]
    rcases whole_cases found with ⟨rfl, rfl⟩ | ⟨some, near⟩
    · exact ofDecimal_zero fits 0
    · exact Double.ofDecimal_eq false some fits (by rwa [zpow_zero, mul_one])

/-- A double that is written as a whole number is the value of that number. -/
theorem ofInt_whole {whole : Nat} (finite : x.IsFinite) (found : x.whole? = some whole) :
    Double.ofInt whole = unsigned x := by
  rcases x with _ | _ | ⟨negative, mantissa, exponent, fits⟩
  · cases finite
  · cases finite
  · rw [unsigned_finite]
    rcases whole_cases found with ⟨rfl, rfl⟩ | ⟨some, near⟩
    · exact ofDecimal_zero fits 0
    · exact Double.ofInt_eq some fits near

/-- An imaginary number is read back but for its sign. -/
theorem number?_imaginary (finite : x.IsFinite) (ends : Ends rest) :
    number? (x.unsignedShort ++ 'j' :: rest) = some (.imaginary (unsigned x), rest) := by
  unfold Double.unsignedShort
  split
  · next whole found =>
    rw [number?_toDigits_append whole (endsDecimal_mark rest), numeral?_imaginary false ends,
      ofDecimal_whole finite found]
  · obtain ⟨text, chars, formed, decimal, value⟩ := exists_decimal finite
    rw [chars, DecimalText.number?_chars formed (endsDecimal_mark rest), value,
      numeral?_imaginary _ ends]

/-- A whole number that a double is written as has few digits. -/
theorem length_whole {whole : Nat} (found : x.whole? = some whole) :
    (Nat.toDigits 10 whole).length ≤ mostDigits := by
  have few : ∀ digits : Digits, digits.whole? = some whole →
      (Nat.toDigits 10 whole).length ≤ mostDigits := fun digits found =>
    (Digits.length_whole found).trans (by decide)
  rcases x with _ | _ | ⟨negative, mantissa, exponent, fits⟩
  · cases found
  · cases found
  · cases mantissa with
    | zero =>
      cases found
      decide
    | succ mantissa => exact few _ found

/-- The constant that a double without its sign is in a sum: a whole number if it is written so. -/
def shortConstant (x : Double) : Constant :=
  match x.whole? with
  | some whole => .int whole
  | none => .float (unsigned x)

theorem number?_unsignedShort (finite : x.IsFinite) (ends : Ends rest) :
    number? (x.unsignedShort ++ rest) = some (shortConstant x, rest) := by
  unfold Double.unsignedShort shortConstant
  cases found : x.whole? with
  | some whole => exact number?_toDigits (length_whole found) ends
  | none => exact number?_unsignedText finite ends

end Doubles

end Blueprint.ServerCode
