import Blueprint.Proofs.ServerCode.QuotedTexts
import Blueprint.Server.Package

namespace Blueprint.Server

open Blueprint.ServerCode (hexNumber? hexNumber?_hexDigits length_hexDigits)

/-- A character that stands for itself in a basic string: a tab, or any other that is neither a
control character, a quote nor a backslash. -/
def isBasicPlain (c : Char) : Bool :=
  c == '\t' || (0x20 ≤ c.toNat && c.toNat != 0x7f && c != '"' && c != '\\')

/-- The escapes of a single letter or sign. -/
def basicEscapes : List (Char × Char) :=
  [('b', '\x08'), ('t', '\t'), ('n', '\n'), ('f', '\x0c'), ('r', '\r'), ('"', '"'), ('\\', '\\')]

/-- The character that hexadecimal digits name; they must name a Unicode scalar value. -/
def scalarOf? (digits : List Char) : Option Char := do
  let (n, _) ← hexNumber? digits.length digits
  if n.isValidChar then some (Char.ofNat n) else none

/-- What a basic string stands for, from behind its opening quote to its closing quote. -/
def basicBody? : List Char → Option (List Char)
  | [] => none
  | '\\' :: 'u' :: a :: b :: c :: d :: rest => do
    let named ← scalarOf? [a, b, c, d]
    return named :: (← basicBody? rest)
  | '\\' :: 'U' :: a :: b :: c :: d :: e :: f :: g :: h :: rest => do
    let named ← scalarOf? [a, b, c, d, e, f, g, h]
    return named :: (← basicBody? rest)
  | '\\' :: mark :: rest => do
    let named ← basicEscapes.lookup mark
    return named :: (← basicBody? rest)
  | c :: rest =>
    if c == '"' then (if rest.isEmpty then some [] else none)
    else if isBasicPlain c then (basicBody? rest).map (c :: ·)
    else none

/-- What a basic string stands for; none for a text that is no basic string. -/
def basicString? (text : String) : Option String :=
  match text.toList with
  | '"' :: body => (basicBody? body).map String.ofList
  | _ => none

private theorem basicBody?_plain {c : Char} (apart : c ≠ '\\') (rest : List Char) :
    basicBody? (c :: rest) = if c == '"' then (if rest.isEmpty then some [] else none)
      else if isBasicPlain c then (basicBody? rest).map (c :: ·) else none := by
  rw [basicBody?] <;> simp_all

private theorem scalarOf?_hexDigits {count n : Nat} (small : n < 16 ^ count) :
    scalarOf? (Json.hexDigits count n) = if n.isValidChar then some (Char.ofNat n) else none := by
  have read := hexNumber?_hexDigits small []
  rw [List.append_nil] at read
  simp [scalarOf?, read]

theorem basicBody?_unitEscape {n : Nat} (small : n < 0x10000) (rest : List Char) :
    basicBody? (Json.unitEscape n ++ rest) =
      if n.isValidChar then (basicBody? rest).map (Char.ofNat n :: ·) else none := by
  have named : scalarOf? (Json.hexDigits 4 n) = _ := scalarOf?_hexDigits small
  simp only [Json.unitEscape, Json.hexDigits, List.nil_append, List.cons_append] at named ⊢
  rw [basicBody?, named]
  split
  · cases basicBody? rest <;> rfl
  · rfl

/-- A character of one unit is read back; one of two units is written as two escapes, neither of which
stands for a character. -/
theorem basicBody?_escapeChar (c : Char) (rest : List Char) :
    basicBody? (Json.escapeChar c ++ rest) =
      if c.toNat < 0x10000 then (basicBody? rest).map (c :: ·) else none := by
  have named (mark stands : Char) (apart : mark ≠ 'u' ∧ mark ≠ 'U')
      (known : basicEscapes.lookup mark = some stands) :
      basicBody? ('\\' :: mark :: rest) = (basicBody? rest).map (stands :: ·) := by
    rw [basicBody?]
    · rw [known]
      cases basicBody? rest <;> rfl
    all_goals simp_all
  unfold Json.escapeChar
  split
  · exact named '"' '"' (by decide) rfl
  · exact named '\\' '\\' (by decide) rfl
  · exact named 'n' '\n' (by decide) rfl
  · exact named 'r' '\r' (by decide) rfl
  · exact named 't' '\t' (by decide) rfl
  · exact named 'b' '\x08' (by decide) rfl
  · exact named 'f' '\x0c' (by decide) rfl
  · rename_i quote backslash _ _ _ _ _
    have valid : c.toNat.isValidChar := c.valid
    simp only
    split
    · rename_i shown
      have plain : isBasicPlain c = true := by
        simp only [Bool.and_eq_true, decide_eq_true_eq] at shown
        simp only [isBasicPlain, Bool.or_eq_true, Bool.and_eq_true, decide_eq_true_eq, bne_iff_ne]
        exact Or.inr ⟨⟨⟨shown.1, by omega⟩, quote⟩, backslash⟩
      have unit : c.toNat < 0x10000 := by
        simp only [Bool.and_eq_true, decide_eq_true_eq] at shown
        omega
      rw [List.singleton_append, basicBody?_plain backslash, if_neg (by simpa using quote),
        if_pos plain, if_pos unit]
    · split
      · rename_i unit
        rw [basicBody?_unitEscape unit, if_pos valid, Char.ofNat_toNat]
      · rename_i pair
        have half : 0xd800 + (c.toNat - 0x10000) / 0x400 < 0xdc00 := by
          unfold Nat.isValidChar at valid
          omega
        rw [List.append_assoc, basicBody?_unitEscape (by omega), if_neg]
        simp only [Nat.isValidChar]
        omega

private theorem basicBody?_flatMap (text : List Char) :
    basicBody? (text.flatMap Json.escapeChar ++ ['"']) =
      if ∀ c ∈ text, c.toNat < 0x10000 then some text else none := by
  induction text with
  | nil => rfl
  | cons c text ih =>
    rw [List.flatMap_cons, List.append_assoc, basicBody?_escapeChar, ih]
    by_cases here : c.toNat < 0x10000 <;> by_cases there : ∀ c ∈ text, c.toNat < 0x10000 <;>
      simp [here, there]

private theorem basicString?_tomlText (text : String) :
    basicString? (tomlText (.str text)) =
      if ∀ c ∈ text.toList, c.toNat < 0x10000 then some text else none := by
  have written : (tomlText (.str text)).toList =
      '"' :: (text.toList.flatMap Json.escapeChar ++ ['"']) := by
    simp [tomlText, ServerCode.Literal.ofJson, ServerCode.Literal.plain, Json.quote,
      Json.quoteChars]
  rw [basicString?, written]
  simp only [basicBody?_flatMap]
  split <;> simp

/-- A text in a package file is a basic string that stands for the text if each of its characters is
one UTF-16 unit, and no basic string at all if one of them takes two. -/
theorem tomlText_decodes_iff (text : String) :
    (basicString? (tomlText (.str text)) = some text ↔ ∀ c ∈ text.toList, c.toNat < 0x10000) ∧
      (basicString? (tomlText (.str text)) = none ↔ ∃ c ∈ text.toList, 0x10000 ≤ c.toNat) := by
  rw [basicString?_tomlText]
  constructor
  · split <;> simp_all
  · constructor
    · intro refused
      by_contra none
      have small : ∀ c ∈ text.toList, c.toNat < 0x10000 := fun c listed =>
        Nat.lt_of_not_le fun large => none ⟨c, listed, large⟩
      rw [if_pos small] at refused
      cases refused
    · rintro ⟨c, listed, large⟩
      exact if_neg fun small => absurd (small c listed) (Nat.not_lt.mpr large)

/-- The text of a character beyond the first 65536 is no basic string. -/
theorem paired_units_refused : (tomlText (.str "😀") = "\"\\ud83d\\ude00\"") ∧
    basicString? (tomlText (.str "😀")) = none :=
  ⟨by decide, by decide⟩

end Blueprint.Server
