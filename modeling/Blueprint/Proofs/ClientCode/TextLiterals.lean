import Mathlib.Data.List.Basic
import Blueprint.ClientCode.Source
import Blueprint.Design.Token
import Blueprint.Proofs.Text
import Blueprint.ServerCode.QuotedText

namespace Blueprint.ClientCode

open Blueprint.Text (Found replaceText replaceText_append_of_match replaceText_append_of_absent)
open Blueprint.ServerCode (hexNumber? isHexDigit natOf)

/-- The UTF-16 units of a code point. -/
def unitsOf (point : Nat) : List Nat :=
  if point < 0x10000 then [point]
  else [0xd800 + (point - 0x10000) / 0x400, 0xdc00 + (point - 0x10000) % 0x400]

/-- The UTF-16 units of a text. -/
def units (text : String) : List Nat := text.toList.flatMap fun c => unitsOf c.toNat

/-- The escapes of a single letter that stand for control characters. -/
def controlEscapes : List (Char × Nat) :=
  [('b', 8), ('t', 9), ('n', 10), ('v', 11), ('f', 12), ('r', 13)]

/-- The escape of a code point in braces, whose text starts behind the opening brace. -/
def bracedEscape? (text : List Char) : Option (Found (List Nat)) :=
  let digits := text.takeWhile isHexDigit
  let point := natOf 16 digits
  if digits.isEmpty || 0x10ffff < point || (text.drop digits.length).head? != some '\x7d' then none
  else some ⟨unitsOf point, digits.length + 3⟩

/-- What an escape stands for. The text starts behind the backslash. A line end there stands for
nothing; a digit is no escape, apart from a zero before no other digit. -/
def escape? : List Char → Option (Found (List Nat))
  | [] => none
  | c :: rest =>
    match controlEscapes.lookup c with
    | some unit => some ⟨[unit], 1⟩
    | none =>
      if c == 'x' then (hexNumber? 2 rest).map fun found => ⟨[found.1], 3⟩
      else if c == 'u' then
        if rest.head? == some '\x7b' then bracedEscape? (rest.drop 1)
        else (hexNumber? 4 rest).map fun found => ⟨[found.1], 5⟩
      else if c == '0' && !rest.head?.any Char.isDigit then some ⟨[0], 1⟩
      else if c.isDigit then none
      else if c == '\r' then some ⟨[], if rest.head? == some '\n' then 2 else 1⟩
      else if c == '\n' || c == '\u2028' || c == '\u2029' then some ⟨[], 1⟩
      else some ⟨unitsOf c.toNat, 1⟩

/-- The units that a literal stands for, from behind its opening quote to its closing quote, after
`skip` characters that belong to the last escape. -/
def unitsFrom (skip : Nat) : List Char → Option (List Nat)
  | [] => none
  | c :: rest =>
    match skip with
    | skip + 1 => unitsFrom skip rest
    | 0 =>
      if c == '\'' then (if rest.isEmpty then some [] else none)
      else if c == '\\' then
        (escape? rest).bind fun found => (unitsFrom found.size rest).map (found.value ++ ·)
      else if c == '\n' || c == '\r' then none
      else (unitsFrom 0 rest).map (unitsOf c.toNat ++ ·)

/-- The value of a text literal in single quotes; none for a text that is no such literal. -/
def literalUnits? (text : String) : Option (List Nat) :=
  match text.toList with
  | '\'' :: body => unitsFrom 0 body
  | _ => none

theorem unitsFrom_escapeChar (c : Char) (rest : List Char) :
    unitsFrom 0 (escapeChar c ++ rest) =
      if c == '\n' || c == '\r' then none else (unitsFrom 0 rest).map (unitsOf c.toNat ++ ·) := by
  unfold escapeChar
  split
  · rfl
  · rfl
  · rename_i backslash quote
    rw [List.singleton_append, unitsFrom, if_neg (by simpa using quote),
      if_neg (by simpa using backslash)]

theorem unitsFrom_flatMap (text : List Char) :
    unitsFrom 0 (text.flatMap escapeChar ++ ['\'']) =
      if '\n' ∈ text ∨ '\r' ∈ text then none
      else some (text.flatMap fun c => unitsOf c.toNat) := by
  induction text with
  | nil => rfl
  | cons c text ih =>
    rw [List.flatMap_cons, List.append_assoc, unitsFrom_escapeChar, ih]
    by_cases feed : c = '\n'
    · simp [feed]
    · by_cases carriage : c = '\r'
      · simp [carriage]
      · have here : ('\n' ∈ c :: text ∨ '\r' ∈ c :: text) ↔ ('\n' ∈ text ∨ '\r' ∈ text) := by
          simp [Ne.symm feed, Ne.symm carriage]
        rw [if_congr here rfl rfl, if_neg (by simp [feed, carriage])]
        split <;> rfl

private theorem literalUnits?_quoted (text : String) :
    literalUnits? (quoted text) =
      if '\n' ∈ text.toList ∨ '\r' ∈ text.toList then none else some (units text) := by
  rw [literalUnits?, quoted, String.toList_ofList, quotedChars]
  exact unitsFrom_flatMap text.toList

/-- Escaping backslashes and then quotes is escaping each character. -/
theorem flatMap_escapeChar (text : List Char) : text.flatMap escapeChar =
    replaceText ['\''] ['\\', '\''] (replaceText ['\\'] ['\\', '\\'] text) := by
  induction text with
  | nil => rfl
  | cons c text ih =>
    change _ = replaceText ['\''] _ (replaceText ['\\'] _ ([c] ++ text))
    rw [List.flatMap_cons, ih]
    unfold escapeChar
    split
    · rw [replaceText_append_of_match, replaceText_append_of_absent (by decide)]
    · have unslashed : '\\' ∉ ['\''] := by decide
      rw [replaceText_append_of_absent unslashed, replaceText_append_of_match]
    · rename_i backslash quote
      have first : '\\' ∉ [c] := by simpa using Ne.symm backslash
      have second : '\'' ∉ [c] := by simpa using Ne.symm quote
      rw [replaceText_append_of_absent first, replaceText_append_of_absent second]

private theorem escapeChar_append_inj {c d : Char} {rest more : List Char}
    (same : escapeChar c ++ rest = escapeChar d ++ more) : c = d ∧ rest = more := by
  unfold escapeChar at same
  -- Only what is escaped starts with a backslash, and the next character tells the two apart.
  split at same <;> split at same <;> grind

theorem flatMap_escapeChar_inj {text other : List Char}
    (same : text.flatMap escapeChar = other.flatMap escapeChar) : text = other := by
  have shown (c : Char) (rest : List Char) : escapeChar c ++ rest ≠ [] := by
    unfold escapeChar
    split <;> simp
  induction text generalizing other with
  | nil =>
    cases other with
    | nil => rfl
    | cons d other => exact absurd same.symm (shown d _)
  | cons c text ih =>
    cases other with
    | nil => exact absurd same (shown c _)
    | cons d other =>
      obtain ⟨rfl, rest⟩ := escapeChar_append_inj same
      rw [ih rest]

/-- A written text escapes backslashes and then quotes, each occurrence once. It is a literal whose
value is the text if the text is a single line, and no literal at all if a line ends in it; and
different texts are written differently. -/
theorem quoted_decodes_iff (text : String) :
    (quoted text).toList = '\'' ::
      replaceText ['\''] ['\\', '\''] (replaceText ['\\'] ['\\', '\\'] text.toList) ++ ['\''] ∧
    (literalUnits? (quoted text) = some (units text) ↔
      '\n' ∉ text.toList ∧ '\r' ∉ text.toList) ∧
    (literalUnits? (quoted text) = none ↔ '\n' ∈ text.toList ∨ '\r' ∈ text.toList) ∧
    ∀ other : String, quoted other = quoted text ↔ other = text := by
  refine ⟨?_, ?_, ?_, fun other => ⟨fun same => ?_, fun same => by rw [same]⟩⟩
  · rw [quoted, String.toList_ofList, quotedChars, flatMap_escapeChar]
  · rw [literalUnits?_quoted, ← not_or]
    split <;> simp_all only [reduceCtorEq, not_true_eq_false, not_false_eq_true]
  · rw [literalUnits?_quoted]
    split <;> simp_all only [reduceCtorEq]
  · have inner : (other.toList.flatMap escapeChar) ++ ['\''] =
        (text.toList.flatMap escapeChar) ++ ['\''] := by
      have chars := congrArg String.toList same
      simpa [quoted, quotedChars] using chars
    exact String.toList_inj.mp (flatMap_escapeChar_inj (List.append_cancel_right inner))

/-- A design may hold a text of two lines, and the literal that is written for it is none. -/
theorem line_feed_unescaped :
    Design.Lexeme.quoted ['"', 'a', '\n', 'b', '"'] = some ⟨"a\nb", 5⟩ ∧
      quoted "a\nb" = "'a\nb'" ∧ literalUnits? (quoted "a\nb") = none :=
  ⟨rfl, by decide, by decide⟩

end Blueprint.ClientCode
