import Blueprint.Proofs.ServerCode.FunctionHeads
import Blueprint.Proofs.ServerCode.NumberTexts

/-!
Texts as tokens. A text has tokens if it is read as them in front of a given rest, in whatever state
the reader is; such texts can be put together. Words, numbers, quoted texts, signs and brackets are
read so, and so are rows of texts with commas between them.
-/

namespace Blueprint.ServerCode

open Text

/-- Takes a token into the state of the reading. -/
def Lexing.take (state : Lexing) : Token → Option Lexing
  | .sign sign => takeSign state sign
  | token => some { state with tokens := token :: state.tokens }

/-- Takes tokens, the first one first. -/
def Lexing.takeAll (state : Lexing) (tokens : List Token) : Option Lexing :=
  tokens.foldlM Lexing.take state

/-- The reading with some more tokens. -/
def Lexing.push (state : Lexing) (tokens : List Token) : Lexing :=
  { state with tokens := tokens.reverse ++ state.tokens }

@[simp] theorem Lexing.brackets_push (state : Lexing) (tokens : List Token) :
    (state.push tokens).brackets = state.brackets := rfl

theorem Lexing.push_push (state : Lexing) (tokens others : List Token) :
    (state.push tokens).push others = state.push (tokens ++ others) := by
  simp [push]

section Steps

variable {state next : Lexing} {c : Char} {chars more rest : List Char} {tokens others : List Token}

theorem Lexing.takeAll_append (state : Lexing) (tokens others : List Token) :
    state.takeAll (tokens ++ others) =
      (state.takeAll tokens).bind fun next => next.takeAll others := by
  rw [takeAll, List.foldlM_append]
  rfl

private theorem atStart_take {token : Token} (taken : state.take token = some next) :
    next.atStart = state.atStart := by
  cases token with
  | sign sign =>
    simp only [Lexing.take, takeSign] at taken
    grind
  | _ =>
    cases taken
    rfl

private theorem atStart_takeAll (taken : state.takeAll tokens = some next) :
    next.atStart = state.atStart := by
  induction tokens generalizing state with
  | nil =>
    cases taken
    rfl
  | cons token tokens ih =>
    obtain ⟨between, first, taken⟩ := Option.bind_eq_some_iff.mp taken
    exact (ih taken).trans (atStart_take first)

/-- Characters in front of others are read as tokens, with a step for each character at most. -/
structure Reads (chars : List Char) (tokens : List Token) (rest : List Char) : Prop where
  plain : PlainText chars
  few : tokens.length ≤ chars.length
  read : ∀ state : Lexing, state.atStart = false → ∃ steps ≤ chars.length, ∀ fuel,
    tokensFrom (fuel + steps) state (chars ++ rest) =
      (state.takeAll tokens).bind fun next => tokensFrom fuel next rest

theorem reads_nil (rest : List Char) : Reads [] [] rest where
  plain := nofun
  few := Nat.le_refl 0
  read _ _ := ⟨0, Nat.le_refl 0, fun _ => rfl⟩

theorem Reads.append (first : Reads chars tokens (more ++ rest)) (second : Reads more others rest) :
    Reads (chars ++ more) (tokens ++ others) rest := by
  refine ⟨List.forall_mem_append.mpr ⟨first.plain, second.plain⟩, ?_, fun state inside => ?_⟩
  · rw [List.length_append, List.length_append]
    exact Nat.add_le_add first.few second.few
  obtain ⟨steps, few, read⟩ := first.read state inside
  rw [Lexing.takeAll_append]
  cases taken : state.takeAll tokens with
  | none =>
    refine ⟨steps, by rw [List.length_append]; omega, fun fuel => ?_⟩
    rw [List.append_assoc, read, taken]
    rfl
  | some next =>
    obtain ⟨steps', few', read'⟩ := second.read next ((atStart_takeAll taken).trans inside)
    refine ⟨steps' + steps, by rw [List.length_append]; omega, fun fuel => ?_⟩
    rw [List.append_assoc, ← Nat.add_assoc, read, taken]
    exact read' fuel

theorem reads_space (rest : List Char) : Reads [' '] [] rest := by
  refine ⟨List.forall_mem_singleton.mpr (by decide), Nat.zero_le 1, fun state inside => ?_⟩
  refine ⟨1, Nat.le_refl 1, fun fuel => ?_⟩
  simp [tokensFrom, inside, Lexing.takeAll]

theorem reads_token {token : Token} (some : chars ≠ []) (plain : PlainText chars)
    (step : ∀ state : Lexing, state.atStart = false → ∀ fuel,
      tokensFrom (fuel + 1) state (chars ++ rest) =
        (state.take token).bind fun next => tokensFrom fuel next rest) :
    Reads chars [token] rest := by
  refine ⟨plain, List.length_pos_iff.mpr some, fun state inside => ?_⟩
  refine ⟨1, List.length_pos_iff.mpr some, fun fuel => ?_⟩
  rw [step state inside, Lexing.takeAll, List.foldlM_cons]
  cases state.take token <;> rfl

theorem apart_of_isDigit (digit : c.isDigit = true) : c ∉ apartMarks ∧ isNameStart c = false := by
  have marks : ∀ c ∈ apartMarks, c.isDigit = false := by decide
  refine ⟨fun member => absurd digit (by simp [marks c member]), ?_⟩
  have line : (c == '_') = false := beq_eq_false_iff_ne.mpr (by rintro rfl; cases digit)
  have ascii := toNat_lt_of_isDigit digit
  have letter : c.isDigit = true → c.isAlpha = false := of_ascii c ascii (by decide)
  rw [isNameStart, if_pos ascii, letter digit, line]
  rfl

/-- A text in front of which a word ends, and that does not make it the mark of a quoted text. -/
structure EndsWord (rest : List Char) : Prop where
  apart : ∀ c ∈ rest.head?, isNamePart c = false
  unquoted : rest.head? ≠ some '\'' ∧ rest.head? ≠ some '"'

theorem Ends.word (ends : Ends rest) : EndsWord rest where
  apart := by
    have marks : ∀ c ∈ endMarks, isNamePart c = false := by decide
    exact fun c first => marks c (ends c first)
  unquoted :=
    ⟨fun first => absurd (ends _ first) (by decide), fun first => absurd (ends _ first) (by decide)⟩

theorem endsWord_bracket (rest : List Char) : EndsWord ('(' :: rest) where
  apart := by
    rintro c ⟨⟩
    decide
  unquoted := by simp

/-- A word is read up to a character that is no part of it. -/
theorem reads_word {word : String} (shape : word.toList = c :: chars) (starts : isNameStart c = true)
    (parts : ∀ d ∈ c :: chars, isNamePart d = true) (ends : EndsWord rest) :
    Reads (c :: chars) [.word word] rest := by
  have marks : ∀ c ∈ ['\r', '\x00'], isNamePart c = false := by decide
  have plain : PlainText (c :: chars) := fun d member mark =>
    absurd (parts d member) (by simp [marks d mark])
  apply reads_token (List.cons_ne_nil c chars) plain
  intro state inside fuel
  obtain ⟨stops, single, double⟩ := ends
  have read : wordOrString? (c :: chars ++ rest) = some (.word word, rest) := by
    rw [wordOrString?, takeWhile_append_stop parts stops, dropWhile_append_stop parts stops, ← shape,
      String.ofList_toList]
    cases rest with
    | nil => rfl
    | cons d rest =>
      have noQuote : (d == '\'' || d == '"') = false := by
        simp only [List.head?_cons, ne_eq, Option.some.injEq] at single double
        simp [single, double]
      simp only [noQuote, Bool.false_and, Bool.false_eq_true, ↓reduceIte]
  rw [List.cons_append] at read ⊢
  rw [tokensFrom_of_apart inside (apart_of_isNameStart starts), if_pos starts, read]
  rfl

theorem reads_number {value : Constant} (digit : c.isDigit = true)
    (plain : PlainText (c :: chars)) (read : number? (c :: chars ++ rest) = some (value, rest)) :
    Reads (c :: chars) [.number value] rest := by
  apply reads_token (List.cons_ne_nil c chars) plain
  intro state inside fuel
  obtain ⟨apart, noName⟩ := apart_of_isDigit digit
  rw [List.cons_append] at read ⊢
  rw [tokensFrom_of_apart inside apart, if_neg (by simp [noName]), if_pos (by simp [digit]), read]
  rfl

theorem reads_digits {value : Constant}
    (starts : ∃ first more, chars = first :: more ∧ first.isDigit = true) (plain : PlainText chars)
    (read : number? (chars ++ rest) = some (value, rest)) : Reads chars [.number value] rest := by
  obtain ⟨first, more, rfl, digit⟩ := starts
  exact reads_number digit plain read

theorem plain_of_isPrintable (all : ∀ c ∈ chars, isPrintable c = true) : PlainText chars := by
  have marks : ∀ c ∈ ['\r', '\x00'], isPrintable c = false := by decide
  exact fun c member mark => absurd (all c member) (by simp [marks c mark])

/-- A quoted text is read. -/
theorem reads_quotedChars (text : List Char) (ends : Ends rest) :
    Reads (quotedChars text)
      [.string { kind := .text, raw := false, marked := false, body := textBody text }] rest := by
  have plain := plain_of_isPrintable (isPrintable_quotedChars text)
  rw [quotedChars_eq, List.cons_append] at plain ⊢
  apply reads_token (List.cons_ne_nil _ _) plain
  intro state inside fuel
  have read := string?_quotedChars text ends.word.unquoted
  have kind := isQuote_quoteFor text
  rw [quotedChars_eq, List.cons_append, List.cons_append] at read
  rw [List.cons_append]
  have plain : ∀ c, IsQuote c → c ∉ apartMarks ∧ isNameStart c = false ∧ c.isDigit = false ∧
      (c == '.') = false ∧ (c == '\'' || c == '"') = true := by
    rintro c (rfl | rfl) <;> decide
  obtain ⟨apart, noName, noDigit, noPoint, quote⟩ := plain _ kind
  rw [tokensFrom_of_apart inside apart, if_neg (by simp [noName]),
    if_neg (by simp [noDigit, noPoint]), if_pos quote, read]
  rfl

/-- Quoted bytes are read. -/
theorem reads_quotedBytes (bytes : List UInt8) (ends : Ends rest) :
    Reads (quotedBytes bytes).toList
      [.string { kind := .bytes, raw := false, marked := false, body := bytesBody bytes }] rest := by
  have read := wordOrString?_quotedBytes bytes ends.word.unquoted
  have plain := plain_of_isPrintable (isPrintable_quotedBytes bytes)
  rw [toList_quotedBytes, List.cons_append] at read plain ⊢
  apply reads_token (List.cons_ne_nil _ _) plain
  intro state inside fuel
  rw [List.cons_append] at read ⊢
  rw [tokensFrom_of_apart inside (by decide), if_pos (by decide), read]
  rfl

/-- Signs of one character that values are written with. -/
def plainSigns : List Char := '(' :: '[' :: '\x7b' :: endMarks

theorem reads_sign (plain : c ∈ plainSigns)
    (read : sign? (c :: rest) = some (String.singleton c, rest)) :
    Reads [c] [.sign (String.singleton c)] rest := by
  have signs : ∀ c ∈ plainSigns, c ∉ ['\r', '\x00'] := by decide
  apply reads_token (List.cons_ne_nil _ _) (List.forall_mem_singleton.mpr (signs c plain))
  intro state inside fuel
  have marks : ∀ c ∈ plainSigns, c ∉ apartMarks ∧ isNameStart c = false ∧
      (c.isDigit || c == '.') = false ∧ (c == '\'' || c == '"') = false := by decide
  obtain ⟨apart, noName, noNumber, noQuote⟩ := marks c plain
  rw [Bool.or_eq_false_iff] at noNumber
  rw [List.cons_append, List.nil_append, tokensFrom_of_apart inside apart, if_neg (by simp [noName]),
    if_neg (by simp [noNumber]), if_neg (by simp [noQuote]), read]
  rfl

theorem reads_bracket (bracket : c ∈ ['(', ')', '[', ']', '\x7b', '\x7d', ',']) (rest : List Char) :
    Reads [c] [.sign (String.singleton c)] rest := by
  simp only [List.mem_cons, List.not_mem_nil, or_false] at bracket
  rcases bracket with rfl | rfl | rfl | rfl | rfl | rfl | rfl <;>
    exact reads_sign (by decide) rfl

/-- Longer signs that start with an operator go on with an equals sign or an arrow. -/
theorem reads_operator (operator : c ∈ [':', '+', '-'])
    (short : ∀ d ∈ rest.head?, d ≠ '=' ∧ d ≠ '>') : Reads [c] [.sign (String.singleton c)] rest := by
  simp only [List.mem_cons, List.not_mem_nil, or_false] at operator
  cases rest with
  | nil => rcases operator with rfl | rfl | rfl <;> exact reads_sign (by decide) rfl
  | cons d rest =>
    obtain ⟨noEqual, noArrow⟩ := short d rfl
    rcases operator with rfl | rfl | rfl <;>
      exact reads_sign (by decide) (by simp [sign?, signs, after?, noEqual.symm, noArrow.symm])

end Steps

namespace Literal

/-- Rows of tokens with commas between them. -/
def row (rows : List (List Token)) : List Token := [Token.sign ","].intercalate rows

/-- Tokens between two signs. -/
def within (opening closing : String) (inner : List Token) : List Token :=
  .sign opening :: inner ++ [Token.sign closing]

/-- A minus sign if there is one. -/
def signTokens (negative : Bool) : List Token := if negative then [.sign "-"] else []

/-- The token of a number without its sign. A number without digits goes by a word. -/
def numberToken (x : Double) (constant : Constant) : Token :=
  match x with
  | .nan => .word "nan"
  | .infinite _ => .word "inf"
  | .finite .. => .number constant

/-- The token of an imaginary number without its sign. -/
def imaginaryToken (x : Double) : Token :=
  match x with
  | .nan => .word "nanj"
  | .infinite _ => .word "infj"
  | .finite .. => .number (.imaginary (unsigned x))

/-- A real part that is not written: a zero without a sign. -/
def isHidden : Double → Bool
  | .finite false 0 .. => true
  | _ => false

/-- The tokens of a complex number. -/
def complexTokens (real imaginary : Double) : List Token :=
  if isHidden real then signTokens imaginary.isNegative ++ [imaginaryToken imaginary]
  else
    within "(" ")" (signTokens real.isNegative ++ numberToken real (shortConstant real) ::
      .sign (if imaginary.isNegative then "-" else "+") :: [imaginaryToken imaginary])

section Reading

variable {rest : List Char}

/-- Items between commas are read if each is read where a value can end. -/
theorem reads_row {pieces : List (List Char × List Token)}
    (each : ∀ piece ∈ pieces, ∀ rest, Ends rest → Reads piece.1 piece.2 rest) (ends : Ends rest) :
    Reads ([',', ' '].intercalate (pieces.map Prod.fst)) (row (pieces.map Prod.snd)) rest := by
  unfold row
  induction pieces with
  | nil => exact reads_nil rest
  | cons piece pieces ih =>
    have first := each piece List.mem_cons_self
    have others := ih fun piece member => each piece (List.mem_cons_of_mem _ member)
    cases pieces with
    | nil =>
      simp only [List.map_cons, List.map_nil, List.intercalate_singleton]
      exact first rest ends
    | cons second pieces =>
      simp only [List.map_cons, List.intercalate_cons_cons] at others ⊢
      have comma (more : List Char) : Reads [',', ' '] [.sign ","] more :=
        (reads_bracket (c := ',') (by decide) (' ' :: more)).append (reads_space more)
      rw [List.append_assoc, List.append_assoc]
      refine (first _ ?_).append ((comma _).append others)
      intro c begins
      cases begins
      decide

/-- What stands between brackets is read if it is read in front of the closing one. -/
theorem reads_within (opening closing : Char) {chars : List Char} {inner : List Token}
    (opens : opening ∈ ['(', '[', '\x7b']) (closes : closing ∈ [')', ']', '\x7d'])
    (read : Reads chars inner (closing :: rest)) :
    Reads (opening :: chars ++ [closing])
      (within (String.singleton opening) (String.singleton closing) inner) rest := by
  have first : Reads [opening] [.sign (String.singleton opening)] (chars ++ closing :: rest) :=
    reads_bracket (by grind) _
  have last : Reads [closing] [.sign (String.singleton closing)] rest :=
    reads_bracket (by grind) rest
  have opened : Reads [opening] [.sign (String.singleton opening)] (chars ++ [closing] ++ rest) := by
    rwa [List.append_assoc, List.singleton_append]
  exact opened.append (read.append last)

theorem ends_bracket {closing : Char} (closes : closing ∈ [')', ']', '\x7d']) (rest : List Char) :
    Ends (closing :: rest) := by
  intro c begins
  cases begins
  revert closing
  decide

theorem unsignedText_digit {x : Double} (finite : x.IsFinite) :
    ∃ c chars, x.unsignedText = c :: chars ∧ c.isDigit = true := by
  obtain ⟨text, chars, formed, -⟩ := exists_decimal finite
  obtain ⟨some, all⟩ := formed.whole
  obtain ⟨c, whole, same⟩ := List.exists_cons_of_ne_nil some
  rw [chars, DecimalText.chars, same]
  exact ⟨c, _, List.cons_append, all c (same ▸ List.mem_cons_self)⟩

theorem plain_unsignedText {x : Double} (finite : x.IsFinite) : PlainText x.unsignedText := by
  obtain ⟨text, chars, formed, -⟩ := exists_decimal finite
  rw [chars]
  exact DecimalText.plain_chars formed

theorem plain_unsignedShort {x : Double} (finite : x.IsFinite) : PlainText x.unsignedShort := by
  unfold Double.unsignedShort
  split
  · exact plain_of_isDigit (isDigit_toDigits _)
  · exact plain_unsignedText finite

theorem toDigits_digit (n : Nat) : ∃ c chars, Nat.toDigits 10 n = c :: chars ∧ c.isDigit = true := by
  obtain ⟨c, chars, same⟩ := List.exists_cons_of_ne_nil (Nat.toDigits_ne_nil (n := n) (b := 10))
  exact ⟨c, chars, same, isDigit_toDigits n c (same ▸ List.mem_cons_self)⟩

theorem unsignedShort_digit {x : Double} (finite : x.IsFinite) :
    ∃ c chars, x.unsignedShort = c :: chars ∧ c.isDigit = true := by
  unfold Double.unsignedShort
  split
  · exact toDigits_digit _
  · exact unsignedText_digit finite

/-- A text starts with a character that makes no sign in front of it longer, and is no space. -/
def Shown (chars : List Char) : Prop :=
  ∃ c more, chars = c :: more ∧ c ∉ '=' :: '>' :: apartMarks

theorem shown_of_isDigit {chars : List Char} (digit : ∃ c more, chars = c :: more ∧ c.isDigit = true) :
    Shown chars := by
  obtain ⟨c, more, same, digit⟩ := digit
  have marks : ∀ c ∈ '=' :: '>' :: apartMarks, c.isDigit = false := by decide
  exact ⟨c, more, same, fun member => absurd digit (by simp [marks c member])⟩

theorem Shown.short {chars : List Char} (shown : Shown chars) (rest : List Char) :
    ∀ c ∈ (chars ++ rest).head?, c ≠ '=' ∧ c ≠ '>' := by
  obtain ⟨c, more, rfl, apart⟩ := shown
  rintro d begins
  cases begins
  simp only [List.mem_cons, not_or] at apart
  exact ⟨apart.1, apart.2.1⟩

theorem Shown.append {chars : List Char} (shown : Shown chars) (more : List Char) :
    Shown (chars ++ more) := by
  obtain ⟨c, others, rfl, apart⟩ := shown
  exact ⟨c, others ++ more, rfl, apart⟩

theorem shown_unsignedText (x : Double) : Shown x.unsignedText := by
  rcases x.finite_cases with rfl | ⟨negative, rfl⟩ | finite
  · exact ⟨'n', _, rfl, by decide⟩
  · exact ⟨'i', _, rfl, by decide⟩
  · exact shown_of_isDigit (unsignedText_digit finite)

theorem shown_unsignedShort (x : Double) : Shown x.unsignedShort := by
  rcases x.finite_cases with rfl | ⟨negative, rfl⟩ | finite
  · exact ⟨'n', _, rfl, by decide⟩
  · exact ⟨'i', _, rfl, by decide⟩
  · exact shown_of_isDigit (unsignedShort_digit finite)

private theorem numberToken_of_finite {x : Double} (finite : x.IsFinite) (constant : Constant) :
    numberToken x constant = .number constant := by
  cases x with
  | finite => rfl
  | _ => cases finite

private theorem imaginaryToken_of_finite {x : Double} (finite : x.IsFinite) :
    imaginaryToken x = .number (.imaginary (unsigned x)) := by
  cases x with
  | finite => rfl
  | _ => cases finite

/-- A number without its sign is read. -/
theorem reads_unsignedText (x : Double) (ends : Ends rest) :
    Reads x.unsignedText [numberToken x (.float (unsigned x))] rest := by
  rcases x.finite_cases with rfl | ⟨negative, rfl⟩ | finite
  · exact reads_word rfl rfl (by decide) ends.word
  · exact reads_word rfl rfl (by decide) ends.word
  · rw [numberToken_of_finite finite]
    exact reads_digits (unsignedText_digit finite) (plain_unsignedText finite)
      (number?_unsignedText finite ends)

private theorem reads_unsignedShort (x : Double) (ends : Ends rest) :
    Reads x.unsignedShort [numberToken x (shortConstant x)] rest := by
  rcases x.finite_cases with rfl | ⟨negative, rfl⟩ | finite
  · exact reads_word rfl rfl (by decide) ends.word
  · exact reads_word rfl rfl (by decide) ends.word
  · rw [numberToken_of_finite finite]
    exact reads_digits (unsignedShort_digit finite) (plain_unsignedShort finite)
      (number?_unsignedShort finite ends)

theorem reads_imaginary (x : Double) (ends : Ends rest) :
    Reads (x.unsignedShort ++ ['j']) [imaginaryToken x] rest := by
  rcases x.finite_cases with rfl | ⟨negative, rfl⟩ | finite
  · exact reads_word rfl rfl (by decide) ends.word
  · exact reads_word rfl rfl (by decide) ends.word
  · obtain ⟨c, chars, same, digit⟩ := unsignedShort_digit finite
    have plain : PlainText (x.unsignedShort ++ ['j']) :=
      List.forall_mem_append.mpr ⟨plain_unsignedShort finite, by decide⟩
    rw [imaginaryToken_of_finite finite]
    refine reads_digits ⟨c, chars ++ ['j'], by rw [same, List.cons_append], digit⟩ plain ?_
    rw [List.append_assoc]
    exact number?_imaginary finite ends

theorem reads_signed (negative : Bool) {chars : List Char} {tokens : List Token} (shown : Shown chars)
    (read : Reads chars tokens rest) :
    Reads (if negative then '-' :: chars else chars) (signTokens negative ++ tokens) rest := by
  cases negative with
  | false => exact read
  | true => exact (reads_operator (by decide) (shown.short rest)).append read

private theorem withSign_append (x : Double) (chars more : List Char) :
    x.withSign (chars ++ more) = x.withSign chars ++ more := by
  unfold Double.withSign
  split <;> rfl

/-- The characters of a complex number. -/
theorem toList_complexText (real imaginary : Double) :
    (complexText real imaginary).toList =
      if isHidden real then imaginary.withSign (imaginary.unsignedShort ++ ['j'])
      else
        '(' :: real.withSign (real.unsignedShort ++
          (if imaginary.isNegative then '-' else '+') :: (imaginary.unsignedShort ++ ['j'])) ++
            [')'] := by
  unfold complexText isHidden
  split
  · rw [withSign_append]
    simp [Double.shortText]
  · have sign : (if imaginary.isNegative then "" else "+").toList ++
        imaginary.withSign imaginary.unsignedShort =
          (if imaginary.isNegative then '-' else '+') :: imaginary.unsignedShort := by
      unfold Double.withSign
      split <;> rfl
    rw [← List.cons_append, ← sign]
    simp [Double.shortText, withSign_append]

/-- A complex number is read. -/
theorem reads_complex (real imaginary : Double) (ends : Ends rest) :
    Reads (complexText real imaginary).toList (complexTokens real imaginary) rest := by
  have shown := (shown_unsignedShort imaginary).append ['j']
  rw [toList_complexText, complexTokens]
  split
  · exact reads_signed imaginary.isNegative shown (reads_imaginary imaginary ends)
  · have closes : Ends (')' :: rest) := ends_bracket (by decide) rest
    have operator : Reads ((if imaginary.isNegative then '-' else '+') ::
          (imaginary.unsignedShort ++ ['j']))
        [.sign (if imaginary.isNegative then "-" else "+"), imaginaryToken imaginary]
        (')' :: rest) := by
      cases imaginary.isNegative
      · exact (reads_operator (c := '+') (by decide) (shown.short _)).append
          (reads_imaginary imaginary closes)
      · exact (reads_operator (c := '-') (by decide) (shown.short _)).append
          (reads_imaginary imaginary closes)
    have ends : Ends ((if imaginary.isNegative then '-' else '+') ::
        (imaginary.unsignedShort ++ ['j']) ++ ')' :: rest) := by
      intro c begins
      cases begins
      split <;> decide
    apply reads_within '(' ')' (by decide) (by decide)
    exact reads_signed real.isNegative ((shown_unsignedShort real).append _)
      ((reads_unsignedShort real ends).append operator)

theorem toList_int (value : Int) :
    (toString value).toList =
      if value < 0 then '-' :: Nat.toDigits 10 value.natAbs else Nat.toDigits 10 value.natAbs := by
  cases value with
  | ofNat n =>
    rw [if_neg (by simp)]
    show (Nat.repr n).toList = _
    rw [Nat.repr, String.toList_ofList]
    rfl
  | negSucc n =>
    rw [if_pos (Int.negSucc_lt_zero n)]
    show ("-" ++ Nat.repr (n + 1)).toList = '-' :: Nat.toDigits 10 (n + 1)
    simp [Nat.repr]

/-- An integer is read unless it has too many digits. -/
theorem reads_int (value : Int) (few : (Nat.toDigits 10 value.natAbs).length ≤ mostDigits)
    (ends : Ends rest) :
    Reads (toString value).toList (signTokens (value < 0) ++ [Token.number (.int value.natAbs)]) rest := by
  obtain ⟨c, chars, same, digit⟩ := toDigits_digit value.natAbs
  have read := number?_toDigits few ends
  have number : Reads (Nat.toDigits 10 value.natAbs) [.number (.int value.natAbs)] rest := by
    have plain := plain_of_isDigit (isDigit_toDigits value.natAbs)
    rw [same] at read plain ⊢
    exact reads_number digit plain read
  rw [toList_int]
  simpa using reads_signed (decide (value < 0)) (shown_of_isDigit ⟨c, chars, same, digit⟩) number

end Reading

end Literal

end Blueprint.ServerCode
