import Blueprint.Proofs.ServerCode.TokenReading

namespace Blueprint.ServerCode

open Text

namespace Literal

/-- The values that a value is made of. -/
def parts : Literal → List Literal
  | tuple items | list items | set items => items
  | dict entries => entries.flatMap fun entry => [entry.1, entry.2]
  | _ => []

theorem sizeOf_of_mem_parts {part value : Literal} (member : part ∈ value.parts) :
    sizeOf part < sizeOf value := by
  cases value with
  | tuple items | list items | set items =>
    have := List.sizeOf_lt_of_mem (show part ∈ items from member)
    simp
    omega
  | dict entries =>
    obtain ⟨⟨key, value⟩, inside, which⟩ := List.mem_flatMap.mp member
    have := List.sizeOf_lt_of_mem inside
    simp only [List.mem_cons, List.not_mem_nil, or_false] at which
    rcases which with rfl | rfl <;> simp at this ⊢ <;> omega
  | _ => cases member

theorem induction {holds : Literal → Prop}
    (step : ∀ value, (∀ part ∈ value.parts, holds part) → holds value) (value : Literal) :
    holds value :=
  step value fun part _ => induction step part
termination_by sizeOf value
decreasing_by exact sizeOf_of_mem_parts ‹_›

private theorem haveDigits_eq (items : List Literal) : haveDigits items = items.all hasDigits := by
  induction items with
  | nil => rfl
  | cons item items ih => rw [haveDigits, List.all_cons, ih]

private theorem entriesHaveDigits_eq (entries : List (Literal × Literal)) :
    entriesHaveDigits entries = entries.all fun entry => entry.1.hasDigits && entry.2.hasDigits := by
  induction entries with
  | nil => rfl
  | cons entry entries ih => rw [entriesHaveDigits, List.all_cons, ih]

theorem hasDigits_of_mem_parts {part value : Literal} (member : part ∈ value.parts)
    (digits : value.hasDigits = true) : part.hasDigits = true := by
  cases value with
  | tuple items | list items | set items =>
    rw [hasDigits, haveDigits_eq, List.all_eq_true] at digits
    exact digits part member
  | dict entries =>
    rw [hasDigits, entriesHaveDigits_eq, List.all_eq_true] at digits
    obtain ⟨entry, inside, which⟩ := List.mem_flatMap.mp member
    have both := digits entry inside
    rw [Bool.and_eq_true] at both
    simp only [List.mem_cons, List.not_mem_nil, or_false] at which
    rcases which with rfl | rfl
    · exact both.1
    · exact both.2
  | _ => cases member

mutual

/-- The tokens of a value's text. -/
def tokens : Literal → List Token
  | none => [.word "None"]
  | ellipsis => [.word "Ellipsis"]
  | bool value => [.word (if value then "True" else "False")]
  | int value => signTokens (value < 0) ++ [.number (.int value.natAbs)]
  | float value => signTokens value.isNegative ++ [numberToken value (.float (unsigned value))]
  | complex real imaginary => complexTokens real imaginary
  | text value =>
    [.string { kind := .text, raw := false, marked := false, body := textBody value.toList }]
  | bytes value =>
    [.string { kind := .bytes, raw := false, marked := false, body := bytesBody value }]
  | tuple items => match items with
    | [item] => within "(" ")" (tokens item ++ [.sign ","])
    | items => within "(" ")" (row (tokensAll items))
  | list items => within "[" "]" (row (tokensAll items))
  | set items =>
    if items.isEmpty then .word "set" :: within "(" ")" []
    else within "\x7b" "\x7d" (row (tokensAll items))
  | dict entries => within "\x7b" "\x7d" (row (entryTokens entries))

def tokensAll : List Literal → List (List Token)
  | [] => []
  | item :: items => tokens item :: tokensAll items

def entryTokens : List (Literal × Literal) → List (List Token)
  | [] => []
  | (key, value) :: entries => (tokens key ++ .sign ":" :: tokens value) :: entryTokens entries

end

theorem tokensAll_eq (items : List Literal) : tokensAll items = items.map tokens := by
  induction items with
  | nil => rfl
  | cons item items ih => rw [tokensAll, List.map_cons, ih]

theorem entryTokens_eq (entries : List (Literal × Literal)) :
    entryTokens entries = entries.map fun entry => entry.1.tokens ++ .sign ":" :: entry.2.tokens := by
  induction entries with
  | nil => rfl
  | cons entry entries ih => rw [entryTokens, List.map_cons, ih]

private theorem printAll_eq (items : List Literal) : printAll items = items.map print := by
  induction items with
  | nil => rfl
  | cons item items ih => rw [printAll, List.map_cons, ih]

private theorem printEntries_eq (entries : List (Literal × Literal)) :
    printEntries entries = entries.map fun entry => entry.1.print ++ ": " ++ entry.2.print := by
  induction entries with
  | nil => rfl
  | cons entry entries ih => rw [printEntries, List.map_cons, ih]

section Reading

variable {rest : List Char}

private theorem toList_intercalate_map {α : Type} (print : α → String) (items : List α) :
    (", ".intercalate (items.map print)).toList =
      [',', ' '].intercalate (items.map fun item => (print item).toList) := by
  rw [String.toList_intercalate, List.map_map]
  rfl

/-- The texts of values are read as their tokens in front of everything that can follow a value. -/
def ReadsEach (values : List Literal) : Prop :=
  ∀ value ∈ values, ∀ rest, Ends rest → Reads value.print.toList value.tokens rest

section Displays

variable {items : List Literal} {entries : List (Literal × Literal)}

theorem ReadsEach.row (each : ReadsEach items) (ends : Ends rest) :
    Reads (", ".intercalate (printAll items)).toList (row (tokensAll items)) rest := by
  rw [printAll_eq, tokensAll_eq, toList_intercalate_map]
  have pieces : ∀ piece ∈ items.map fun item => (item.print.toList, item.tokens),
      ∀ rest, Ends rest → Reads piece.1 piece.2 rest := List.forall_mem_map.mpr each
  simpa only [List.map_map, Function.comp_def] using reads_row pieces ends

theorem ReadsEach.tuple (each : ReadsEach items) (rest : List Char) :
    Reads (tuple items).print.toList (tuple items).tokens rest := by
  rcases items with _ | ⟨item, _ | ⟨second, items⟩⟩
  · exact reads_within '(' ')' (by decide) (by decide) (reads_nil _)
  · have comma : Reads [','] [.sign ","] (')' :: rest) := reads_bracket (by decide) _
    have ends : Ends (',' :: ')' :: rest) := by
      intro c begins
      cases begins
      decide
    have read := reads_within '(' ')' (by decide) (by decide)
      ((each item List.mem_cons_self _ ends).append comma)
    simpa [print, tokens] using read
  · have read := reads_within '(' ')' (by decide) (by decide)
      (each.row (ends_bracket (by decide) rest))
    simpa [print, tokens] using read

theorem ReadsEach.list (each : ReadsEach items) (rest : List Char) :
    Reads (list items).print.toList (list items).tokens rest := by
  have read := reads_within '[' ']' (by decide) (by decide) (each.row (ends_bracket (by decide) rest))
  simpa [print, tokens] using read

theorem ReadsEach.set (each : ReadsEach items) (rest : List Char) :
    Reads (set items).print.toList (set items).tokens rest := by
  cases items with
  | nil =>
    have word : Reads ['s', 'e', 't'] [.word "set"] ('(' :: ')' :: rest) :=
      reads_word rfl rfl (by decide) (endsWord_bracket _)
    exact word.append (reads_within '(' ')' (by decide) (by decide) (reads_nil _))
  | cons item items =>
    have read := reads_within '\x7b' '\x7d' (by decide) (by decide)
      (each.row (ends_bracket (by decide) rest))
    simpa [print, tokens] using read

theorem ReadsEach.entry (each : ReadsEach (dict entries).parts) {entry : Literal × Literal}
    (member : entry ∈ entries) (ends : Ends rest) :
    Reads (entry.1.print.toList ++ [':', ' '] ++ entry.2.print.toList)
      (entry.1.tokens ++ .sign ":" :: entry.2.tokens) rest := by
  have key := each entry.1 (List.mem_flatMap.mpr ⟨entry, member, by simp⟩)
  have value := each entry.2 (List.mem_flatMap.mpr ⟨entry, member, by simp⟩) rest ends
  have colon : Reads [':', ' '] [.sign ":"] (entry.2.print.toList ++ rest) :=
    (reads_operator (c := ':') (by decide) (by simp)).append (reads_space _)
  have behind : Ends (':' :: ' ' :: (entry.2.print.toList ++ rest)) := by
    intro c begins
    cases begins
    decide
  rw [List.append_assoc]
  exact (key _ behind).append (colon.append value)

theorem ReadsEach.dict (each : ReadsEach (dict entries).parts) (rest : List Char) :
    Reads (dict entries).print.toList (dict entries).tokens rest := by
  have pieces : ∀ piece ∈ entries.map fun entry =>
      (entry.1.print.toList ++ [':', ' '] ++ entry.2.print.toList,
        entry.1.tokens ++ Token.sign ":" :: entry.2.tokens),
      ∀ rest, Ends rest → Reads piece.1 piece.2 rest :=
    List.forall_mem_map.mpr fun _ member _ => each.entry member
  have read := reads_within '\x7b' '\x7d' (by decide) (by decide)
    (reads_row pieces (ends_bracket (by decide) rest))
  rw [tokens, entryTokens_eq, print, printEntries_eq]
  simpa [toList_intercalate_map, Function.comp_def] using read

end Displays

/-- The text of a value is read as its tokens. -/
theorem reads_print (value : Literal) (digits : value.hasDigits = true) :
    ∀ rest, Ends rest → Reads value.print.toList value.tokens rest := by
  induction value using induction with
  | step value ih =>
    have each : ReadsEach value.parts :=
      fun part member => ih part member (hasDigits_of_mem_parts member digits)
    intro rest ends
    cases value with
    | none => exact reads_word rfl rfl (by decide) ends.word
    | ellipsis => exact reads_word rfl rfl (by decide) ends.word
    | bool value => cases value <;> exact reads_word rfl rfl (by decide) ends.word
    | int value => exact reads_int value (of_decide_eq_true digits) ends
    | float value =>
      have read := reads_signed value.isNegative (shown_unsignedText value)
        (reads_unsignedText value ends)
      rw [print, Double.text, String.toList_ofList]
      exact read
    | complex real imaginary => exact reads_complex real imaginary ends
    | text value =>
      rw [print, quoted, String.toList_ofList]
      exact reads_quotedChars value.toList ends
    | bytes value => exact reads_quotedBytes value ends
    | tuple => exact each.tuple rest
    | list => exact each.list rest
    | set => exact each.set rest
    | dict => exact each.dict rest

end Reading

section Brackets

mutual

/-- How many brackets are open at once at most in the text of a value. -/
def depth : Literal → Nat
  | complex real _ => if isHidden real then 0 else 1
  | tuple items | list items | set items => depthAll items + 1
  | dict entries => depthOfEntries entries + 1
  | _ => 0

def depthAll : List Literal → Nat
  | [] => 0
  | item :: items => max (depth item) (depthAll items)

def depthOfEntries : List (Literal × Literal) → Nat
  | [] => 0
  | (key, value) :: entries => max (max (depth key) (depth value)) (depthOfEntries entries)

end

/-- Tokens close the brackets that they open, and need room for some more open brackets. -/
def Balanced (tokens : List Token) (depth : Nat) : Prop :=
  ∀ state : Lexing, state.brackets.length ≤ mostBrackets →
    state.takeAll tokens =
      if state.brackets.length + depth ≤ mostBrackets then some (state.push tokens)
      else Option.none

theorem balanced_nil : Balanced [] 0 := fun _ few => (if_pos few).symm

theorem Balanced.append {first second : List Token} {most more : Nat} (balanced : Balanced first most)
    (others : Balanced second more) : Balanced (first ++ second) (max most more) := by
  intro state few
  rw [Lexing.takeAll_append, balanced state few]
  by_cases room : state.brackets.length + most ≤ mostBrackets
  · rw [if_pos room, Option.bind_some, others (state.push first) few, Lexing.brackets_push,
      Lexing.push_push]
    by_cases both : state.brackets.length + more ≤ mostBrackets
    · rw [if_pos both, if_pos (by omega)]
    · rw [if_neg both, if_neg (by omega)]
  · rw [if_neg room, if_neg (by omega)]
    rfl

/-- A token that is no bracket. -/
def isFlat : Token → Bool
  | .sign sign => [",", ":", "+", "-"].contains sign
  | _ => true

theorem balanced_flat {token : Token} (flat : isFlat token = true) : Balanced [token] 0 := by
  intro state few
  rw [Nat.add_zero, if_pos few]
  cases token with
  | sign sign =>
    simp only [isFlat, List.contains_eq_mem, List.mem_cons, List.not_mem_nil, or_false,
      decide_eq_true_eq] at flat
    rcases flat with rfl | rfl | rfl | rfl <;> rfl
  | _ => rfl

/-- A bracket that opens takes up room until its bracket closes. -/
theorem balanced_within {opening closing : String} (pair : closing? opening = some closing)
    {inner : List Token} {most : Nat} (balanced : Balanced inner most) :
    Balanced (within opening closing inner) (most + 1) := by
  intro state few
  have closes : closing? closing = Option.none ∧
      (closing == ")" || closing == "]" || closing == "\x7d") = true := by
    unfold closing? at pair
    split at pair <;> cases pair <;> decide
  set inside : Lexing := { state.push [.sign opening] with brackets := opening :: state.brackets }
    with inside_eq
  have opened : state.take (.sign opening) =
      if state.brackets.length < mostBrackets then some inside else Option.none := by
    simp only [Lexing.take, takeSign, pair, Option.isSome_some, if_true]
    rfl
  have closed : (inside.push inner).takeAll [.sign closing] =
      some (state.push (within opening closing inner)) := by
    have back : (inside.push inner).brackets = opening :: state.brackets := rfl
    show (takeSign _ _).bind some = _
    simp only [takeSign, closes.1, closes.2, back, pair, Option.isSome_none, Bool.false_eq_true,
      if_false, if_true, beq_self_eq_true]
    simp [Lexing.push, within, inside_eq]
  show (state.take (.sign opening)).bind (fun next => next.takeAll (inner ++ [Token.sign closing])) = _
  rw [opened]
  by_cases room : state.brackets.length < mostBrackets
  · have read := balanced inside room
    rw [if_pos room, Option.bind_some, Lexing.takeAll_append, read]
    have size : inside.brackets.length = state.brackets.length + 1 := rfl
    by_cases all : inside.brackets.length + most ≤ mostBrackets
    · rw [if_pos all, if_pos (by omega), Option.bind_some, closed]
    · rw [if_neg all, if_neg (by omega)]
      rfl
  · rw [if_neg room, if_neg (by omega)]
    rfl

theorem balanced_row {α : Type} {tokens : α → List Token} {depths : α → Nat} {items : List α}
    (each : ∀ item ∈ items, Balanced (tokens item) (depths item)) :
    Balanced (row (items.map tokens)) ((items.map depths).foldr max 0) := by
  unfold row
  induction items with
  | nil => exact balanced_nil
  | cons item items ih =>
    have first := each item List.mem_cons_self
    have others := ih fun item member => each item (List.mem_cons_of_mem _ member)
    cases items with
    | nil => simpa using first
    | cons second items =>
      have comma : Balanced [.sign ","] 0 := balanced_flat rfl
      have joined := first.append (comma.append others)
      rw [Nat.zero_max] at joined
      simpa only [List.map_cons, List.intercalate_cons_cons, List.foldr_cons, List.append_assoc]
        using joined

theorem depthAll_eq (items : List Literal) : depthAll items = (items.map depth).foldr max 0 := by
  induction items with
  | nil => rfl
  | cons item items ih => rw [depthAll, List.map_cons, List.foldr_cons, ih]

private theorem depthOfEntries_eq (entries : List (Literal × Literal)) :
    depthOfEntries entries =
      (entries.map fun entry => max entry.1.depth entry.2.depth).foldr max 0 := by
  induction entries with
  | nil => rfl
  | cons entry entries ih => rw [depthOfEntries, List.map_cons, List.foldr_cons, ih]

theorem balanced_signTokens (negative : Bool) : Balanced (signTokens negative) 0 := by
  cases negative
  · exact balanced_nil
  · exact balanced_flat rfl

theorem flat_numberToken (x : Double) (constant : Constant) : isFlat (numberToken x constant) = true := by
  cases x <;> rfl

private theorem flat_imaginaryToken (x : Double) : isFlat (imaginaryToken x) = true := by
  cases x <;> rfl

private theorem balanced_complex (real imaginary : Double) :
    Balanced (complexTokens real imaginary) (if isHidden real then 0 else 1) := by
  have last := balanced_flat (flat_imaginaryToken imaginary)
  unfold complexTokens
  split
  · exact (balanced_signTokens _).append last
  · have sign : Balanced [.sign (if imaginary.isNegative then "-" else "+")] 0 := by
      split <;> exact balanced_flat rfl
    have first := balanced_flat (flat_numberToken real (shortConstant real))
    exact balanced_within rfl ((balanced_signTokens _).append (first.append (sign.append last)))

/-- The tokens of a value need as many open brackets as the value is deep. -/
theorem balanced_tokens (value : Literal) : Balanced value.tokens value.depth := by
  induction value using induction with
  | step value ih =>
    cases value with
    | none | ellipsis | bool _ | text _ | bytes _ => exact balanced_flat rfl
    | int value => exact (balanced_signTokens _).append (balanced_flat rfl)
    | float value => exact (balanced_signTokens _).append (balanced_flat (flat_numberToken _ _))
    | complex real imaginary => exact balanced_complex real imaginary
    | tuple items =>
      match items with
      | [] => exact balanced_within rfl balanced_nil
      | [item] =>
        have comma : Balanced [.sign ","] 0 := balanced_flat rfl
        exact balanced_within rfl ((ih item List.mem_cons_self).append comma)
      | first :: second :: items =>
        rw [depth, tokens, tokensAll_eq, depthAll_eq]
        · exact balanced_within rfl (balanced_row ih)
        · simp
    | list items =>
      rw [depth, tokens, tokensAll_eq, depthAll_eq]
      exact balanced_within rfl (balanced_row ih)
    | set items =>
      cases items with
      | nil => exact (balanced_flat rfl).append (balanced_within rfl balanced_nil)
      | cons item items =>
        rw [depth, tokens, tokensAll_eq, depthAll_eq]
        exact balanced_within rfl (balanced_row ih)
    | dict entries =>
      rw [depth, tokens, entryTokens_eq, depthOfEntries_eq]
      refine balanced_within rfl (balanced_row fun entry member => ?_)
      have colon : Balanced [.sign ":"] 0 := balanced_flat rfl
      have key := ih entry.1 (List.mem_flatMap.mpr ⟨entry, member, by simp⟩)
      have value := ih entry.2 (List.mem_flatMap.mpr ⟨entry, member, by simp⟩)
      have joined := key.append (colon.append value)
      rwa [Nat.zero_max] at joined

end Brackets

theorem shown_signed (negative : Bool) {chars : List Char} (shown : Shown chars) :
    Shown (if negative then '-' :: chars else chars) := by
  cases negative
  · exact shown
  · exact ⟨'-', chars, rfl, by decide⟩

/-- The text of a value starts with no space. -/
theorem shown_print (value : Literal) : Shown value.print.toList := by
  have opened (c : Char) (apart : c ∉ '=' :: '>' :: apartMarks) (more : String) :
      Shown (String.singleton c ++ more).toList :=
    ⟨c, more.toList, by simp, apart⟩
  cases value with
  | none => exact ⟨'N', _, rfl, by decide⟩
  | ellipsis => exact ⟨'E', _, rfl, by decide⟩
  | bool value =>
    cases value
    · exact ⟨'F', _, rfl, by decide⟩
    · exact ⟨'T', _, rfl, by decide⟩
  | int value =>
    rw [print, toList_int]
    simpa using shown_signed (decide (value < 0)) (shown_of_isDigit (toDigits_digit value.natAbs))
  | float value =>
    rw [print, Double.text, String.toList_ofList]
    exact shown_signed value.isNegative (shown_unsignedText value)
  | complex real imaginary =>
    rw [print, toList_complexText]
    split
    · exact shown_signed imaginary.isNegative ((shown_unsignedShort imaginary).append _)
    · exact ⟨'(', _, rfl, by decide⟩
  | text value =>
    rw [print, quoted, String.toList_ofList]
    rcases isQuote_quoteFor value.toList with quote | quote <;>
      exact ⟨_, _, quotedChars_eq _, by rw [quote]; decide⟩
  | bytes value => exact ⟨'b', _, toList_quotedBytes value, by decide⟩
  | tuple items =>
    unfold print
    split
    · rw [String.append_assoc]
      exact opened '(' (by decide) _
    · rw [String.append_assoc]
      exact opened '(' (by decide) _
  | list items =>
    rw [print, String.append_assoc]
    exact opened '[' (by decide) _
  | set items =>
    unfold print
    split
    · exact ⟨'s', _, rfl, by decide⟩
    · rw [String.append_assoc]
      exact opened '\x7b' (by decide) _
  | dict entries =>
    rw [print, String.append_assoc]
    exact opened '\x7b' (by decide) _

/-- The text of a value has the tokens of the value, as long as no more brackets are open at once than
may be. -/
theorem tokens?_print (value : Literal) (digits : value.hasDigits = true) :
    tokens? value.print.toList =
      if value.depth ≤ mostBrackets then some (value.tokens ++ [Token.newline]) else Option.none := by
  have reads := reads_print value digits [] nofun
  obtain ⟨c, rest, shape, apart⟩ := shown_print value
  have unmoved : plainLineEnds value.print.toList = value.print.toList := by
    have := plainLineEnds_append (fun member => reads.plain _ member (by decide)) []
    rwa [List.append_nil, plainLineEnds, List.append_nil] at this
  obtain ⟨steps, few, read⟩ := reads.read .started rfl
  obtain ⟨fuel, enough⟩ : ∃ fuel, 2 * value.print.toList.length + 2 = fuel + 1 + steps + 1 :=
    ⟨2 * value.print.toList.length - steps, by omega⟩
  have line : tokensFrom (fuel + 1 + steps + 1) {} value.print.toList =
      tokensFrom (fuel + 1 + steps) .started value.print.toList := by
    rw [shape]
    exact tokensFrom_line (fun member => apart (by simp [member])) _ _
  rw [List.append_nil] at read
  rw [tokens?, unmoved, enough, line, read, balanced_tokens value .started (Nat.zero_le _)]
  have start : Lexing.started.brackets.length + value.depth = value.depth := Nat.zero_add _
  rw [start]
  split
  · show finish (Lexing.started.push value.tokens) = _
    simp [finish, Lexing.push, Lexing.started]
  · rfl

end Literal

end Blueprint.ServerCode
