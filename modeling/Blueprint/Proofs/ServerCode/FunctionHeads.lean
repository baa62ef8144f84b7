import Blueprint.Proofs.Text
import Blueprint.ServerCode.Module
import Blueprint.Step

namespace Blueprint.ServerCode

open Text

section Tokens

variable {state next : Lexing} {tokens : List Token}

private theorem tokens_closeBlocks {measures : Nat × Nat} {indents below : List (Nat × Nat)}
    {before : List Token} (closed : closeBlocks measures indents before = some (below, tokens)) :
    before <:+ tokens := by
  fun_induction closeBlocks measures indents before <;> simp_all
  rename_i ih
  exact (List.suffix_cons _ _).trans ih

theorem tokens_startLine {measures : Nat × Nat} (started : startLine state measures = some next) :
    state.tokens <:+ next.tokens := by
  unfold startLine at started
  split at started
  · cases started
  · split at started
    · split at started
      · cases started
        exact List.suffix_cons _ _
      · cases started
    · obtain ⟨closed, same, started⟩ := Option.bind_eq_some_iff.mp started
      cases started
      exact tokens_closeBlocks same

private theorem tokens_takeSign {sign : String} (taken : takeSign state sign = some next) :
    state.tokens <:+ next.tokens := by
  unfold takeSign at taken
  grind [List.suffix_cons]

private theorem tokens_finish (finished : finish state = some tokens) :
    state.tokens.reverse <+: tokens := by
  unfold finish at finished
  grind [List.prefix_append, List.reverse_cons]

/-- Tokens that were read stay at the front. -/
theorem tokens_tokensFrom {fuel : Nat} {text : List Char}
    (read : tokensFrom fuel state text = some tokens) : state.tokens.reverse <+: tokens := by
  have later {state next : Lexing} (kept : state.tokens <:+ next.tokens)
      (ih : next.tokens.reverse <+: tokens) : state.tokens.reverse <+: tokens :=
    (List.reverse_prefix.mpr kept).trans ih
  have one (token : Token) (rest : List Token) : rest <:+ token :: rest := List.suffix_cons _ _
  fun_induction tokensFrom fuel state text with
  | case1 | case13 => cases read
  | case2 | case6 => exact tokens_finish read
  | case3 _ _ _ _ _ _ _ ih | case4 _ _ _ _ _ _ _ ih | case7 _ _ _ _ ih | case8 _ _ _ _ ih
  | case9 _ _ _ _ ih | case10 _ _ _ _ ih | case12 _ _ _ _ _ ih | case14 _ _ _ _ _ ih => exact ih read
  | case5 _ _ _ _ _ _ _ _ _ _ ih =>
    obtain ⟨next, started, read⟩ := Option.bind_eq_some_iff.mp read
    exact later (tokens_startLine started) (ih next read)
  | case11 _ _ _ _ _ ih => exact later (one _ _) (ih read)
  | case15 _ _ _ _ _ _ _ _ _ _ _ _ ih | case16 _ _ _ _ _ _ _ _ _ _ _ _ _ _ ih
  | case17 _ _ _ _ _ _ _ _ _ _ _ _ _ _ _ ih =>
    obtain ⟨⟨found, rest⟩, _, read⟩ := Option.bind_eq_some_iff.mp read
    exact later (one _ _) (ih found rest read)
  | case18 _ _ _ _ _ _ _ _ _ _ _ _ _ _ _ ih =>
    obtain ⟨⟨found, rest⟩, _, read⟩ := Option.bind_eq_some_iff.mp read
    obtain ⟨next, taken, read⟩ := Option.bind_eq_some_iff.mp read
    exact later (tokens_takeSign taken) (ih rest next read)

end Tokens

section Texts

theorem plainLineEnds_append {lead : List Char} (apart : '\r' ∉ lead) (rest : List Char) :
    plainLineEnds (lead ++ rest) = lead ++ plainLineEnds rest := by
  induction lead with
  | nil => rfl
  | cons c lead ih =>
    rw [List.mem_cons, not_or] at apart
    rw [List.cons_append, plainLineEnds, ih apart.2, List.cons_append]
    · exact fun _ same _ => apart.1 same.symm
    · exact fun same => apart.1 same.symm

theorem linesOf_append {lead : List Char} (apart : '\n' ∉ lead) (rest : List Char) :
    linesOf (lead ++ rest) = (linesOf rest).modifyHead (lead ++ ·) := by
  induction lead with
  | nil => cases shape : linesOf rest <;> simp [shape]
  | cons c lead ih =>
    rw [List.mem_cons, not_or] at apart
    rw [linesOf, linesOf] at ih
    rw [linesOf, linesOf, List.cons_append, List.splitOn_cons_eq_if_modifyHead,
      if_neg (by simpa using Ne.symm apart.1), ih apart.2, List.modifyHead_modifyHead]
    rfl

/-- A text that starts with something on its first line is not moved. -/
theorem dedent_append (c : Char) (lead : List Char) (shown : isIndent c = false)
    (apart : '\n' ∉ c :: lead) (rest : List Char) :
    ∃ behind, dedent (c :: lead ++ rest) = c :: lead ++ behind := by
  obtain ⟨first, others, shape⟩ := List.exists_cons_of_ne_nil (List.splitOn_ne_nil '\n' rest)
  have lines : linesOf (c :: lead ++ rest) = (c :: lead ++ first) :: others := by
    rw [linesOf_append apart, linesOf, shape, List.modifyHead_cons]
  have unmoved (rest : List (List Char)) : rest.foldl commonStart [] = [] := by
    induction rest with
    | nil => rfl
    | cons line rest ih => exact ih
  have margin : commonIndent ((c :: lead ++ first) :: others) = [] := by
    simp [commonIndent, shown, unmoved]
  rw [dedent, lines, dedentLines, margin]
  simp only [List.map_cons, List.cons_append, List.all_cons, shown, Bool.false_and,
    Bool.false_eq_true, ↓reduceIte, List.length_nil, List.drop_zero]
  cases others with
  | nil => exact ⟨first, by simp [joinLines]⟩
  | cons second others => exact ⟨_, by simp [joinLines, List.intercalate]; rfl⟩

/-- The reading of a line that is not moved in. -/
def Lexing.started : Lexing := { atStart := false }

/-- Characters that lines, comments and spaces start with. -/
def apartMarks : List Char := [' ', '\t', '\x0c', '#', '\n', '\\']

theorem apart_of_isNameStart {c : Char} (starts : isNameStart c = true) : c ∉ apartMarks := by
  have marks : ∀ c ∈ apartMarks, isNameStart c = false := by decide
  exact fun member => absurd starts (by simp [marks c member])

/-- A line that starts with no space is not moved in. -/
theorem tokensFrom_line {c : Char} (apart : c ∉ apartMarks) (fuel : Nat) (rest : List Char) :
    tokensFrom (fuel + 1) {} (c :: rest) = tokensFrom fuel .started (c :: rest) := by
  simp only [apartMarks, List.mem_cons, List.not_mem_nil, or_false, not_or] at apart
  obtain ⟨space, tab, page, hash, feed, slash⟩ := apart
  have measured : indentation 0 (0, 0) (c :: rest) = ((0, 0), c :: rest) := by
    rw [indentation]
    · rfl
    all_goals simp [space, tab, page, slash]
  have line : startLine {} (0, 0) = some .started := rfl
  rw [tokensFrom, measured]
  · simp [line, feed, hash]
  all_goals simp [space, tab, page, hash, feed, slash]

/-- Inside a line a character starts a word, a number, a quoted text or a sign. -/
theorem tokensFrom_of_apart {state : Lexing} (inside : state.atStart = false) {c : Char}
    (apart : c ∉ apartMarks) (fuel : Nat) (rest : List Char) :
    tokensFrom (fuel + 1) state (c :: rest) =
      if isNameStart c then
        (wordOrString? (c :: rest)).bind fun found =>
          tokensFrom fuel { state with tokens := found.1 :: state.tokens } found.2
      else if c.isDigit || (c == '.' && rest.head?.any Char.isDigit) then
        (number? (c :: rest)).bind fun found =>
          tokensFrom fuel { state with tokens := .number found.1 :: state.tokens } found.2
      else if c == '\'' || c == '"' then
        (string? "" (c :: rest)).bind fun found =>
          tokensFrom fuel { state with tokens := found.1 :: state.tokens } found.2
      else
        (sign? (c :: rest)).bind fun found =>
          (takeSign state found.1).bind fun next => tokensFrom fuel next found.2 := by
  simp only [apartMarks, List.mem_cons, List.not_mem_nil, or_false, not_or] at apart
  obtain ⟨space, tab, page, hash, feed, slash⟩ := apart
  rw [tokensFrom]
  · simp only [inside, Bool.false_and, Bool.false_eq_true, ↓reduceIte]
    rfl
  all_goals simp [space, tab, page, hash, feed, slash]

theorem tokensFrom_word {state : Lexing} (inside : state.atStart = false) {c : Char} {word : List Char}
    (starts : isNameStart c = true) (parts : ∀ d ∈ c :: word, isNamePart d = true) (fuel : Nat)
    (rest : List Char) :
    tokensFrom (fuel + 2) state (c :: word ++ ' ' :: rest) =
      tokensFrom fuel { state with tokens := .word (String.ofList (c :: word)) :: state.tokens } rest := by
  have read : wordOrString? (c :: word ++ ' ' :: rest) =
      some (.word (String.ofList (c :: word)), ' ' :: rest) := by
    have stops : ∀ d ∈ (' ' :: rest).head?, isNamePart d = false := by simp; decide
    rw [wordOrString?, takeWhile_append_stop parts stops, dropWhile_append_stop parts stops]
    rfl
  rw [List.cons_append] at read ⊢
  rw [tokensFrom_of_apart inside (apart_of_isNameStart starts), if_pos starts, read]
  simp [tokensFrom, inside]

private theorem tokens_def (rest : List Char) {tokens : List Token}
    (read : tokens? ("def ".toList ++ rest) = some tokens) : [.word "def"] <+: tokens := by
  have split : plainLineEnds ("def ".toList ++ rest) = 'd' :: ['e', 'f'] ++ ' ' :: plainLineEnds rest :=
    plainLineEnds_append (by decide) rest
  obtain ⟨fuel, enough⟩ : ∃ fuel, 2 * ("def ".toList ++ rest).length + 2 = fuel + 2 + 1 :=
    ⟨2 * rest.length + 7, by simp; omega⟩
  rw [tokens?, split, enough, List.cons_append, tokensFrom_line (by decide), ← List.cons_append,
    tokensFrom_word rfl rfl (by decide)] at read
  exact tokens_tokensFrom read

private theorem tokens_async_def (rest : List Char) {tokens : List Token}
    (read : tokens? ("async def ".toList ++ rest) = some tokens) :
    [.word "async", .word "def"] <+: tokens := by
  have split : plainLineEnds ("async def ".toList ++ rest) =
      'a' :: ['s', 'y', 'n', 'c'] ++ ' ' :: ('d' :: ['e', 'f'] ++ ' ' :: plainLineEnds rest) :=
    plainLineEnds_append (by decide) rest
  obtain ⟨fuel, enough⟩ :
      ∃ fuel, 2 * ("async def ".toList ++ rest).length + 2 = fuel + 2 + 2 + 1 :=
    ⟨2 * rest.length + 17, by simp; omega⟩
  rw [tokens?, split, enough, List.cons_append, tokensFrom_line (by decide), ← List.cons_append,
    tokensFrom_word rfl rfl (by decide), tokensFrom_word rfl rfl (by decide)] at read
  exact tokens_tokensFrom read

end Texts

namespace Rule

variable {α β : Type} {tokens : List Token}

theorem andThen_none {first : Rule α} (refused : first tokens = none) (next : α → Rule β) :
    (first >>= next) tokens = none := by
  change andThen first next tokens = none
  rw [andThen, refused]

theorem firstOf_none {rules : List (Rule α)} (refused : ∀ rule ∈ rules, rule tokens = none) :
    firstOf rules tokens = none :=
  List.findSome?_eq_none_iff.mpr refused

theorem firstOf_cons_some {rule : Rule α} {rules : List (Rule α)} {result : α × List Token}
    (read : firstOf (rule :: rules) tokens = some result)
    (refused : ∀ rule ∈ rules, rule tokens = none) : rule tokens = some result := by
  rw [firstOf, List.findSome?_cons] at read
  split at read
  · rename_i found
    rw [found, read]
  · exact absurd (read.symm.trans (firstOf_none refused)) (by simp)

theorem sepBy1_none {rule : Rule α} {separator : Rule β} (refused : rule tokens = none) :
    sepBy1 rule separator tokens = none :=
  andThen_none refused _

theorem commaList_none {rule : Rule α} (refused : rule tokens = none) :
    commaList rule tokens = none :=
  andThen_none (sepBy1_none refused) _

theorem sign_none (word text : String) (rest : List Token) : sign text (.word word :: rest) = none := by
  simp [sign, token]

theorem word_none {found text : String} (other : found ≠ text) (rest : List Token) :
    word text (.word found :: rest) = none := by
  simp [word, token, other]

private theorem name_none {found : String} (keyword : found ∈ keywords) (rest : List Token) :
    name (.word found :: rest) = none := by
  simp [name, token, keyword]

/-- Some token is a quoted text. -/
def stringToken : Rule StringPiece :=
  token fun
    | .string piece => some piece
    | _ => none

/-- Some token is a number. -/
def numberToken : Rule Expr :=
  token fun
    | .number value => some (.constant value)
    | _ => none

/-- A token that no expression starts with. -/
def OpensNoExpression : Token → Prop
  | .word found => found ∈ keywords ∧
    ∀ word ∈ ["True", "False", "None", "await", "not", "yield", "lambda"], found ≠ word
  | .sign found => ∀ sign ∈ ["(", "[", "\x7b", "...", "+", "-", "~", "*"], found ≠ sign
  | .newline | .indent | .dedent => True
  | .number _ | .string _ => False

section Closed

variable {found : Token} (closed : OpensNoExpression found) (inner : Rules) (rest : List Token)

include closed

theorem closed_word {text : String}
    (opens : text ∈ ["True", "False", "None", "await", "not", "yield", "lambda"]) :
    word text (found :: rest) = none := by
  cases found with
  | word found => exact word_none (closed.2 text opens) rest
  | _ => rfl

theorem closed_sign {text : String} (opens : text ∈ ["(", "[", "\x7b", "...", "+", "-", "~", "*"]) :
    sign text (found :: rest) = none := by
  cases found with
  | sign found => simp [sign, token, closed text opens]
  | _ => rfl

theorem closed_name : name (found :: rest) = none := by
  cases found with
  | word found => exact name_none closed.1 rest
  | _ => rfl

theorem atom_none : atom inner (found :: rest) = none := by
  have noString : stringToken (found :: rest) = none := by
    cases found with
    | string => cases closed
    | _ => rfl
  have noNumber : numberToken (found :: rest) = none := by
    cases found with
    | number => cases closed
    | _ => rfl
  refine firstOf_none ?_
  simp only [List.forall_mem_cons]
  exact ⟨andThen_none (closed_name closed rest) _, andThen_none (closed_word closed rest (by decide)) _,
    andThen_none (closed_word closed rest (by decide)) _,
    andThen_none (closed_word closed rest (by decide)) _,
    andThen_none (andThen_none noString _) _, noNumber,
    andThen_none (closed_sign closed rest (by decide)) _,
    andThen_none (closed_sign closed rest (by decide)) _,
    andThen_none (closed_sign closed rest (by decide)) _,
    andThen_none (closed_sign closed rest (by decide)) _, List.forall_mem_nil _⟩

private theorem primary_none : primary inner (found :: rest) = none :=
  andThen_none (atom_none closed inner rest) _

private theorem factor_none : factor inner (found :: rest) = none := by
  have awaited : awaited inner (found :: rest) = none := by
    refine firstOf_none ?_
    simp only [List.forall_mem_cons]
    exact ⟨andThen_none (closed_word closed rest (by decide)) _, primary_none closed inner rest,
      List.forall_mem_nil _⟩
  refine firstOf_none ?_
  simp only [List.forall_mem_cons]
  exact ⟨andThen_none (closed_sign closed rest (by decide)) _,
    andThen_none (closed_sign closed rest (by decide)) _,
    andThen_none (closed_sign closed rest (by decide)) _, andThen_none awaited _,
    List.forall_mem_nil _⟩

private theorem bitOr_none : bitOr inner (found :: rest) = none := by
  have factor := factor_none closed inner rest
  have levels (operators : List (List (String × BinaryOperator))) :
      operators.foldr leftAssociative (Rule.factor inner) (found :: rest) = none := by
    induction operators with
    | nil => exact factor
    | cons first operators ih => exact andThen_none ih _
  exact levels binaryOperators

private theorem disjunction_none : disjunction inner (found :: rest) = none := by
  have inversion : inversion inner (found :: rest) = none := by
    refine firstOf_none ?_
    simp only [List.forall_mem_cons]
    exact ⟨andThen_none (closed_word closed rest (by decide)) _,
      andThen_none (bitOr_none closed inner rest) _, List.forall_mem_nil _⟩
  exact andThen_none (sepBy1_none (andThen_none (sepBy1_none inversion) _)) _

theorem expression_none : expression inner (found :: rest) = none := by
  refine firstOf_none ?_
  simp only [List.forall_mem_cons]
  exact ⟨andThen_none (disjunction_none closed inner rest) _,
    andThen_none (closed_word closed rest (by decide)) _, List.forall_mem_nil _⟩

private theorem assigned_none (depth : Nat) :
    assigned (Rules.ofDepth (depth + 1)) (found :: rest) = none := by
  have starred : starredOr (Rules.ofDepth (depth + 1)).bitOr (Rules.ofDepth (depth + 1)).expression
      (found :: rest) = none := by
    refine firstOf_none ?_
    simp only [List.forall_mem_cons]
    exact ⟨andThen_none (closed_sign closed rest (by decide)) _, expression_none closed _ rest,
      List.forall_mem_nil _⟩
  refine firstOf_none ?_
  simp only [List.forall_mem_cons]
  exact ⟨andThen_none (closed_word closed rest (by decide)) _, andThen_none (commaList_none starred) _,
    List.forall_mem_nil _⟩

end Closed

theorem andThen_some {first : Rule α} {next : α → Rule β} {result : β × List Token}
    (read : (first >>= next) tokens = some result) :
    ∃ value rest, first tokens = some (value, rest) ∧ next value rest = some result := by
  change andThen first next tokens = some result at read
  unfold andThen at read
  cases shape : first tokens with
  | none =>
    rw [shape] at read
    cases read
  | some found =>
    rw [shape] at read
    exact ⟨found.1, found.2, rfl, read⟩

theorem andThen_eq {first : Rule α} {value : α} {rest : List Token}
    (read : first tokens = some (value, rest)) (next : α → Rule β) :
    (first >>= next) tokens = next value rest := by
  change andThen first next tokens = _
  rw [andThen, read]

theorem many_of_none {rule : Rule α} (refused : rule tokens = none) :
    many rule tokens = some ([], tokens) := by
  cases tokens with
  | nil => rfl
  | cons first rest => simp [many, upTo, refused]

theorem many_some {rule : Rule α} {values : List α} {rest : List Token}
    (read : many rule tokens = some (values, rest)) : rest = tokens ∨
      ∃ value others behind, rule tokens = some (value, behind) ∧ values = value :: others := by
  cases tokens with
  | nil =>
    cases read
    exact .inl rfl
  | cons first more =>
    simp only [many, List.length_cons, upTo] at read
    split at read
    · rename_i value behind here
      split at read
      · cases read
        exact .inr ⟨value, _, behind, here, rfl⟩
      · cases read
    · cases read
      exact .inl rfl

/-- The words in front of a function, with what stands behind them. -/
def opensFunction : List Token → Bool
  | .word "def" :: _ | .word "async" :: .word "def" :: _ => true
  | _ => false

private theorem opensFunction_cases (opens : opensFunction tokens = true) :
    ∃ found rest, tokens = .word found :: rest ∧ found ∈ ["def", "async"] ∧
      ∃ isAsync behind, flag (word "async") tokens = some (isAsync, .word "def" :: behind) := by
  unfold opensFunction at opens
  split at opens
  · exact ⟨_, _, rfl, by simp, false, _, rfl⟩
  · exact ⟨_, _, rfl, by simp, true, _, rfl⟩
  · cases opens

private theorem opensNoExpression_of_mem {found : String} (starts : found ∈ ["def", "async"]) :
    OpensNoExpression (.word found) := by
  simp only [List.mem_cons, List.not_mem_nil, or_false] at starts
  rcases starts with rfl | rfl <;> exact ⟨by decide, by decide⟩

theorem simpleStatements_none (depth : Nat) {found : String} (starts : found ∈ ["def", "async"])
    (rest : List Token) :
    simpleStatements (Rules.ofDepth (depth + 1)) (.word found :: rest) = none := by
  have closed := opensNoExpression_of_mem starts
  have other {text : String} (known : text ∉ ["def", "async"]) :
      word text (.word found :: rest) = none :=
    word_none (by rintro rfl; exact known starts) rest
  have annotated : annotated (Rules.ofDepth (depth + 1)) (.word found :: rest) = none :=
    (andThen_eq rfl _).trans (andThen_none (primary_none closed _ rest) _)
  refine andThen_none (sepBy1_none (firstOf_none ?_)) _
  simp only [List.forall_mem_cons]
  exact ⟨annotated, andThen_none (assigned_none closed rest depth) _,
    andThen_none (other (by decide)) _, andThen_none (other (by decide)) _,
    andThen_none (other (by decide)) _, andThen_none (other (by decide)) _,
    andThen_none (other (by decide)) _, andThen_none (other (by decide)) _,
    andThen_none (other (by decide)) _, andThen_none (other (by decide)) _,
    andThen_none (other (by decide)) _, andThen_none (andThen_none (other (by decide)) _) _,
    andThen_none (andThen_none (other (by decide)) _) _, List.forall_mem_nil _⟩

theorem function_of_some {rules : Rules} {block : Rule (List Statement)} {decorators : List Expr}
    {result : Statement × List Token} (read : function rules block decorators tokens = some result) :
    ∃ isAsync name params returns body,
      result.1 = .function isAsync name params returns decorators body := by
  obtain ⟨isAsync, _, _, read⟩ := andThen_some read
  obtain ⟨_, _, _, read⟩ := andThen_some read
  obtain ⟨name, _, _, read⟩ := andThen_some read
  obtain ⟨params, _, _, read⟩ := andThen_some read
  obtain ⟨returns, _, _, read⟩ := andThen_some read
  obtain ⟨_, _, _, read⟩ := andThen_some read
  obtain ⟨body, _, _, read⟩ := andThen_some read
  cases read
  exact ⟨isAsync, name, params, returns, body, rfl⟩

/-- No other statement starts with these words. -/
theorem statements_of_opens {depth : Nat} {block : Rule (List Statement)} {result : List Statement}
    {behind : List Token} (opens : opensFunction tokens = true)
    (read : statements (Rules.ofDepth (depth + 1)) block tokens = some (result, behind)) :
    ∃ isAsync name params returns decorators body,
      result = [.function isAsync name params returns decorators body] := by
  obtain ⟨found, rest, rfl, starts, isAsync, after, flagged⟩ := opensFunction_cases opens
  have other {text : String} (known : text ∉ ["def", "async"]) :
      word text (.word found :: rest) = none :=
    word_none (by rintro rfl; exact known starts) rest
  have undecorated : decorators (Rules.ofDepth (depth + 1)) (.word found :: rest) =
      some ([], .word found :: rest) := many_of_none (andThen_none (sign_none _ _ _) _)
  have others : ∀ rule ∈ [branch (Rules.ofDepth (depth + 1)) block,
      whileLoop (Rules.ofDepth (depth + 1)) block, forLoop (Rules.ofDepth (depth + 1)) block,
      withBlock (Rules.ofDepth (depth + 1)) block, attempt (Rules.ofDepth (depth + 1)) block],
      rule (.word found :: rest) = none := by
    simp only [List.forall_mem_cons]
    exact ⟨andThen_none (other (by decide)) _, andThen_none (other (by decide)) _,
      (andThen_eq flagged _).trans (andThen_none (word_none (by decide) _) _),
      (andThen_eq flagged _).trans (andThen_none (word_none (by decide) _) _),
      andThen_none (other (by decide)) _, List.forall_mem_nil _⟩
  obtain ⟨statement, _, read, same⟩ := andThen_some (firstOf_cons_some read
    (List.forall_mem_singleton.mpr (simpleStatements_none depth starts rest)))
  cases same
  have defined := firstOf_cons_some read others
  obtain ⟨isAsync, name, params, returns, body, same⟩ := function_of_some
    (firstOf_cons_some ((andThen_eq undecorated _).symm.trans defined)
      (List.forall_mem_singleton.mpr (andThen_none (other (by decide)) _)))
  exact ⟨isAsync, name, params, returns, [], body, by rw [← same]⟩

end Rule

/-- A text that starts with the words of a function is read as a function and what follows it. -/
theorem readModule_of_opens {text : String} {body : List Statement}
    (opens : ∀ tokens, tokens? text.toList = some tokens → Rule.opensFunction tokens = true)
    (read : readModule text = .ok body) : ∃ isAsync name params returns decorators own others,
      body = .function isAsync name params returns decorators own :: others := by
  unfold readModule readWhole at read
  simp only at read
  split at read
  · rename_i value whole
    obtain ⟨tokens, lexed, parsed⟩ := Option.bind_eq_some_iff.mp whole
    obtain ⟨lists, rest, lines, same⟩ := Rule.andThen_some parsed
    cases same
    split at read
    · cases read
    · cases read
      rcases Rule.many_some lines with rfl | ⟨first, others, behind, here, rfl⟩
      · exact absurd (opens [] lexed) (by decide)
      · obtain ⟨isAsync, name, params, returns, decorators, own, rfl⟩ :=
          Rule.statements_of_opens (opens tokens lexed) here
        exact ⟨isAsync, name, params, returns, decorators, own, others.flatten, rfl⟩
  · cases read

namespace Module

/-- The head of a function is read as a function. -/
theorem readFirst_header {header : Header} {rest : String} {statement : Statement}
    (read : readFirst (header.text ++ rest) = .ok statement) :
    ∃ isAsync name params returns decorators body,
      statement = .function isAsync name params returns decorators body := by
  obtain ⟨body, read, same⟩ := bind_eq_ok_iff.mp read
  have opens (tokens : List Token)
      (lexed : tokens? (dedentString (header.text ++ rest)).toList = some tokens) :
      Rule.opensFunction tokens = true := by
    rw [dedentString, String.toList_ofList] at lexed
    cases isAsync : header.isAsync with
    | true =>
      obtain ⟨behind, shape⟩ : ∃ behind, (header.text ++ rest).toList = "async def ".toList ++ behind :=
        ⟨_, by simp [Header.text, isAsync]; rfl⟩
      obtain ⟨moved, same⟩ := dedent_append 'a' "sync def ".toList rfl (by decide) behind
      rw [shape] at lexed
      rw [show "async def ".toList = 'a' :: "sync def ".toList from rfl, same] at lexed
      obtain ⟨behind, rfl⟩ := tokens_async_def moved lexed
      rfl
    | false =>
      obtain ⟨behind, shape⟩ : ∃ behind, (header.text ++ rest).toList = "def ".toList ++ behind :=
        ⟨_, by simp [Header.text, isAsync]; rfl⟩
      obtain ⟨moved, same⟩ := dedent_append 'd' "ef ".toList rfl (by decide) behind
      rw [shape] at lexed
      rw [show "def ".toList = 'd' :: "ef ".toList from rfl, same] at lexed
      obtain ⟨behind, rfl⟩ := tokens_def moved lexed
      rfl
  obtain ⟨isAsync, name, params, returns, decorators, own, others, rfl⟩ :=
    readModule_of_opens opens read
  cases same
  exact ⟨isAsync, name, params, returns, decorators, own, rfl⟩

end Module

end Blueprint.ServerCode
