import Blueprint.Proofs.ServerCode.LiteralTokens
import Blueprint.Proofs.ServerCode.ValueRules

namespace Blueprint.ServerCode.Rule

variable {tokens rest : List Token}

section Displays

variable {inner : Rules} {depth : Nat} {value : Expr} {values : List Literal}

theorem yieldExpression_none (opens : OpensValue tokens) : yieldExpression inner tokens = none :=
  andThen_none (word_none_of_opens opens (by decide)) _

/-- The items of a display are read by its rules. -/
def ReadsItems (inner : Rules) (values : List Literal) : Prop :=
  ∀ value ∈ values, ∀ rest, EndsValue rest →
    OpensValue (value.tokens ++ rest) ∧
      inner.expression (value.tokens ++ rest) = some (value.toExpr, rest)

theorem ReadsItems.display (read : ReadsItems inner values) :
    ∀ value ∈ values, ∀ rest, EndsValue rest →
      displayItem inner (value.tokens ++ rest) = some (value.toExpr, rest) :=
  fun value member rest ends =>
    displayItem_of_expression (read value member rest ends).1 (read value member rest ends).2

theorem row_cons (first : List Token) (others : List (List Token)) :
    Literal.row (first :: others) = first ++ others.flatMap fun tokens => .sign "," :: tokens := by
  induction others generalizing first with
  | nil => simp [Literal.row]
  | cons second others ih =>
    rw [Literal.row, List.intercalate_cons_cons, ← Literal.row, ih]
    simp

/-- A value alone in brackets. -/
theorem bracketed_single (opens : OpensValue tokens)
    (read : inner.expression tokens = some (value, .sign ")" :: rest))
    (plain : ∀ inside, value ≠ .starred inside) :
    bracketed inner (.sign "(" :: tokens) = some (value, rest) := by
  have ends : EndsValue (.sign ")" :: rest) := ⟨_, by decide, rest, rfl⟩
  have item := displayItem_of_expression opens read
  have noComma : sign "," (.sign ")" :: rest) = none := sign_of_ne (by decide) rest
  have further := furtherItems_of_none (displayItem inner) noComma
  apply between_eq
  refine (firstOf_of_none (yieldExpression_none opens)).trans (firstOf_of_some ?_)
  refine (andThen_eq item _).trans ((andThen_eq (seesClause_of_ends ends) _).trans ?_)
  refine (andThen_eq further _).trans ?_
  simp only [List.isEmpty_nil, Bool.not_false, Bool.and_self, if_true]
  rfl

theorem bracketed_empty (rest : List Token) :
    bracketed (Rules.ofDepth depth) (.sign "(" :: .sign ")" :: rest) = some (.tuple [], rest) := by
  apply between_eq
  refine (firstOf_of_none rfl).trans ?_
  refine (firstOf_of_none (andThen_none (displayItem_closed (by decide) rest) _)).trans ?_
  exact firstOf_of_some rfl

/-- A value that a comma follows is a tuple of one. -/
theorem bracketed_comma (opens : OpensValue tokens)
    (read : (Rules.ofDepth depth).expression tokens =
      some (value, .sign "," :: .sign ")" :: rest)) :
    bracketed (Rules.ofDepth depth) (.sign "(" :: tokens) = some (.tuple [value], rest) := by
  have ends : EndsValue (.sign "," :: .sign ")" :: rest) := ⟨_, by decide, _, rfl⟩
  have item := displayItem_of_expression opens read
  have refused : displayItem (Rules.ofDepth depth) (.sign ")" :: rest) = none :=
    displayItem_closed (by decide) rest
  have further := furtherItems_of_comma refused
  apply between_eq
  refine (firstOf_of_none (yieldExpression_none opens)).trans (firstOf_of_some ?_)
  refine (andThen_eq item _).trans ((andThen_eq (seesClause_of_ends ends) _).trans ?_)
  exact andThen_eq further _

/-- The first value of a row and those behind it. -/
structure ReadsRow (inner : Rules) (first : Literal) (others : List Literal) (closing : String)
    (rest : List Token) : Prop where
  opens : OpensValue (Literal.row ((first :: others).map Literal.tokens) ++ .sign closing :: rest)
  ends : EndsValue (others.flatMap (fun value => .sign "," :: value.tokens) ++ .sign closing :: rest)
  value : inner.expression (Literal.row ((first :: others).map Literal.tokens) ++
    .sign closing :: rest) =
      some (first.toExpr, others.flatMap (fun value => .sign "," :: value.tokens) ++
        .sign closing :: rest)
  further : furtherItems (displayItem inner)
    (others.flatMap (fun value => .sign "," :: value.tokens) ++ .sign closing :: rest) =
      some ((others.map Literal.toExpr, false), .sign closing :: rest)

theorem readsRow {first : Literal} {others : List Literal} (read : ReadsItems inner (first :: others))
    {closing : String} (mark : Token.sign closing ∈ valueMarks) (other : closing ≠ ",")
    (rest : List Token) : ReadsRow inner first others closing rest := by
  have shape : Literal.row ((first :: others).map Literal.tokens) ++ .sign closing :: rest =
      first.tokens ++ (others.flatMap (fun value => .sign "," :: value.tokens) ++
        .sign closing :: rest) := by
    rw [List.map_cons, row_cons, List.flatMap_map, List.append_assoc]
  have ends : EndsValue (others.flatMap (fun value => .sign "," :: value.tokens) ++
      .sign closing :: rest) := by
    cases others with
    | nil => exact ⟨_, mark, rest, rfl⟩
    | cons second others => exact ⟨.sign ",", by decide, _, rfl⟩
  obtain ⟨opens, value⟩ := read first List.mem_cons_self _ ends
  rw [← shape] at opens value
  exact ⟨opens, ends, value, furtherItems_of_closing
    (fun value member => read.display value (List.mem_cons_of_mem first member)) closing mark other
    rest⟩

/-- Values between commas. -/
theorem bracketed_row {first second : Literal}
    (read : ReadsItems inner (first :: second :: values)) (rest : List Token) :
    bracketed inner (.sign "(" :: (Literal.row ((first :: second :: values).map Literal.tokens) ++
      .sign ")" :: rest)) =
        some (.tuple ((first :: second :: values).map Literal.toExpr), rest) := by
  obtain ⟨opens, ends, value, further⟩ := readsRow read (show Token.sign ")" ∈ _ by decide)
    (by decide) rest
  apply between_eq
  refine (firstOf_of_none (yieldExpression_none opens)).trans (firstOf_of_some ?_)
  refine (andThen_eq (displayItem_of_expression opens value) _).trans ?_
  exact (andThen_eq (seesClause_of_ends ends) _).trans (andThen_eq further _)

theorem listDisplay_empty (rest : List Token) :
    listDisplay (Rules.ofDepth depth) (.sign "[" :: .sign "]" :: rest) = some (.list [], rest) := by
  apply between_eq
  refine (firstOf_of_none (andThen_none (displayItem_closed (by decide) rest) _)).trans ?_
  exact firstOf_of_some rfl

theorem listDisplay_row {first : Literal} (read : ReadsItems inner (first :: values))
    (rest : List Token) :
    listDisplay inner (.sign "[" :: (Literal.row ((first :: values).map Literal.tokens) ++
      .sign "]" :: rest)) = some (.list ((first :: values).map Literal.toExpr), rest) := by
  obtain ⟨opens, ends, value, further⟩ := readsRow read (show Token.sign "]" ∈ _ by decide)
    (by decide) rest
  apply between_eq
  refine firstOf_of_some ((andThen_eq (displayItem_of_expression opens value) _).trans ?_)
  exact (andThen_eq (seesClause_of_ends ends) _).trans (andThen_eq further _)

/-- A value that no colon follows starts a set. -/
theorem braceDisplay_row {first : Literal} (read : ReadsItems inner (first :: values))
    (rest : List Token) :
    braceDisplay inner (.sign "\x7b" :: (Literal.row ((first :: values).map Literal.tokens) ++
      .sign "\x7d" :: rest)) = some (.set ((first :: values).map Literal.toExpr), rest) := by
  obtain ⟨opens, ends, value, further⟩ := readsRow read (show Token.sign "\x7d" ∈ _ by decide)
    (by decide) rest
  have noColon : after (sign ":") inner.expression (values.flatMap
      (fun value => .sign "," :: value.tokens) ++ .sign "\x7d" :: rest) = none := by
    cases values with
    | nil => exact andThen_none (sign_of_ne (by decide) _) _
    | cons second values => exact andThen_none (sign_of_ne (by decide) _) _
  apply between_eq
  refine (firstOf_of_none (andThen_none (sign_none_of_opens opens (by decide)) _)).trans ?_
  refine (firstOf_of_none (andThen_none (sign_none_of_opens opens (by decide)) _)).trans ?_
  refine (firstOf_of_none (andThen_none (assignmentExpression_none opens) _)).trans ?_
  refine firstOf_of_some ((andThen_eq value _).trans ?_)
  refine (andThen_eq (optional_of_none noColon) _).trans ?_
  exact (andThen_eq (seesClause_of_ends ends) _).trans (andThen_eq further _)

theorem braceDisplay_empty (rest : List Token) :
    braceDisplay (Rules.ofDepth depth) (.sign "\x7b" :: .sign "\x7d" :: rest) =
      some (.dict [], rest) := by
  apply between_eq
  refine (firstOf_of_none rfl).trans ((firstOf_of_none rfl).trans ((firstOf_of_none rfl).trans ?_))
  refine (firstOf_of_none (andThen_none (ofDepth_closed (by decide) rest) _)).trans ?_
  exact firstOf_of_some rfl

/-- The tokens of an entry. -/
def entrySpelling (entry : Literal × Literal) : List Token :=
  entry.1.tokens ++ .sign ":" :: entry.2.tokens

theorem dictEntry_of_expressions {key value : Expr} {more : List Token} (opens : OpensValue tokens)
    (first : inner.expression tokens = some (key, .sign ":" :: more))
    (second : inner.expression more = some (value, rest)) :
    dictEntry inner tokens = some (.pair key value, rest) := by
  refine (firstOf_of_none (andThen_none (sign_none_of_opens opens (by decide)) _)).trans ?_
  refine firstOf_of_some ((andThen_eq first _).trans ?_)
  exact (andThen_eq (sign_cons ":" more) _).trans (andThen_eq second _)

/-- A key that a colon follows starts a dictionary. -/
theorem braceDisplay_entries {key value : Literal} {entries : List (Literal × Literal)}
    (read : ReadsItems inner (Literal.dict ((key, value) :: entries)).parts) (rest : List Token) :
    braceDisplay inner (.sign "\x7b" :: (Literal.row (((key, value) :: entries).map entrySpelling) ++
      .sign "\x7d" :: rest)) =
        some (.dict (((key, value) :: entries).map fun entry =>
          .pair entry.1.toExpr entry.2.toExpr), rest) := by
  have parts {entry : Literal × Literal} (member : entry ∈ (key, value) :: entries) :
      ∀ part ∈ [entry.1, entry.2], ∀ rest, EndsValue rest →
        OpensValue (part.tokens ++ rest) ∧
          inner.expression (part.tokens ++ rest) = some (part.toExpr, rest) :=
    fun part which => read part (List.mem_flatMap.mpr ⟨entry, member, which⟩)
  have colon (more : List Token) : EndsValue (.sign ":" :: more) := ⟨_, by decide, more, rfl⟩
  have each : ∀ entry ∈ entries, ∀ rest, EndsValue rest → dictEntry inner (entrySpelling entry ++ rest) =
      some (.pair entry.1.toExpr entry.2.toExpr, rest) := by
    intro entry member rest ends
    have member := List.mem_cons_of_mem (key, value) member
    have first := parts member entry.1 (by simp) (.sign ":" :: (entry.2.tokens ++ rest)) (colon _)
    have second := parts member entry.2 (by simp) rest ends
    rw [entrySpelling, List.append_assoc, List.cons_append]
    exact dictEntry_of_expressions first.1 first.2 second.2
  have further := furtherItems_of_closing each "\x7d" (by decide) (by decide) rest
  set more := entries.flatMap (fun entry => .sign "," :: entrySpelling entry) ++ .sign "\x7d" :: rest
    with more_eq
  have ends : EndsValue more := by
    cases entries with
    | nil => exact ⟨.sign "\x7d", by decide, rest, rfl⟩
    | cons entry entries => exact ⟨.sign ",", by decide, _, rfl⟩
  obtain ⟨opens, first⟩ :=
    parts List.mem_cons_self key (by simp) (.sign ":" :: (value.tokens ++ more)) (colon _)
  have second := (parts List.mem_cons_self value (by simp) more ends).2
  have shape : Literal.row (((key, value) :: entries).map entrySpelling) ++ .sign "\x7d" :: rest =
      key.tokens ++ .sign ":" :: (value.tokens ++ more) := by
    rw [List.map_cons, row_cons, List.flatMap_map, List.append_assoc, ← more_eq, entrySpelling,
      List.append_assoc, List.cons_append]
  have behind : optional (after (sign ":") inner.expression) (.sign ":" :: (value.tokens ++ more)) =
      some (some value.toExpr, more) := by
    have read : after (sign ":") inner.expression (.sign ":" :: (value.tokens ++ more)) =
        some (value.toExpr, more) := (andThen_eq (sign_cons ":" _) _).trans second
    rw [optional, read]
  rw [shape]
  apply between_eq
  refine (firstOf_of_none (andThen_none (sign_none_of_opens opens (by decide)) _)).trans ?_
  refine (firstOf_of_none (andThen_none (sign_none_of_opens opens (by decide)) _)).trans ?_
  refine (firstOf_of_none (andThen_none (assignmentExpression_none opens) _)).trans ?_
  refine firstOf_of_some ((andThen_eq first _).trans ((andThen_eq behind _).trans ?_))
  exact (andThen_eq (seesClause_of_ends ends) _).trans (andThen_eq further _)

theorem callArguments_empty (rest : List Token) :
    callArguments (Rules.ofDepth depth) (.sign "(" :: .sign ")" :: rest) = some (([], []), rest) := by
  have none : argument (Rules.ofDepth depth) (.sign ")" :: rest) = Option.none := by
    refine firstOf_none ?_
    simp only [List.forall_mem_cons]
    exact ⟨rfl, rfl, rfl, andThen_none (namedExpression_closed (by decide) rest) _,
      List.forall_mem_nil _⟩
  apply between_eq
  exact andThen_eq (optional_of_none (commaList_none none)) _

/-- The empty set is a call. -/
theorem primary_emptySet (ends : EndsOperand rest) :
    primary (Rules.ofDepth depth) (.word "set" :: .sign "(" :: .sign ")" :: rest) =
      some (.call (.name "set") [] [], rest) := by
  have call : trailer (Rules.ofDepth depth) (.sign "(" :: .sign ")" :: rest) =
      some (fun value => .call value [] [], rest) :=
    (firstOf_of_none rfl).trans (firstOf_of_some (andThen_eq (callArguments_empty rest) _))
  have steps : Repeats (trailer (Rules.ofDepth depth)) (.sign "(" :: .sign ")" :: rest)
      [fun value => .call value [] []] rest := by
    refine .next call ?_ (.done (trailer_none_of_ends ends))
    rw [List.length_cons, List.length_cons]
    omega
  exact (andThen_eq (atom_name (by decide) (by decide) _) _).trans (andThen_eq (many_of_repeats steps) _)

end Displays

section Operands

theorem opens_of_sign {text : String} (unlisted : Token.sign text ∉ leadMarks) (more : List Token) :
    OpensValue (.sign text :: more) := ⟨_, unlisted, more, rfl, Or.inl rfl⟩

theorem opens_of_word {text : String} (unlisted : Token.word text ∉ leadMarks)
    (ends : sign ":=" rest = none) : OpensValue (.word text :: rest) :=
  ⟨_, unlisted, rest, rfl, Or.inr ends⟩

/-- A token that is an operand by itself. -/
structure IsOperand (token : Token) (value : Expr) : Prop where
  opens : ∀ rest, EndsOperand rest → OpensValue (token :: rest)
  unsigned : token ≠ .sign "-"
  atom : ∀ inner rest, EndsOperand rest → atom inner (token :: rest) = some (value, rest)

variable {token : Token} {value : Expr} {depth : Nat}

theorem isOperand_name {text : String} (free : text ∉ keywords) (normal : identifier text = text)
    (unlisted : Token.word text ∉ leadMarks) : IsOperand (.word text) (.name text) where
  opens _ ends := opens_of_word unlisted (sign_none_of_ends ends (by decide))
  unsigned := nofun
  atom _ rest _ := atom_name free normal rest

theorem isOperand_word {text : String} (unlisted : Token.word text ∉ leadMarks)
    (read : ∀ inner rest, Rule.atom inner (.word text :: rest) = some (value, rest)) :
    IsOperand (.word text) value where
  opens _ ends := opens_of_word unlisted (sign_none_of_ends ends (by decide))
  unsigned := nofun
  atom inner rest _ := read inner rest

theorem isOperand_number (value : Constant) : IsOperand (.number value) (.constant value) where
  opens rest _ := ⟨_, by simp [leadMarks], rest, rfl, Or.inl rfl⟩
  unsigned := nofun
  atom _ _ _ := rfl

theorem isOperand_string {piece : StringPiece}
    (joined : ∀ read, joinStrings? read [piece] = some value) : IsOperand (.string piece) value where
  opens rest _ := ⟨_, by simp [leadMarks], rest, rfl, Or.inl rfl⟩
  unsigned := nofun
  atom _ _ ends := atom_string (joined _) ends

/-- An operand behind its sign is a factor. -/
theorem factor_signed (operand : IsOperand token value) (negative : Bool)
    (room : (Literal.signTokens negative).length ≤ depth) (ends : EndsOperand rest) :
    factor (Rules.ofDepth depth) (Literal.signTokens negative ++ token :: rest) =
      some (Literal.signed negative value, rest) := by
  have plain (depth : Nat) : factor (Rules.ofDepth depth) (token :: rest) = some (value, rest) :=
    factor_of_primary (operand.opens rest ends) (sign_of_ne operand.unsigned rest)
      (primary_of_atom (operand.atom _ rest ends) ends) ends
  cases negative with
  | false => exact plain depth
  | true =>
    cases depth with
    | zero => cases room
    | succ depth => exact factor_of_minus (plain depth)

theorem opens_signed (operand : IsOperand token value) (negative : Bool) (ends : EndsOperand rest) :
    OpensValue (Literal.signTokens negative ++ token :: rest) := by
  cases negative with
  | false => exact operand.opens rest ends
  | true => exact opens_of_sign (by decide) _

theorem expression_signed (operand : IsOperand token value) (negative : Bool)
    (room : (Literal.signTokens negative).length < depth) (ends : EndsValue rest) :
    (Rules.ofDepth depth).expression (Literal.signTokens negative ++ token :: rest) =
      some (Literal.signed negative value, rest) := by
  cases depth with
  | zero => cases room
  | succ depth =>
    have read := factor_signed operand negative (Nat.le_of_lt_succ room) ends.operand
    exact expression_of_sum (opens_signed operand negative ends.operand) (sum_of_factor read ends) ends

/-- An atom that starts with a bracket is an expression. -/
theorem expression_of_bracket {text : String} (unlisted : Token.sign text ∉ leadMarks)
    (unsigned : text ≠ "-")
    (read : atom (Rules.ofDepth depth) (.sign text :: tokens) = some (value, rest))
    (ends : EndsValue rest) :
    (Rules.ofDepth (depth + 1)).expression (.sign text :: tokens) = some (value, rest) := by
  have opens := opens_of_sign unlisted tokens
  have factor := factor_of_primary opens (sign_of_ne (by simpa using unsigned) tokens)
    (primary_of_atom read ends.operand) ends.operand
  exact expression_of_sum opens (sum_of_factor factor ends) ends

end Operands

end Blueprint.ServerCode.Rule
