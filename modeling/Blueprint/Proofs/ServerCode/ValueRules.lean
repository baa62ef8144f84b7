import Blueprint.Proofs.ServerCode.FunctionHeads

/-!
Rules of the grammar in front of a mark that no expression goes on with: a comma, a colon, a closing
bracket or the end of the line. Each rule stops behind a value there, from the atom that it is up to
the whole expression.
-/

namespace Blueprint.ServerCode

/-- The tokens that a value stands in front of. -/
def valueMarks : List Token :=
  [.sign ",", .sign ")", .sign "]", .sign "\x7d", .sign ":", .newline]

/-- Tokens in front of which a value ends. -/
def EndsValue (rest : List Token) : Prop := ∃ mark ∈ valueMarks, ∃ more, rest = mark :: more

/-- Tokens in front of which an operand of a sum ends. -/
def EndsOperand (rest : List Token) : Prop :=
  ∃ mark ∈ .sign "+" :: .sign "-" :: valueMarks, ∃ more, rest = mark :: more

theorem EndsValue.operand {rest : List Token} (ends : EndsValue rest) : EndsOperand rest := by
  obtain ⟨mark, listed, more, same⟩ := ends
  exact ⟨mark, List.mem_cons_of_mem _ (List.mem_cons_of_mem _ listed), more, same⟩

namespace Rule

/-- A rule reads values one after the other, each from a token or more, until it refuses. -/
inductive Repeats {α : Type} (rule : Rule α) : List Token → List α → List Token → Prop where
  | done {rest : List Token} (refused : rule rest = none) : Repeats rule rest [] rest
  | next {value : α} {values : List α} {tokens between rest : List Token}
      (read : rule tokens = some (value, between)) (shorter : between.length < tokens.length)
      (others : Repeats rule between values rest) : Repeats rule tokens (value :: values) rest

variable {α β : Type} {tokens rest : List Token}

theorem sign_of_ne {found : Token} {text : String} (other : found ≠ .sign text) (rest : List Token) :
    sign text (found :: rest) = none := by
  simp [sign, token, other]

theorem word_of_ne {found : Token} {text : String} (other : found ≠ .word text) (rest : List Token) :
    word text (found :: rest) = none := by
  simp [word, token, other]

theorem sign_cons (text : String) (rest : List Token) :
    sign text (.sign text :: rest) = some (⟨⟩, rest) := by
  simp [sign, token]

theorem optional_of_none {rule : Rule α} (refused : rule tokens = none) :
    optional rule tokens = some (none, tokens) := by
  rw [optional, refused]

theorem flag_of_none {rule : Rule α} (refused : rule tokens = none) :
    flag rule tokens = some (false, tokens) :=
  andThen_eq (optional_of_none refused) _

theorem firstOf_of_some {rule : Rule α} {rules : List (Rule α)} {result : α × List Token}
    (read : rule tokens = some result) : firstOf (rule :: rules) tokens = some result := by
  rw [firstOf, List.findSome?_cons, read]

theorem firstOf_of_none {rule : Rule α} {rules : List (Rule α)} (refused : rule tokens = none) :
    firstOf (rule :: rules) tokens = firstOf rules tokens := by
  rw [firstOf, List.findSome?_cons, refused, firstOf]

theorem upTo_of_repeats {rule : Rule α} {values : List α} (repeats : Repeats rule tokens values rest)
    {count : Nat} (enough : tokens.length ≤ count) : upTo rule count tokens = some (values, rest) := by
  induction repeats generalizing count with
  | done refused =>
    cases count with
    | zero => rfl
    | succ count => simp only [upTo, refused]
  | next read shorter _ ih =>
    cases count with
    | zero => omega
    | succ count => simp only [upTo, read, ih (by omega : _ ≤ count)]

theorem many_of_repeats {rule : Rule α} {values : List α}
    (repeats : Repeats rule tokens values rest) : many rule tokens = some (values, rest) :=
  upTo_of_repeats repeats (Nat.le_refl _)

section Ends

theorem sign_none_of_ends {text : String} (ends : EndsOperand rest)
    (apart : Token.sign text ∉ .sign "+" :: .sign "-" :: valueMarks) : sign text rest = none := by
  obtain ⟨mark, listed, more, rfl⟩ := ends
  exact sign_of_ne (by rintro rfl; exact apart listed) more

theorem word_none_of_ends (text : String) (ends : EndsOperand rest) : word text rest = none := by
  obtain ⟨mark, listed, more, rfl⟩ := ends
  apply word_of_ne
  rintro rfl
  simp [valueMarks] at listed

theorem EndsValue.closed {mark : Token} (listed : mark ∈ valueMarks) : OpensNoExpression mark := by
  simp only [valueMarks, List.mem_cons, List.not_mem_nil, or_false] at listed
  rcases listed with rfl | rfl | rfl | rfl | rfl | rfl <;> simp [OpensNoExpression]

end Ends

section Levels

variable {inner : Rules} {value : Expr}

private theorem comparison_none_of_ends (ends : EndsOperand rest) : comparison rest = none := by
  refine firstOf_none ?_
  have noSign {text : String} (apart : Token.sign text ∉ .sign "+" :: .sign "-" :: valueMarks) :=
    sign_none_of_ends ends apart
  have noWord (text : String) := word_none_of_ends text ends
  simp only [List.forall_mem_cons]
  exact ⟨andThen_none (noSign (by decide)) _, andThen_none (noSign (by decide)) _,
    andThen_none (noSign (by decide)) _, andThen_none (noSign (by decide)) _,
    andThen_none (noSign (by decide)) _, andThen_none (noSign (by decide)) _,
    andThen_none (noWord _) _, andThen_none (noWord _) _, andThen_none (noWord _) _,
    andThen_none (noWord _) _, List.forall_mem_nil _⟩

theorem trailer_none_of_ends (ends : EndsOperand rest) : trailer inner rest = none := by
  refine firstOf_none ?_
  simp only [List.forall_mem_cons]
  exact ⟨andThen_none (sign_none_of_ends ends (by decide)) _,
    andThen_none (andThen_none (sign_none_of_ends ends (by decide)) _) _,
    andThen_none (andThen_none (sign_none_of_ends ends (by decide)) _) _, List.forall_mem_nil _⟩

theorem primary_of_atom (read : atom inner tokens = some (value, rest)) (ends : EndsOperand rest) :
    primary inner tokens = some (value, rest) :=
  (andThen_eq read _).trans (andThen_eq (many_of_none (trailer_none_of_ends ends)) _)

/-- Tokens that no value starts with, of those that have a meaning in front of an expression. -/
def leadMarks : List Token :=
  [.sign "+", .sign "~", .sign "*", .sign "**", .word "await", .word "not", .word "yield"]

/-- Tokens that a value may start with: no lead, and no name that a value is bound to. -/
def OpensValue (tokens : List Token) : Prop :=
  ∃ found ∉ leadMarks, ∃ more, tokens = found :: more ∧
    (name (found :: more) = none ∨ sign ":=" more = none)

theorem sign_none_of_opens {text : String} (opens : OpensValue tokens)
    (lead : Token.sign text ∈ leadMarks) : sign text tokens = none := by
  obtain ⟨found, unlisted, more, rfl, -⟩ := opens
  exact sign_of_ne (by rintro rfl; exact unlisted lead) more

theorem word_none_of_opens {text : String} (opens : OpensValue tokens)
    (lead : Token.word text ∈ leadMarks) : word text tokens = none := by
  obtain ⟨found, unlisted, more, rfl, -⟩ := opens
  exact word_of_ne (by rintro rfl; exact unlisted lead) more

/-- A value without a sign is a factor. -/
theorem factor_of_primary (opens : OpensValue tokens) (unsigned : sign "-" tokens = none)
    (read : primary inner tokens = some (value, rest)) (ends : EndsOperand rest) :
    factor inner tokens = some (value, rest) := by
  have awaited : awaited inner tokens = some (value, rest) := by
    refine (firstOf_of_none (andThen_none (word_none_of_opens opens (by decide)) _)).trans ?_
    exact firstOf_of_some read
  have noPower : optional (after (sign "**") inner.factor) rest = some (none, rest) :=
    optional_of_none (andThen_none (sign_none_of_ends ends (by decide)) _)
  refine (firstOf_of_none (andThen_none (sign_none_of_opens opens (by decide)) _)).trans ?_
  refine (firstOf_of_none (andThen_none unsigned _)).trans ?_
  refine (firstOf_of_none (andThen_none (sign_none_of_opens opens (by decide)) _)).trans ?_
  exact firstOf_of_some ((andThen_eq awaited _).trans (andThen_eq noPower _))

theorem factor_of_minus (read : inner.factor tokens = some (value, rest)) :
    factor inner (.sign "-" :: tokens) = some (.unary .minus value, rest) := by
  refine (firstOf_of_none (andThen_none (sign_of_ne (by decide) _) _)).trans ?_
  exact firstOf_of_some ((andThen_eq (sign_cons "-" tokens) _).trans (andThen_eq read _))

/-- The operator of a level. -/
def levelOperator (operators : List (String × BinaryOperator)) : Rule BinaryOperator :=
  firstOf (operators.map fun entry => do sign entry.1; return entry.2)

private theorem levelOperator_none {operators : List (String × BinaryOperator)}
    (refused : ∀ entry ∈ operators, sign entry.1 tokens = none) :
    levelOperator operators tokens = none := by
  refine firstOf_none ?_
  intro rule listed
  obtain ⟨entry, member, rfl⟩ := List.mem_map.mp listed
  exact andThen_none (refused entry member) _

theorem leftAssociative_of_operand {operators : List (String × BinaryOperator)} {operand : Rule Expr}
    (read : operand tokens = some (value, rest))
    (refused : ∀ entry ∈ operators, sign entry.1 rest = none) :
    leftAssociative operators operand tokens = some (value, rest) := by
  have alone := many_of_none (andThen_none (levelOperator_none refused) fun operator => do
    return (operator, ← operand))
  exact (andThen_eq read _).trans (andThen_eq alone _)

theorem term_of_factor (read : factor inner tokens = some (value, rest)) (ends : EndsOperand rest) :
    leftAssociative [("*", .multiply), ("/", .divide), ("//", .floorDivide), ("%", .modulo),
      ("@", .matrixMultiply)] (factor inner) tokens = some (value, rest) := by
  apply leftAssociative_of_operand read
  simp only [List.forall_mem_cons]
  exact ⟨sign_none_of_ends ends (by decide), sign_none_of_ends ends (by decide),
    sign_none_of_ends ends (by decide), sign_none_of_ends ends (by decide),
    sign_none_of_ends ends (by decide), List.forall_mem_nil _⟩

/-- A sum: operands joined by plus and minus. -/
def sum (inner : Rules) : Rule Expr :=
  leftAssociative [("+", .add), ("-", .subtract)]
    (leftAssociative [("*", .multiply), ("/", .divide), ("//", .floorDivide), ("%", .modulo),
      ("@", .matrixMultiply)] (factor inner))

theorem sign_none_of_value {text : String} (ends : EndsValue rest)
    (apart : Token.sign text ∉ valueMarks) : sign text rest = none := by
  obtain ⟨mark, listed, more, rfl⟩ := ends
  exact sign_of_ne (by rintro rfl; exact apart listed) more

theorem sum_of_factor (read : factor inner tokens = some (value, rest)) (ends : EndsValue rest) :
    sum inner tokens = some (value, rest) := by
  apply leftAssociative_of_operand (term_of_factor read ends.operand)
  simp only [List.forall_mem_cons]
  exact ⟨sign_none_of_value ends (by decide), sign_none_of_value ends (by decide),
    List.forall_mem_nil _⟩

theorem leftAssociative_of_operands {operators : List (String × BinaryOperator)}
    {operand : Rule Expr} {left right : Expr} {operator : BinaryOperator} {mark : Token}
    {more : List Token} (first : operand tokens = some (left, mark :: more))
    (between : levelOperator operators (mark :: more) = some (operator, more))
    (second : operand more = some (right, rest)) (shorter : rest.length ≤ more.length)
    (refused : levelOperator operators rest = none) :
    leftAssociative operators operand tokens = some (.binary left operator right, rest) := by
  have repeats : Repeats (do let operator ← levelOperator operators; return (operator, ← operand))
      (mark :: more) [(operator, right)] rest := by
    refine .next ((andThen_eq between _).trans (andThen_eq second _)) ?_ (.done (andThen_none refused _))
    rw [List.length_cons]
    omega
  exact (andThen_eq first _).trans (andThen_eq (many_of_repeats repeats) _)

/-- A sum of two operands. -/
theorem sum_of_factors {left right : Expr} {more : List Token} {minus : Bool}
    (first : factor inner tokens = some (left, .sign (if minus then "-" else "+") :: more))
    (second : factor inner more = some (right, rest)) (shorter : rest.length ≤ more.length)
    (ends : EndsValue rest) :
    sum inner tokens = some (.binary left (if minus then .subtract else .add) right, rest) := by
  apply leftAssociative_of_operands (term_of_factor first ⟨_, by cases minus <;> decide, more, rfl⟩)
    (by cases minus <;> rfl) (term_of_factor second ends.operand) shorter
  apply levelOperator_none
  simp only [List.forall_mem_cons]
  exact ⟨sign_none_of_value ends (by decide), sign_none_of_value ends (by decide),
    List.forall_mem_nil _⟩

/-- A sum is an expression. -/
theorem expression_of_sum (opens : OpensValue tokens) (read : sum inner tokens = some (value, rest))
    (ends : EndsValue rest) : expression inner tokens = some (value, rest) := by
  have noSign {text : String} (apart : Token.sign text ∉ valueMarks) :=
    sign_none_of_value ends apart
  have noWord (text : String) := word_none_of_ends text ends.operand
  have single (text : String) (operator : LogicOperator) {operand : Rule Expr}
      (read : operand tokens = some (value, rest)) :
      logic operator text operand tokens = some (value, rest) := by
    have alone : sepBy1 operand (word text) tokens = some ([value], rest) :=
      (andThen_eq read _).trans (andThen_eq (many_of_none (andThen_none (noWord text) _)) _)
    exact andThen_eq alone _
  have bits : bitOr inner tokens = some (value, rest) := by
    refine leftAssociative_of_operand (leftAssociative_of_operand (leftAssociative_of_operand
      (leftAssociative_of_operand read ?_) ?_) ?_) ?_ <;> simp only [List.forall_mem_cons]
    · exact ⟨noSign (by decide), noSign (by decide), List.forall_mem_nil _⟩
    · exact ⟨noSign (by decide), List.forall_mem_nil _⟩
    · exact ⟨noSign (by decide), List.forall_mem_nil _⟩
    · exact ⟨noSign (by decide), List.forall_mem_nil _⟩
  have compared : compared inner tokens = some (value, rest) := by
    have alone := many_of_none (andThen_none (comparison_none_of_ends ends.operand)
      fun comparison => do return Compared.mk comparison (← bitOr inner))
    exact (andThen_eq bits _).trans (andThen_eq alone _)
  have inversion : inversion inner tokens = some (value, rest) :=
    (firstOf_of_none (andThen_none (word_none_of_opens opens (by decide)) _)).trans
      (firstOf_of_some compared)
  have disjunction : disjunction inner tokens = some (value, rest) :=
    single "or" .or (single "and" .and inversion)
  have noChoice := optional_of_none (andThen_none (noWord "if") fun _ => do
    let test ← inner.disjunction
    word "else"
    return (test, ← inner.expression))
  exact firstOf_of_some ((andThen_eq disjunction _).trans (andThen_eq noChoice _))

end Levels

section Atoms

variable {inner : Rules}

theorem atom_name {text : String} (free : text ∉ keywords) (normal : identifier text = text)
    (rest : List Token) : atom inner (.word text :: rest) = some (.name text, rest) := by
  have read : name (.word text :: rest) = some (text, rest) := by
    simp [name, token, free, normal]
  exact firstOf_of_some (andThen_eq read _)

theorem atom_bool (value : Bool) (rest : List Token) :
    atom inner (.word (if value then "True" else "False") :: rest) =
      some (.constant (.bool value), rest) := by
  cases value <;> rfl

private theorem stringToken_none (ends : EndsOperand rest) : stringToken rest = none := by
  obtain ⟨mark, listed, more, rfl⟩ := ends
  revert mark
  simp [valueMarks, stringToken, token]

theorem atom_string {piece : StringPiece} {value : Expr}
    (joined : joinStrings? inner.embedded [piece] = some value) (ends : EndsOperand rest) :
    atom inner (.string piece :: rest) = some (value, rest) := by
  have pieces : atLeastOne stringToken (.string piece :: rest) = some ([piece], rest) :=
    (andThen_eq rfl _).trans (andThen_eq (many_of_none (stringToken_none ends)) _)
  have read : strings inner (.string piece :: rest) = some (value, rest) := by
    refine (andThen_eq pieces _).trans ?_
    rw [joined]
    rfl
  refine (firstOf_of_none rfl).trans ((firstOf_of_none rfl).trans ((firstOf_of_none rfl).trans
    ((firstOf_of_none rfl).trans (firstOf_of_some read))))

theorem between_eq {opening closing : String} {rule : Rule α} {value : α}
    (read : rule tokens = some (value, .sign closing :: rest)) :
    between opening closing rule (.sign opening :: tokens) = some (value, rest) :=
  (andThen_eq (sign_cons opening tokens) _).trans
    ((andThen_eq read _).trans (andThen_eq (sign_cons closing rest) _))

theorem atom_bracketed {result : Expr × List Token}
    (read : bracketed inner (.sign "(" :: tokens) = some result) :
    atom inner (.sign "(" :: tokens) = some result :=
  (firstOf_of_none rfl).trans ((firstOf_of_none rfl).trans ((firstOf_of_none rfl).trans
    ((firstOf_of_none rfl).trans ((firstOf_of_none rfl).trans ((firstOf_of_none rfl).trans
      (firstOf_of_some read))))))

theorem atom_listDisplay {result : Expr × List Token}
    (read : listDisplay inner (.sign "[" :: tokens) = some result) :
    atom inner (.sign "[" :: tokens) = some result :=
  (firstOf_of_none rfl).trans ((firstOf_of_none rfl).trans ((firstOf_of_none rfl).trans
    ((firstOf_of_none rfl).trans ((firstOf_of_none rfl).trans ((firstOf_of_none rfl).trans
      ((firstOf_of_none rfl).trans (firstOf_of_some read)))))))

theorem atom_braceDisplay {result : Expr × List Token}
    (read : braceDisplay inner (.sign "\x7b" :: tokens) = some result) :
    atom inner (.sign "\x7b" :: tokens) = some result :=
  (firstOf_of_none rfl).trans ((firstOf_of_none rfl).trans ((firstOf_of_none rfl).trans
    ((firstOf_of_none rfl).trans ((firstOf_of_none rfl).trans ((firstOf_of_none rfl).trans
      ((firstOf_of_none rfl).trans ((firstOf_of_none rfl).trans (firstOf_of_some read))))))))

end Atoms

section Items

variable {inner : Rules} {value : Expr}

theorem seesClause_of_ends (ends : EndsValue rest) : seesClause rest = some (false, rest) := by
  have none : firstOf [word "for", word "async"] rest = Option.none := by
    refine firstOf_none ?_
    simp only [List.forall_mem_cons]
    exact ⟨word_none_of_ends _ ends.operand, word_none_of_ends _ ends.operand, List.forall_mem_nil _⟩
  rw [seesClause, sees, none]
  rfl

theorem assignmentExpression_none (opens : OpensValue tokens) :
    assignmentExpression inner tokens = none := by
  obtain ⟨found, -, more, rfl, unnamed | unbound⟩ := opens
  · exact andThen_none unnamed _
  · cases read : name (found :: more) with
    | none => exact andThen_none read _
    | some result =>
      obtain ⟨text, rest⟩ := result
      obtain rfl : rest = more := by
        unfold name token at read
        grind
      exact (andThen_eq read _).trans (andThen_none unbound _)

private theorem namedExpression_of_expression (opens : OpensValue tokens)
    (read : inner.expression tokens = some (value, rest)) :
    namedExpression inner tokens = some (value, rest) :=
  (firstOf_of_none (assignmentExpression_none opens)).trans (firstOf_of_some read)

theorem displayItem_of_expression (opens : OpensValue tokens)
    (read : inner.expression tokens = some (value, rest)) :
    displayItem inner tokens = some (value, rest) :=
  (firstOf_of_none (andThen_none (sign_none_of_opens opens (by decide)) _)).trans
    (firstOf_of_some (namedExpression_of_expression opens read))

/-- Items that each stand behind a comma are read one after the other. -/
theorem repeats_items {item : Rule α} {values : List β} {spell : β → List Token} {result : β → α}
    (each : ∀ value ∈ values, ∀ rest, EndsValue rest →
      item (spell value ++ rest) = some (result value, rest))
    (ends : EndsValue rest) (refused : after (sign ",") item rest = none) :
    Repeats (after (sign ",") item) (values.flatMap (fun value => .sign "," :: spell value) ++ rest)
      (values.map result) rest := by
  induction values with
  | nil => exact .done refused
  | cons value values ih =>
    have others := ih fun value member => each value (List.mem_cons_of_mem _ member)
    have behind : EndsValue (values.flatMap (fun value => .sign "," :: spell value) ++ rest) := by
      cases values with
      | nil => exact ends
      | cons next values => exact ⟨.sign ",", by decide, _, rfl⟩
    have read := each value List.mem_cons_self _ behind
    rw [List.flatMap_cons, List.append_assoc, List.cons_append]
    refine .next ((andThen_eq (sign_cons "," _) _).trans read) ?_ others
    simp only [List.length_cons, List.length_append]
    omega

theorem furtherItems_of_none (item : Rule α) (refused : sign "," tokens = none) :
    furtherItems item tokens = some (([], false), tokens) :=
  (andThen_eq (many_of_none (andThen_none refused _)) _).trans (andThen_eq (flag_of_none refused) _)

/-- The rest of a row, up to its closing bracket. -/
theorem furtherItems_of_closing {item : Rule α} {values : List β} {spell : β → List Token}
    {result : β → α} (each : ∀ value ∈ values, ∀ rest, EndsValue rest →
      item (spell value ++ rest) = some (result value, rest))
    (closing : String) (mark : Token.sign closing ∈ valueMarks) (other : closing ≠ ",")
    (rest : List Token) :
    furtherItems item (values.flatMap (fun value => .sign "," :: spell value) ++
      .sign closing :: rest) = some ((values.map result, false), .sign closing :: rest) := by
  have noComma : sign "," (.sign closing :: rest) = none := sign_of_ne (by simpa using other) rest
  have repeats := repeats_items each ⟨_, mark, rest, rfl⟩ (andThen_none noComma _)
  exact (andThen_eq (many_of_repeats repeats) _).trans (andThen_eq (flag_of_none noComma) _)

/-- A comma that a closing bracket follows. -/
theorem furtherItems_of_comma {item : Rule α} {closing : String} {rest : List Token}
    (refused : item (.sign closing :: rest) = none) :
    furtherItems item (.sign "," :: .sign closing :: rest) =
      some (([], true), .sign closing :: rest) := by
  have none : after (sign ",") item (.sign "," :: .sign closing :: rest) = Option.none :=
    (andThen_eq (sign_cons "," _) _).trans refused
  exact (andThen_eq (many_of_none none) _).trans rfl

variable {depth : Nat}

theorem ofDepth_closed {mark : Token} (listed : mark ∈ valueMarks) (rest : List Token) :
    (Rules.ofDepth depth).expression (mark :: rest) = none := by
  cases depth with
  | zero => rfl
  | succ depth => exact expression_none (EndsValue.closed listed) _ rest

theorem namedExpression_closed {mark : Token} (listed : mark ∈ valueMarks) (rest : List Token) :
    namedExpression (Rules.ofDepth depth) (mark :: rest) = none := by
  refine firstOf_none ?_
  simp only [List.forall_mem_cons]
  exact ⟨andThen_none (closed_name (EndsValue.closed listed) rest) _, ofDepth_closed listed rest,
    List.forall_mem_nil _⟩

theorem displayItem_closed {mark : Token} (listed : mark ∈ valueMarks) (rest : List Token) :
    displayItem (Rules.ofDepth depth) (mark :: rest) = none := by
  refine firstOf_none ?_
  simp only [List.forall_mem_cons]
  exact ⟨andThen_none (closed_sign (EndsValue.closed listed) rest (by decide)) _,
    namedExpression_closed listed rest, List.forall_mem_nil _⟩

end Items

end Rule

end Blueprint.ServerCode
