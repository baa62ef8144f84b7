import Blueprint.Proofs.ServerCode.LiteralDisplays

namespace Blueprint.ServerCode

namespace Literal

open Rule

variable {rest : List Token} {depth : Nat}

theorem isOperand_float (x : Double) :
    IsOperand (numberToken x (.float (unsigned x))) (magnitudeExpr (unsigned x)) := by
  rcases x with _ | negative | negative
  · exact isOperand_name (by decide) (by decide) (by decide)
  · cases negative <;> exact isOperand_name (by decide) (by decide) (by decide)
  · cases negative <;> exact isOperand_number _

theorem isOperand_imaginary (x : Double) :
    IsOperand (imaginaryToken x) (imaginaryExpr (unsigned x)) := by
  rcases x with _ | negative | negative
  · exact isOperand_name (by decide) (by decide) (by decide)
  · cases negative <;> exact isOperand_name (by decide) (by decide) (by decide)
  · cases negative <;> exact isOperand_number _

/-- The real part of a sum without its sign. -/
def shortExpr (x : Double) : Expr :=
  match x.whole? with
  | some whole => .constant (.int whole)
  | Option.none => magnitudeExpr (unsigned x)

theorem realExpr_eq (x : Double) : realExpr x = signed x.isNegative (shortExpr x) := by
  have same : (unsigned x).whole? = x.whole? := by
    rcases x with _ | negative | ⟨negative, mantissa, exponent, fits⟩
    · rfl
    · cases negative <;> rfl
    · cases negative <;> cases mantissa <;> rfl
  cases found : x.whole? <;> simp only [realExpr, shortExpr, same, found]

theorem isOperand_short (x : Double) : IsOperand (numberToken x (shortConstant x)) (shortExpr x) := by
  unfold shortConstant shortExpr
  cases found : x.whole? with
  | none => exact isOperand_float x
  | some whole =>
    cases x with
    | finite => exact isOperand_number _
    | _ => cases found

theorem complexExpr_eq (real imaginary : Double) :
    complexExpr real imaginary =
      if isHidden real then signed imaginary.isNegative (imaginaryExpr (unsigned imaginary))
      else
        .binary (realExpr real) (if imaginary.isNegative then .subtract else .add)
          (imaginaryExpr (unsigned imaginary)) := by
  rcases real with _ | _ | ⟨negative, mantissa, exponent, fits⟩
  · rfl
  · rfl
  · cases negative <;> cases mantissa <;> rfl

private theorem opens_complex (real imaginary : Double) (ends : EndsOperand rest) :
    OpensValue (complexTokens real imaginary ++ rest) := by
  unfold complexTokens
  split
  · rw [List.append_assoc]
    exact opens_signed (isOperand_imaginary imaginary) _ ends
  · exact opens_of_sign (by decide) _

/-- A complex number in brackets is a sum. -/
theorem expression_complex (real imaginary : Double)
    (room : (complexTokens real imaginary).length ≤ depth) (ends : EndsValue rest) :
    (Rules.ofDepth depth).expression (complexTokens real imaginary ++ rest) =
      some (complexExpr real imaginary, rest) := by
  rw [complexExpr_eq]
  unfold complexTokens at room ⊢
  split
  · next hidden =>
    rw [if_pos hidden, List.length_append] at room
    rw [List.append_assoc]
    exact expression_signed (isOperand_imaginary imaginary) _ room ends
  · next shown =>
    rw [if_neg shown] at room
    simp only [within, List.length_cons, List.length_append, List.length_nil] at room
    obtain ⟨inside, rfl⟩ : ∃ inside, depth = inside + 2 := ⟨depth - 2, by omega⟩
    have closes : EndsValue (.sign ")" :: rest) := ⟨_, by decide, rest, rfl⟩
    have more : EndsOperand (.sign (if imaginary.isNegative then "-" else "+") ::
        imaginaryToken imaginary :: .sign ")" :: rest) :=
      ⟨_, by cases imaginary.isNegative <;> decide, _, rfl⟩
    have first := factor_signed (isOperand_short real) real.isNegative
      (by omega : _ ≤ inside) more
    have second := factor_signed (isOperand_imaginary imaginary) false (Nat.zero_le inside)
      closes.operand
    have sum := sum_of_factors first second (Nat.le_succ _) closes
    have opens := opens_signed (isOperand_short real) real.isNegative more
    have read := bracketed_single opens
      (show (Rules.ofDepth (inside + 1)).expression _ = _ from expression_of_sum opens sum closes)
      (fun _ same => by cases same)
    rw [← realExpr_eq] at read
    simp only [within, List.cons_append, List.append_assoc]
    exact expression_of_bracket (by decide) (by decide) (atom_bracketed read) ends

private theorem joinStrings?_text (text : String) (read : List Char → Option Expr) :
    joinStrings? read
      [{ kind := .text, raw := false, marked := false, body := textBody text.toList }] =
        some (.constant (.text text false)) := by
  have decoded := decodeText?_textBody text.toList
  rw [String.ofList_toList] at decoded
  simp [joinStrings?, decoded, String.join]

private theorem joinStrings?_bytes (bytes : List UInt8) (read : List Char → Option Expr) :
    joinStrings? read
      [{ kind := .bytes, raw := false, marked := false, body := bytesBody bytes }] =
        some (.constant (.bytes bytes)) := by
  simp [joinStrings?, decodeBytes?_bytesBody bytes]

theorem toExprs_eq (items : List Literal) : toExprs items = items.map toExpr := by
  induction items with
  | nil => rfl
  | cons item items ih => rw [toExprs, List.map_cons, ih]

private theorem toEntries_eq (entries : List (Literal × Literal)) :
    toEntries entries = entries.map fun entry => .pair entry.1.toExpr entry.2.toExpr := by
  induction entries with
  | nil => rfl
  | cons entry entries ih => rw [toEntries, List.map_cons, ih]

/-- The tokens of a value start like a value. -/
theorem opens_tokens (value : Literal) (ends : EndsOperand rest) :
    OpensValue (value.tokens ++ rest) := by
  have unbound : sign ":=" rest = Option.none := sign_none_of_ends ends (by decide)
  cases value with
  | none => exact opens_of_word (by decide) unbound
  | ellipsis => exact opens_of_word (by decide) unbound
  | bool value => cases value <;> exact opens_of_word (by decide) unbound
  | int value =>
    rw [tokens, List.append_assoc]
    exact opens_signed (isOperand_number _) _ ends
  | float value =>
    rw [tokens, List.append_assoc]
    exact opens_signed (isOperand_float value) _ ends
  | complex real imaginary => exact opens_complex real imaginary ends
  | text value => exact (isOperand_string (joinStrings?_text value)).opens rest ends
  | bytes value => exact (isOperand_string (joinStrings?_bytes value)).opens rest ends
  | tuple items =>
    unfold tokens
    split <;> exact opens_of_sign (by decide) _
  | list items => exact opens_of_sign (by decide) _
  | set items =>
    unfold tokens
    split
    · exact opens_of_word (by decide) (sign_of_ne (by decide) _)
    · exact opens_of_sign (by decide) _
  | dict entries => exact opens_of_sign (by decide) _

theorem length_le_row {rows : List (List Token)} {tokens : List Token} (member : tokens ∈ rows) :
    tokens.length ≤ (row rows).length := by
  cases rows with
  | nil => cases member
  | cons first others =>
    rw [row_cons, List.length_append]
    rcases List.mem_cons.mp member with rfl | member
    · exact Nat.le_add_right _ _
    · obtain ⟨before, behind, rfl⟩ := List.append_of_mem member
      simp
      omega

private theorem tokens_pos (value : Literal) : 0 < value.tokens.length := by
  cases value with
  | complex real imaginary =>
    rw [tokens, complexTokens]
    split <;> simp [within]
  | tuple items =>
    unfold tokens
    split <;> simp [within]
  | set items =>
    unfold tokens
    split <;> simp [within]
  | _ => simp [tokens, within]

/-- A part of a value has fewer tokens: there are brackets around it. -/
theorem length_tokens_part {value part : Literal} (member : part ∈ value.parts) :
    part.tokens.length < value.tokens.length := by
  have listed {items : List Literal} (inside : part ∈ items) :
      part.tokens.length ≤ (row (tokensAll items)).length := by
    rw [tokensAll_eq]
    exact length_le_row (List.mem_map_of_mem inside)
  cases value with
  | tuple items =>
    have short := listed (show part ∈ items from member)
    rcases items with _ | ⟨item, _ | ⟨second, items⟩⟩
    · cases member
    · obtain rfl := List.mem_singleton.mp (show part ∈ [item] from member)
      change _ < (within "(" ")" (part.tokens ++ [Token.sign ","])).length
      simp only [within, List.length_cons, List.length_append]
      omega
    · change _ < (within "(" ")" (row (tokensAll (item :: second :: items)))).length
      simp only [within, List.length_cons, List.length_append]
      omega
  | list items =>
    have short := listed (show part ∈ items from member)
    simp only [tokens, within, List.length_cons, List.length_append]
    omega
  | set items =>
    have short := listed (show part ∈ items from member)
    have some : items.isEmpty = false := List.isEmpty_eq_false_iff.mpr (List.ne_nil_of_mem member)
    simp only [tokens, some, within, Bool.false_eq_true, if_false, List.length_cons, List.length_append]
    omega
  | dict entries =>
    obtain ⟨entry, written, which⟩ := List.mem_flatMap.mp member
    have short := length_le_row (List.mem_map_of_mem (f := entrySpelling) written)
    have within : part.tokens.length ≤ (entrySpelling entry).length := by
      simp only [List.mem_cons, List.not_mem_nil, or_false] at which
      rcases which with rfl | rfl <;> simp [entrySpelling]
      omega
    rw [tokens, entryTokens_eq]
    change _ < (Literal.within "\x7b" "\x7d" (row (entries.map entrySpelling))).length
    simp only [Literal.within, List.length_cons, List.length_append]
    omega
  | _ => cases member

section Displays

variable {inside : Nat} {items : List Literal} {entries : List (Literal × Literal)}

theorem expression_tuple (parts : ReadsItems (Rules.ofDepth inside) items) (ends : EndsValue rest) :
    (Rules.ofDepth (inside + 1)).expression ((tuple items).tokens ++ rest) =
      some ((tuple items).toExpr, rest) := by
  rcases items with _ | ⟨item, _ | ⟨second, items⟩⟩
  · exact expression_of_bracket (by decide) (by decide) (atom_bracketed (bracketed_empty rest)) ends
  · have comma : EndsValue (.sign "," :: .sign ")" :: rest) := ⟨_, by decide, _, rfl⟩
    obtain ⟨opens, first⟩ := parts item List.mem_cons_self _ comma
    have read := bracketed_comma opens first
    simp only [tokens, within, toExpr, toExprs, List.cons_append, List.append_assoc]
    exact expression_of_bracket (by decide) (by decide) (atom_bracketed read) ends
  · have read := bracketed_row parts rest
    simp only [tokens, tokensAll_eq, within, toExpr, toExprs_eq, List.cons_append, List.append_assoc]
    exact expression_of_bracket (by decide) (by decide) (atom_bracketed read) ends

theorem expression_list (parts : ReadsItems (Rules.ofDepth inside) items) (ends : EndsValue rest) :
    (Rules.ofDepth (inside + 1)).expression ((list items).tokens ++ rest) =
      some ((list items).toExpr, rest) := by
  simp only [tokens, tokensAll_eq, within, toExpr, toExprs_eq, List.cons_append, List.append_assoc]
  cases items with
  | nil =>
    exact expression_of_bracket (by decide) (by decide) (atom_listDisplay (listDisplay_empty rest)) ends
  | cons first items =>
    have read := listDisplay_row parts rest
    exact expression_of_bracket (by decide) (by decide) (atom_listDisplay read) ends

theorem expression_set (parts : ReadsItems (Rules.ofDepth inside) items) (ends : EndsValue rest) :
    (Rules.ofDepth (inside + 1)).expression ((set items).tokens ++ rest) =
      some ((set items).toExpr, rest) := by
  cases items with
  | nil =>
    have opens : OpensValue (.word "set" :: .sign "(" :: .sign ")" :: rest) :=
      opens_of_word (by decide) (sign_of_ne (by decide) _)
    have read : primary (Rules.ofDepth inside) _ = _ := primary_emptySet ends.operand
    have factor := factor_of_primary opens rfl read ends.operand
    exact expression_of_sum opens (sum_of_factor factor ends) ends
  | cons first items =>
    have read := braceDisplay_row parts rest
    simp only [tokens, tokensAll_eq, within, toExpr, toExprs_eq, List.isEmpty_cons,
      Bool.false_eq_true, if_false, List.cons_append, List.append_assoc]
    exact expression_of_bracket (by decide) (by decide) (atom_braceDisplay read) ends

private theorem expression_dict (parts : ReadsItems (Rules.ofDepth inside) (dict entries).parts)
    (ends : EndsValue rest) :
    (Rules.ofDepth (inside + 1)).expression ((dict entries).tokens ++ rest) =
      some ((dict entries).toExpr, rest) := by
  simp only [tokens, entryTokens_eq, within, toExpr, toEntries_eq, List.cons_append,
    List.append_assoc]
  cases entries with
  | nil =>
    exact expression_of_bracket (by decide) (by decide) (atom_braceDisplay (braceDisplay_empty rest)) ends
  | cons entry entries =>
    have read := braceDisplay_entries parts rest
    exact expression_of_bracket (by decide) (by decide) (atom_braceDisplay read) ends

end Displays

/-- The tokens of a value are read as its expression, with as many levels of rules as there are
tokens. -/
theorem expression_tokens (value : Literal) :
    ∀ depth, value.tokens.length ≤ depth → ∀ rest, EndsValue rest →
      (Rules.ofDepth depth).expression (value.tokens ++ rest) = some (value.toExpr, rest) := by
  induction value using induction with
  | step value ih =>
    intro depth room rest ends
    obtain ⟨inside, rfl⟩ := Nat.exists_eq_succ_of_ne_zero
      (Nat.ne_of_gt (Nat.lt_of_lt_of_le (tokens_pos value) room))
    -- Inside a bracket the rules are one level down.
    have parts : ReadsItems (Rules.ofDepth inside) value.parts := by
      intro part member rest ends
      have few : part.tokens.length ≤ inside :=
        Nat.le_of_lt_succ (Nat.lt_of_lt_of_le (length_tokens_part member) room)
      exact ⟨opens_tokens part ends.operand, ih part member inside few rest ends⟩
    cases value with
    | none =>
      exact expression_signed (isOperand_word (by decide) fun _ _ => rfl) false room ends
    | ellipsis => exact expression_signed (isOperand_name (by decide) (by decide) (by decide)) false room ends
    | bool value =>
      have operand : IsOperand (.word (if value then "True" else "False")) (.constant (.bool value)) :=
        isOperand_word (by cases value <;> decide) fun _ rest => atom_bool value rest
      exact expression_signed operand false room ends
    | int value =>
      rw [tokens, List.length_append] at room
      rw [tokens, List.append_assoc]
      simpa [toExpr] using expression_signed (isOperand_number _) (decide (value < 0)) room ends
    | float value =>
      rw [tokens, List.length_append] at room
      rw [tokens, List.append_assoc]
      exact expression_signed (isOperand_float value) value.isNegative room ends
    | complex real imaginary => exact expression_complex real imaginary room ends
    | text value => exact expression_signed (isOperand_string (joinStrings?_text value)) false room ends
    | bytes value => exact expression_signed (isOperand_string (joinStrings?_bytes value)) false room ends
    | tuple items => exact expression_tuple parts ends
    | list items => exact expression_list parts ends
    | set items => exact expression_set parts ends
    | dict entries => exact expression_dict parts ends

theorem readWhole_of_tokens {α : Type} {rule : Rules → Nat → Rule α} {text : String}
    {tokens : List Token} {value : α} (read : tokens? text.toList = some tokens)
    (whole : rule (Rules.ofDepth (text.toList.length + 1)) (text.toList.length + 1) tokens =
      some (value, [])) (plain : text.toList.contains '\x00' = false) :
    readWhole rule text = .ok value := by
  have bound : (tokens? text.toList).bind
      (rule (Rules.ofDepth (text.toList.length + 1)) (text.toList.length + 1)) =
        some (value, []) := by
    rw [read]
    exact whole
  unfold readWhole
  simp only [bound, plain]
  rfl

private theorem readWhole_of_none {α : Type} (rule : Rules → Nat → Rule α) {text : String}
    (unread : tokens? text.toList = Option.none) :
    readWhole rule text = .error .unreadableCode := by
  unfold readWhole
  simp only [unread]
  rfl

/-- The text of a value is read as its expression, as long as no more brackets are open at once than
may be. -/
theorem readExpr_print (value : Literal) (digits : value.hasDigits = true) :
    readExpr value.print =
      if value.depth ≤ mostBrackets then .ok value.toExpr else .error .unreadableCode := by
  have ends : Ends [] := fun _ nothing => by cases nothing
  have reads := reads_print value digits [] ends
  have plain : value.print.toList.contains '\x00' = false := by
    simpa using fun member => reads.plain _ member (by decide)
  have room : value.tokens.length ≤ value.print.toList.length + 1 := reads.few.trans (Nat.le_succ _)
  have line : EndsValue [.newline] := ⟨.newline, by decide, [], rfl⟩
  have expression := expression_tokens value _ room [.newline] line
  have alone : Rule.commaList (Rules.ofDepth (value.print.toList.length + 1)).expression
      (value.tokens ++ [Token.newline]) = some (([value.toExpr], false), [.newline]) := by
    have single : Rule.sepBy1 (Rules.ofDepth (value.print.toList.length + 1)).expression (sign ",")
        (value.tokens ++ [Token.newline]) = some ([value.toExpr], [.newline]) :=
      (andThen_eq expression _).trans
        (andThen_eq (many_of_none (andThen_none (sign_of_ne (by decide) _) _)) _)
    exact (andThen_eq single _).trans (andThen_eq (flag_of_none (sign_of_ne (by decide) _)) _)
  have whole {next : List Expr × Bool → Rule Expr}
      (last : next ([value.toExpr], false) [.newline] = some (value.toExpr, [])) :
      (Rule.commaList (Rules.ofDepth (value.print.toList.length + 1)).expression >>= next)
        (value.tokens ++ [Token.newline]) = some (value.toExpr, []) :=
    (andThen_eq alone next).trans last
  by_cases few : value.depth ≤ mostBrackets
  · have read := tokens?_print value digits
    rw [if_pos few] at read ⊢
    exact readWhole_of_tokens read (whole rfl) plain
  · have unread := tokens?_print value digits
    rw [if_neg few] at unread ⊢
    exact readWhole_of_none _ unread

end Literal

end Blueprint.ServerCode
