import Blueprint.Proofs.ServerCode.BodyText
import Blueprint.Proofs.ServerCode.Editing
import Blueprint.Proofs.ServerCode.FunctionHeads

/-!
The placeholders of kept bodies. Whatever methods are added and bodies spliced in, and whichever of
these calls fail, each call that succeeds leaves one placeholder with a number of its own, and in the
printed module the body of that call stands in its place. A body is not searched for placeholders.
-/

namespace Blueprint.ServerCode.Module

open Text

/-- The placeholders among some printed lines: their indentations and numbers. -/
def marks (lines : List String) : List (List Char × Nat) :=
  lines.filterMap fun line => placeholderLine? line.toList

section Marks

variable {level : Nat} {text : String}

theorem marks_append (front back : List String) : marks (front ++ back) = marks front ++ marks back :=
  List.filterMap_append

private theorem marks_cons (line : String) (lines : List String) :
    marks (line :: lines) = (placeholderLine? line.toList).toList ++ marks lines := by
  rw [marks, List.filterMap_cons]
  cases placeholderLine? line.toList <;> rfl

variable {spaces : Nat} {c : Char} {rest : List Char}

private theorem takeWhile_spaces (shown : isIndent c = false) :
    (List.replicate spaces ' ' ++ c :: rest).takeWhile isIndent = List.replicate spaces ' ' :=
  takeWhile_append_stop (by simp [isIndent]) (by simpa using shown)

theorem marks_placeholder (level index : Nat) :
    marks ((placeholder index).lines level) = [(List.replicate (4 * level) ' ', index)] := by
  have digits : ∀ c ∈ Nat.toDigits 10 index, isDecimal c = true := fun c member =>
    isDecimal_of_isDigit (Nat.isDigit_of_mem_toDigits (by decide) (by decide) member)
  have stops : ∀ c ∈ [')'].head?, isDecimal c = false := by decide
  have printed : (lineAt level ((Expr.call (.name placeholderName) [.constant (.int index)] []).print
      false Strength.yield)).toList = List.replicate (4 * level) ' ' ++
        '_' :: ("_verbatim__(".toList ++ (Nat.toDigits 10 index ++ [')'])) := by
    have call : (Expr.call (.name placeholderName) [.constant (.int index)] []).print false
        Strength.yield = placeholderName ++ "(" ++ ", ".intercalate [index.repr] ++ ")" := rfl
    rw [toList_lineAt, call]
    simp [placeholderName]
  have found : placeholderLine? (List.replicate (4 * level) ' ' ++
      '_' :: ("_verbatim__(".toList ++ (Nat.toDigits 10 index ++ [')']))) =
        some (List.replicate (4 * level) ' ', index) := by
    have opened : after? (placeholderName.toList ++ ['('])
        ('_' :: ("_verbatim__(".toList ++ (Nat.toDigits 10 index ++ [')']))) =
          some (Nat.toDigits 10 index ++ [')']) :=
      after?_append (placeholderName.toList ++ ['(']) _
    have some_digits : (Nat.toDigits 10 index).isEmpty = false := by simp [Nat.toDigits_ne_nil]
    rw [placeholderLine?, dropWhile_spaces rfl, takeWhile_spaces rfl, opened]
    simp only [Option.bind_eq_bind, Option.bind_some, takeWhile_append_stop digits stops,
      dropWhile_append_stop digits stops, some_digits, foldl_toDigits]
    rfl
  rw [placeholder, Statement.lines, marks_cons, printed, found]
  rfl

end Marks

section Printing

variable {level : Nat}

/-- Something that starts with one of the two quotes. -/
def StartsQuoted (text : List Char) : Prop := text.head? = some '\'' ∨ text.head? = some '"'

theorem StartsQuoted.append {text : List Char} (starts : StartsQuoted text) (rest : List Char) :
    StartsQuoted (text ++ rest) := by
  cases text with
  | nil => exact absurd starts (by simp [StartsQuoted])
  | cons c text => exact starts

theorem startsQuoted_quoteFor (text rest : List Char) : StartsQuoted (quoteFor text :: rest) := by
  unfold quoteFor
  split
  · exact .inr rfl
  · exact .inl rfl

/-- Only quotes are chosen to stand around a text. -/
theorem startsQuoted_fitQuotes {quotes : List (List Char)} (known : ∀ quote ∈ quotes, StartsQuoted quote)
    (text : List Char) (escapeBlanks : Bool) :
    ∀ quote ∈ (fitQuotes text quotes escapeBlanks).2, StartsQuoted quote := by
  simp only [fitQuotes]
  generalize text.flatMap _ = escaped
  have fitting : ∀ quote ∈ (if escaped.contains '\n' then quotes.filter (·.length == 3)
      else quotes).filter fun quote => !occursIn quote escaped, StartsQuoted quote := by
    intro quote member
    have kept := List.mem_of_mem_filter member
    split at kept
    · exact known quote (List.mem_of_mem_filter kept)
    · exact known quote kept
  generalize (if escaped.contains '\n' then quotes.filter (·.length == 3) else quotes).filter
    (fun quote => !occursIn quote escaped) = fitted at fitting ⊢
  split
  · intro quote member
    obtain rfl := List.mem_singleton.mp member
    cases found : quotes.find? fun candidate => occursIn ((quotedChars text).take 1) candidate with
    | none => exact startsQuoted_quoteFor text []
    | some quote => exact known quote (List.mem_of_find?_eq_some found)
  · split
    · exact fitting
    · intro quote member
      simp only [apply_ite Prod.snd, ite_self] at member
      rcases List.mem_append.mp member with apart | clashing
      · exact fitting quote (List.mem_of_mem_filter apart)
      · exact fitting quote (List.mem_of_mem_filter clashing)

theorem startsQuoted_textBetween (value : String) :
    StartsQuoted (textBetween longQuotes value).toList := by
  have known : ∀ quote ∈ longQuotes, StartsQuoted quote := by
    simp [longQuotes, StartsQuoted]
  rw [textBetween]
  simp only [String.toList_ofList]
  have quote : StartsQuoted
      ((fitQuotes value.toList longQuotes false).2.head?.getD ['\'']) := by
    cases chosen : (fitQuotes value.toList longQuotes false).2.head? with
    | none => exact .inl rfl
    | some quote =>
      exact startsQuoted_fitQuotes known value.toList false quote (List.mem_of_mem_head? chosen)
  exact (quote.append _).append _

private theorem startsQuoted_quoted (value : String) : StartsQuoted (quoted value).toList := by
  rw [quoted, String.toList_ofList]
  exact startsQuoted_quoteFor _ _

theorem marks_single {text : String} {c : Char} (starts : text.toList.head? = some c)
    (shown : isIndent c = false) (other : c ≠ '_') : marks [lineAt level text] = [] := by
  rw [marks_cons, placeholderLine?_lineAt_none starts shown other]
  rfl

private theorem marks_text {text : String} (marked : Bool) (starts : StartsQuoted text.toList) :
    marks [lineAt level ((if marked then "u" else "") ++ text)] = [] := by
  cases marked with
  | true => exact marks_single (c := 'u') (by simp) rfl (by decide)
  | false =>
    rcases starts with single | double
    · exact marks_single (by simpa using single) rfl (by decide)
    · exact marks_single (by simpa using double) rfl (by decide)

/-- Documentation is no placeholder, nor is it one where it is an expression. -/
theorem marks_scopeLines (body : List Statement) :
    marks (Statement.scopeLines level body) = marks (Statement.linesOf level body) := by
  cases body with
  | nil => rfl
  | cons statement rest =>
    rw [Statement.scopeLines, Statement.linesOf, marks_append, marks_append]
    congr 1
    cases shape : documentation? statement with
    | none => rfl
    | some text =>
      unfold documentation? at shape
      split at shape
      · cases shape
        rename_i value marked
        rw [marks_text marked (startsQuoted_textBetween value), Statement.lines]
        exact (marks_text marked (startsQuoted_quoted value)).symm
      · cases shape

theorem marks_decoratorLines (decorators : List Expr) : marks (decoratorLines level decorators) = [] := by
  induction decorators with
  | nil => rfl
  | cons decorator decorators ih =>
    rw [decoratorLines, List.map_cons, ← List.singleton_append, marks_append]
    rw [marks_single (c := '@') (by simp) rfl (by decide)]
    exact ih

theorem marks_block {head : String} {c : Char} (starts : head.toList.head? = some c)
    (shown : isIndent c = false) (other : c ≠ '_') (decorators : List Expr) (body : List Statement) :
    marks ("" :: decoratorLines level decorators ++
        lineAt level head :: Statement.scopeLines (level + 1) body) =
      marks (Statement.linesOf (level + 1) body) := by
  calc marks ("" :: decoratorLines level decorators ++
        lineAt level head :: Statement.scopeLines (level + 1) body)
      = marks (decoratorLines level decorators) ++ (marks [lineAt level head] ++
          marks (Statement.scopeLines (level + 1) body)) := by
        rw [← marks_append, ← marks_append]
        rfl
    _ = marks (Statement.linesOf (level + 1) body) := by
        rw [marks_decoratorLines, marks_single starts shown other, marks_scopeLines]
        rfl

theorem marks_function (isAsync : Bool) (name : String) (params : Params) (returns : Option Expr)
    (decorators : List Expr) (body : List Statement) :
    marks ((Statement.function isAsync name params returns decorators body).lines level) =
      marks (Statement.linesOf (level + 1) body) := by
  cases isAsync with
  | true => exact marks_block (c := 'a') (by simp) rfl (by decide) decorators body
  | false => exact marks_block (c := 'd') (by simp) rfl (by decide) decorators body

private theorem marks_classDef (name : String) (bases : List Expr) (keywords : List Keyword)
    (decorators : List Expr) (body : List Statement) :
    marks ((Statement.classDef name bases keywords decorators body).lines level) =
      marks (Statement.linesOf (level + 1) body) :=
  marks_block (c := 'c') (by simp) rfl (by decide) decorators body

theorem marks_filter_isPass (body : List Statement) :
    marks (Statement.linesOf level (body.filter (!·.isPass))) = marks (Statement.linesOf level body) := by
  induction body with
  | nil => rfl
  | cons statement body ih =>
    cases idle : statement.isPass with
    | false =>
      rw [List.filter_cons_of_pos (by simp [idle]), Statement.linesOf, Statement.linesOf, marks_append,
        marks_append, ih]
    | true =>
      obtain rfl : statement = .pass := by
        cases statement <;> first | rfl | cases idle
      rw [List.filter_cons_of_neg (by simp [idle]), ih, Statement.linesOf, marks_append, Statement.lines,
        marks_single (c := 'p') (by simp) rfl (by decide)]
      rfl

end Printing

section Changes

variable {level : Nat} {accepts : Statement → Bool} {change : Statement → Statement}
  {target : Statement} {more : List (List Char × Nat)} {body : List Statement}

/-- What a change of the first accepted statement adds is added to the whole. -/
theorem marks_changeFirst (found : body.find? accepts = some target)
    (changed : (marks ((change target).lines level)).Perm (marks (target.lines level) ++ more)) :
    (marks (Statement.linesOf level (changeFirst accepts change body))).Perm
      (marks (Statement.linesOf level body) ++ more) := by
  induction body with
  | nil => cases found
  | cons statement body ih =>
    rw [changeFirst]
    cases here : accepts statement with
    | true =>
      rw [List.find?_cons_of_pos here] at found
      cases found
      rw [if_pos rfl, Statement.linesOf, Statement.linesOf, marks_append, marks_append]
      refine (changed.append_right _).trans ?_
      rw [List.append_assoc, List.append_assoc]
      exact List.perm_append_comm.append_left _
    | false =>
      rw [List.find?_cons_of_neg (by simp [here])] at found
      rw [if_neg Bool.false_ne_true, Statement.linesOf, Statement.linesOf, marks_append, marks_append,
        List.append_assoc]
      exact (ih found).append_left _

private theorem marks_insertAll (items : List Statement) (index : Nat) (body : List Statement) :
    (marks (Statement.linesOf level (insertAll items index body))).Perm
      (marks (Statement.linesOf level body) ++ marks (Statement.linesOf level items)) := by
  have whole := congrArg (marks ∘ Statement.linesOf level) (List.take_append_drop index body)
  simp only [Function.comp_apply, linesOf_append, marks_append] at whole
  rw [insertAll, linesOf_append, linesOf_append, marks_append, marks_append, ← whole,
    List.append_assoc, List.append_assoc]
  exact List.perm_append_comm.append_left _

/-- The placeholders of a module. -/
def codeMarks (module : Module) : List (List Char × Nat) := marks (Statement.linesOf 0 module.body)

/-- What a change of the statements of a class adds is added to the module. -/
theorem codeMarks_changeClass (module : Module) {name : String} {own : List Statement}
    {change : List Statement → List Statement} (found : module.getClass name = .ok own)
    (changed : (marks (Statement.linesOf 1 (change own))).Perm
      (marks (Statement.linesOf 1 own) ++ more)) :
    (codeMarks (module.changeClass name change)).Perm (codeMarks module ++ more) := by
  unfold getClass at found
  split at found
  · rename_i target here
    refine marks_changeFirst here ?_
    have named := List.find?_some here
    cases target with
    | classDef name bases keywords decorators body =>
      cases found
      rw [changeClassBody, marks_classDef, marks_classDef]
      exact changed
    | _ => cases named
  · cases found

end Changes

/-- A call that keeps a body: a method is added, or the body is spliced into a method. -/
inductive BodyCall where
  | method (className : String) (header : Header) (prologue : List String) (body : String)
  | splice (className method body position : String) (aliases : List (String × String))

namespace BodyCall

/-- The body that a call keeps. -/
def body : BodyCall → String
  | method _ _ _ body | splice _ _ body _ _ => body

/-- The statements ahead of the body, as they are given. -/
def lead : BodyCall → List String
  | method _ _ prologue _ => prologue
  | splice _ _ _ _ aliases => aliases.map fun entry => entry.1 ++ " = " ++ entry.2

/-- The placeholders that the statements ahead of the body ask for themselves. -/
def leadMarks (call : BodyCall) : List (List Char × Nat) :=
  marks (Statement.linesOf 2 ((call.lead.mapM readBlock).toOption.getD []).flatten)

/-- What becomes of a module. A splice that fails leaves it as it is. -/
def run (module : Module) : BodyCall → Edited
  | method className header prologue body => module.addMethod className header prologue body
  | splice className operation body position aliases =>
    match module.splice className operation body position aliases with
    | .ok changed => { module := changed }
    | .error failure => { module, failure := some failure }

/-- What has become of a module after some calls, with those that did not fail, each with the number
of its body. -/
def runAll (module : Module) : List BodyCall → Module × List (BodyCall × Nat)
  | [] => (module, [])
  | call :: calls =>
    let edited := call.run module
    let later := runAll edited.module calls
    (later.1, if edited.failure.isNone then (call, module.bodies.length) :: later.2 else later.2)

end BodyCall

section Calls

variable {module : Module} {call : BodyCall} {calls : List BodyCall}

theorem BodyCall.marks_lead (call : BodyCall) {read : List (List Statement)}
    (readable : call.lead.mapM readBlock = .ok read) (number : Nat) :
    marks (Statement.linesOf 2 (read.flatten ++ [placeholder number])) =
      call.leadMarks ++ [(List.replicate 8 ' ', number)] := by
  rw [linesOf_append, marks_append, BodyCall.leadMarks, readable, Statement.linesOf,
    Statement.linesOf, List.append_nil, marks_placeholder]
  rfl

private theorem marks_method {own : List Statement} {function : Statement} {head : Header}
    (read : readFirst (head.text ++ "    pass") = .ok function) (body : List Statement)
    (decorators : List Expr) :
    marks (Statement.linesOf 1 (own.filter (!·.isPass) ++
        [changeDecorators (fun _ => decorators) (changeFunctionBody (fun _ => body) function)])) =
      marks (Statement.linesOf 1 own) ++ marks (Statement.linesOf 2 body) := by
  obtain ⟨isAsync, name, params, returns, _, _, rfl⟩ := readFirst_header read
  rw [linesOf_append, marks_append, marks_filter_isPass, changeFunctionBody, changeDecorators,
    Statement.linesOf, Statement.linesOf, List.append_nil, marks_function]

/-- Adding a method leaves a placeholder in it, or none if it fails. -/
theorem addMethod_marks (module : Module) (className : String) (header : Header)
    (prologue : List String) (body : String) :
    let edited := module.addMethod className header prologue body
    (edited.failure = none ∧ edited.module.bodies = module.bodies ++ [body] ∧
      ∃ statements, prologue.mapM readBlock = .ok statements ∧ (codeMarks edited.module).Perm
        (codeMarks module ++ marks (Statement.linesOf 2
          (statements.flatten ++ [placeholder module.bodies.length])))) ∨
    (edited.failure ≠ none ∧ module.bodies <+: edited.module.bodies ∧
      edited.module.body = module.body) := by
  simp only [addMethod]
  split
  · exact .inr ⟨by simp, List.prefix_rfl, rfl⟩
  · rename_i function statements read
    obtain ⟨own, found, read⟩ := bind_eq_ok_iff.mp read
    obtain ⟨_, head, read⟩ := bind_eq_ok_iff.mp read
    obtain ⟨statements, readable, read⟩ := bind_eq_ok_iff.mp read
    cases read
    split
    · exact .inr ⟨by simp, List.prefix_append _ _, rfl⟩
    · rename_i decorators _
      refine .inl ⟨rfl, rfl, statements, readable, ?_⟩
      refine codeMarks_changeClass (module.keepBody body).1 found ?_
      rw [marks_method head]
      exact .refl _

/-- A splice splices its own statements in ahead of its body. -/
theorem exists_spliceStatements {changed : Module} {className method body position : String}
    {aliases : List (String × String)}
    (success : module.splice className method body position aliases = .ok changed) :
    ∃ place statements,
      (aliases.map fun entry => entry.1 ++ " = " ++ entry.2).mapM readBlock = .ok statements ∧
      module.spliceStatements className method place statements.flatten body = .ok changed := by
  unfold splice at success
  simp only at success
  split at success
  case h_3 => cases success
  all_goals
    obtain ⟨place, _, success⟩ := bind_eq_ok_iff.mp success
    obtain ⟨_, _, success⟩ := bind_eq_ok_iff.mp success
    obtain ⟨statements, readable, success⟩ := bind_eq_ok_iff.mp success
    refine ⟨place, statements, ?_, success⟩
    rw [List.mapM_map, Function.comp_def]
    exact readable

/-- Statements that are spliced in leave a placeholder in the method. -/
theorem spliceStatements_marks {changed : Module} {className method body : String}
    {place : SplicePosition} {lead : List Statement}
    (success : module.spliceStatements className method place lead body = .ok changed) :
    changed.bodies = module.bodies ++ [body] ∧ (codeMarks changed).Perm (codeMarks module ++
      marks (Statement.linesOf 2 (lead ++ [placeholder module.bodies.length]))) := by
  obtain ⟨anchor, anchored, success⟩ := bind_eq_ok_iff.mp success
  cases success
  refine ⟨rfl, ?_⟩
  obtain ⟨function, found, _⟩ := bind_eq_ok_iff.mp anchored
  obtain ⟨own, inClass, found⟩ := bind_eq_ok_iff.mp found
  refine codeMarks_changeClass (module.keepBody body).1 inClass ?_
  split at found
  · rename_i here
    cases found
    refine marks_changeFirst here ?_
    have named := List.find?_some here
    cases function with
    | function isAsync name params returns decorators statements =>
      rw [changeFunctionBody, marks_function, marks_function]
      exact marks_insertAll _ _ _
    | _ => cases named
  · cases found

/-- A call that does not fail leaves a placeholder for its body behind its own statements, and one
that fails none, though it may have kept its body. -/
theorem BodyCall.run_cases (module : Module) (call : BodyCall) :
    ((call.run module).failure = none ∧
      (call.run module).module.bodies = module.bodies ++ [call.body] ∧
      (codeMarks (call.run module).module).Perm (codeMarks module ++
        (call.leadMarks ++ [(List.replicate 8 ' ', module.bodies.length)]))) ∨
    ((call.run module).failure ≠ none ∧ module.bodies <+: (call.run module).module.bodies ∧
      (call.run module).module.body = module.body) := by
  cases call with
  | method className header prologue body =>
    refine (addMethod_marks module className header prologue body).imp_left ?_
    rintro ⟨success, kept, statements, readable, same⟩
    rw [BodyCall.marks_lead (.method className header prologue body) readable] at same
    exact ⟨success, kept, same⟩
  | splice className method body position aliases =>
    cases spliced : module.splice className method body position aliases with
    | error failure =>
      simp only [BodyCall.run, spliced]
      exact .inr ⟨by simp, List.prefix_rfl, trivial⟩
    | ok changed =>
      obtain ⟨place, statements, readable, success⟩ := exists_spliceStatements spliced
      obtain ⟨kept, same⟩ := spliceStatements_marks success
      rw [BodyCall.marks_lead (.splice className method body position aliases) readable] at same
      simp only [BodyCall.run, spliced]
      exact .inl ⟨trivial, kept, same⟩

/-- Of several calls those that do not fail leave their placeholders, with growing numbers, each the
number of the body of its call. -/
theorem BodyCall.runAll_marks (module : Module) (calls : List BodyCall) :
    module.bodies <+: (runAll module calls).1.bodies ∧
    (codeMarks (runAll module calls).1).Perm (codeMarks module ++
      (runAll module calls).2.flatMap fun entry =>
        entry.1.leadMarks ++ [(List.replicate 8 ' ', entry.2)]) ∧
    ((runAll module calls).2.map Prod.snd).Pairwise (· < ·) ∧
    ∀ entry ∈ (runAll module calls).2, module.bodies.length ≤ entry.2 ∧
      (runAll module calls).1.bodies[entry.2]? = some entry.1.body := by
  induction calls generalizing module with
  | nil => exact ⟨List.prefix_rfl, by simp [runAll], by simp [runAll], by simp [runAll]⟩
  | cons call calls ih =>
    obtain ⟨kept, same, growing, own⟩ := ih (call.run module).module
    simp only [runAll]
    rcases run_cases module call with ⟨done, stored, here⟩ | ⟨failed, stored, here⟩
    · rw [stored] at kept own
      rw [done, Option.isNone_none, if_pos rfl, List.flatMap_cons, List.map_cons, List.pairwise_cons,
        List.forall_mem_cons]
      refine ⟨(List.prefix_append _ _).trans kept, ?_, ⟨?_, growing⟩, ⟨le_rfl, ?_⟩, ?_⟩
      · rw [← List.append_assoc]
        exact same.trans (here.append_right _)
      · rintro number member
        obtain ⟨entry, later, rfl⟩ := List.mem_map.mp member
        have further := (own entry later).1
        rw [List.length_append] at further
        exact further
      · obtain ⟨rest, whole⟩ := kept
        rw [← whole]
        simp
      · intro entry later
        have further := (own entry later).1
        rw [List.length_append] at further
        exact ⟨by omega, (own entry later).2⟩
    · have unmarked : codeMarks (call.run module).module = codeMarks module := by
        rw [codeMarks, here, codeMarks]
      rw [Option.isNone_eq_false_iff.mpr (Option.isSome_iff_ne_none.mpr failed),
        if_neg Bool.false_ne_true]
      refine ⟨stored.trans kept, unmarked ▸ same, growing, fun entry later => ?_⟩
      exact ⟨stored.length_le.trans (own entry later).1, (own entry later).2⟩

end Calls

section Printed

/-- No text of a module that spans lines shows a line that looks like a placeholder. -/
def QuietTexts (module : Module) : Prop :=
  ∀ text ∈ Statement.scopeLines 0 module.body, '\n' ∈ text.toList →
    ∀ line ∈ linesOf text.toList, placeholderLine? line = none

theorem not_mem_of_placeholderLine? {line : List Char} {place : List Char × Nat}
    (found : placeholderLine? line = some place) : '\n' ∉ line := by
  obtain ⟨rest, opened, found⟩ := Option.bind_eq_some_iff.mp found
  have shape := (Option.ite_none_left_eq_some.mp found).1
  obtain ⟨whole, blanks, _⟩ := exists_run isIndent line
  obtain ⟨behind, digits, _⟩ := exists_run isDecimal rest
  have closed : rest.dropWhile isDecimal = [')'] := by
    by_contra other
    exact shape (by simp [other])
  rw [whole, eq_append_of_after? opened, behind, closed]
  simp only [List.mem_append, not_or]
  refine ⟨fun member => absurd (blanks _ member) (by decide), by decide,
    fun member => absurd (digits _ member) (by decide), by decide⟩

theorem filterMap_linesOf {text : List Char}
    (quiet : '\n' ∈ text → ∀ line ∈ linesOf text, placeholderLine? line = none) :
    (linesOf text).filterMap placeholderLine? = (placeholderLine? text).toList := by
  by_cases single : '\n' ∈ text
  · rw [List.filterMap_eq_nil_iff.mpr (quiet single)]
    cases found : placeholderLine? text with
    | none => rfl
    | some place => exact absurd single (not_mem_of_placeholderLine? found)
  · rw [linesOf, List.splitOn_eq_singleton single, List.filterMap_cons]
    cases placeholderLine? text <;> rfl

theorem marks_withoutLead (lines : List String) : marks (withoutLead lines) = marks lines := by
  unfold withoutLead
  split
  · rfl
  · rfl

theorem placeholders_eq {module : Module} (quiet : module.QuietTexts) :
    module.placeholders = module.codeMarks := by
  rw [codeMarks, ← marks_scopeLines, ← marks_withoutLead, placeholders, printedLines, moduleText]
  have quiet : ∀ text ∈ withoutLead (Statement.scopeLines 0 module.body), '\n' ∈ text.toList →
      ∀ line ∈ linesOf text.toList, placeholderLine? line = none :=
    fun text member => quiet text (mem_of_mem_withoutLead member)
  generalize withoutLead (Statement.scopeLines 0 module.body) = texts at quiet ⊢
  cases texts with
  | nil => rfl
  | cons first texts =>
    have joined : ("\n".intercalate (first :: texts)).toList =
        joinLines ((first :: texts).map String.toList) := String.toList_intercalate
    rw [joined, List.map_cons, linesOf_joinLines, ← List.map_cons, List.flatMap_map,
      List.filterMap_flatMap, marks, List.filterMap_eq_flatMap_toList]
    exact List.flatMap_congr fun text member => filterMap_linesOf (quiet text member)

end Printed

/-- After any calls that add methods and splice bodies in, the module is printed with every body in the
place of its placeholder as it was kept, line by line and moved in, exactly if every line that looks like
a placeholder has a kept body and, unless it is not moved in, one whose lines are plain. The
placeholders are those that were there, those that the calls write out themselves, and one for each call
that did not fail, with a number of its own under which its body is kept. -/
theorem calls_print_bodies_iff (module : Module) (calls : List BodyCall) (header : String) :
    let run := BodyCall.runAll module calls
    (run.1.render header =
        .ok (framed header (joinLines (run.1.printedLines.map (writtenLine run.1.bodies)))) ↔
      ∀ place ∈ run.1.placeholders, ∃ body, run.1.bodies[place.2]? = some body ∧
        (place.1 = [] ∨ PlainLines (trimFeeds body.toList))) ∧
    (run.1.QuietTexts → run.1.placeholders.Perm (module.codeMarks ++
      run.2.flatMap fun entry => entry.1.leadMarks ++ [(List.replicate 8 ' ', entry.2)])) ∧
    (run.2.map Prod.snd).Pairwise (· < ·) ∧
    ∀ entry ∈ run.2, run.1.bodies[entry.2]? = some entry.1.body := by
  obtain ⟨_, same, growing, own⟩ := BodyCall.runAll_marks module calls
  exact ⟨render_eq_written_iff _ header, fun quiet => placeholders_eq quiet ▸ same, growing,
    fun entry member => (own entry member).2⟩

/-- Notes that are saved in one place, with statements ahead of it. -/
def notes (ahead : List Statement) (bodies : List String) : Module where
  name := "notes"
  body := [.classDef "Note" [] [] [] [.function false "save"
    (.mk [] [.mk "self" none none] none [] none) none []
    (ahead ++ [.expr (.attribute (.name "self") "data_source")])]]
  bodies := bodies

/-- A body whose line goes on behind a separator of lines. -/
def mark : BodyCall := .splice "Note" "save" "mark = 'a\u2028b'" "before" []

private theorem runAll_mark : BodyCall.runAll (notes [] []) [mark] =
    (notes [placeholder 0] ["mark = 'a\u2028b'"], [(mark, 0)]) := by
  have done : mark.run (notes [] []) =
      { module := notes [placeholder 0] ["mark = 'a\u2028b'"] } := rfl
  rw [BodyCall.runAll, done]
  rfl

/-- The separator is printed with an indentation behind it, which the body does not have. -/
theorem separator_moved_in_notes :
    ((BodyCall.runAll (notes [] []) [mark]).1.render "").toOption =
      some "class Note:\n\n    def save(self):\n        mark = 'a\u2028        b'\n        self.data_source\n" ∧
    framed "" (joinLines ((BodyCall.runAll (notes [] []) [mark]).1.printedLines.map
        (writtenLine (BodyCall.runAll (notes [] []) [mark]).1.bodies))) =
      "class Note:\n\n    def save(self):\n        mark = 'a\u2028b'\n        self.data_source\n" := by
  rw [runAll_mark]
  exact ⟨by decide +kernel, by decide +kernel⟩

end Blueprint.ServerCode.Module
