import Mathlib.Data.List.Basic
import Blueprint.Proofs.ServerCode.QuotedTexts
import Blueprint.ServerCode.Module

namespace Blueprint.ServerCode.Module

section Lists

variable {α : Type} {accepts looked : α → Bool} {change : α → α}

theorem changeFirst_append_cons {front back : List α} {target : α}
    (skipped : ∀ item ∈ front, accepts item = false) (taken : accepts target = true) :
    changeFirst accepts change (front ++ target :: back) = front ++ change target :: back := by
  induction front with
  | nil => simp [changeFirst, taken]
  | cons item front ih =>
    have passed := skipped item List.mem_cons_self
    have later := ih fun other member => skipped other (List.mem_cons_of_mem item member)
    simp [changeFirst, passed, later]

theorem find?_changeFirst (kept : ∀ item, accepts item = true → accepts (change item) = true)
    (items : List α) :
    (changeFirst accepts change items).find? accepts = (items.find? accepts).map change := by
  induction items with
  | nil => rfl
  | cons item items ih =>
    cases here : accepts item with
    | true => simp [changeFirst, here, kept item here]
    | false => simp [changeFirst, here, ih]

theorem find?_changeFirst_of_unseen
    (unseen : ∀ item, accepts item = true → looked item = false ∧ looked (change item) = false)
    (items : List α) : (changeFirst accepts change items).find? looked = items.find? looked := by
  induction items with
  | nil => rfl
  | cons item items ih =>
    cases here : accepts item with
    | true =>
      obtain ⟨before, after⟩ := unseen item here
      simp [changeFirst, here, before, after]
    | false => simp only [changeFirst, here, Bool.false_eq_true, ↓reduceIte, List.find?_cons, ih]

private theorem find?_insertIdx_of_unseen {item : α} (unseen : looked item = false) (index : Nat)
    (items : List α) : (items.insertIdx index item).find? looked = items.find? looked := by
  induction items generalizing index with
  | nil => cases index <;> simp [unseen]
  | cons first items ih =>
    cases index with
    | zero => simp [unseen]
    | succ index => simp only [List.insertIdx_succ_cons, List.find?_cons, ih]

theorem find?_append_cons {front back : List α} {target : α}
    (skipped : ∀ item ∈ front, looked item = false) (taken : looked target = true) :
    (front ++ target :: back).find? looked = some target := by
  rw [List.find?_append, List.find?_eq_none.mpr (by simpa using skipped)]
  simp [taken]

theorem findIdx?_append_cons {front back : List α} {target : α}
    (skipped : ∀ item ∈ front, looked item = false) (taken : looked target = true) :
    (front ++ target :: back).findIdx? looked = some front.length := by
  rw [List.findIdx?_append, List.findIdx?_eq_none_iff.mpr skipped]
  simp [List.findIdx?_cons, taken]

end Lists

/-- Two modules with the same classes, bodies and counts of splices. -/
structure SameClasses (before after : Module) : Prop where
  classes : ∀ name, after.findClass? name = before.findClass? name
  bodies : after.bodies = before.bodies
  splices : after.afterSplices = before.afterSplices

namespace SameClasses

theorem refl (module : Module) : SameClasses module module := ⟨fun _ => rfl, rfl, rfl⟩

theorem trans {first second third : Module} (one : SameClasses first second)
    (two : SameClasses second third) : SameClasses first third where
  classes name := (two.classes name).trans (one.classes name)
  bodies := two.bodies.trans one.bodies
  splices := two.splices.trans one.splices

end SameClasses

section Imports

private theorem insertImport_same (module : Module) {statement : Statement}
    (noClass : statement.className? = none) :
    SameClasses module (module.insertImport statement) where
  classes name := find?_insertIdx_of_unseen (by simp [noClass]) _ _
  bodies := rfl
  splices := rfl

private theorem importsFrom_unseen (source name : String) (names : List String)
    (statement : Statement) (found : importsFrom source statement = true) :
    (statement.className? == some name) = false ∧
      ((withNames names statement).className? == some name) = false := by
  cases statement with
  | importFrom module present level =>
    refine ⟨rfl, ?_⟩
    simp only [withNames]
    split <;> rfl
  | _ => simp [importsFrom] at found

theorem mergeImport_same (module : Module) (source : String) (names : List String) :
    SameClasses module (module.mergeImport source names) := by
  simp only [mergeImport]
  split
  · exact .refl module
  · split
    · exact ⟨fun name => find?_changeFirst_of_unseen (importsFrom_unseen source name _) _, rfl, rfl⟩
    · exact insertImport_same module rfl

private theorem addImport_same (module : Module) (source : String) :
    SameClasses module (module.addImport source) := by
  unfold addImport
  split
  · exact .refl module
  · exact insertImport_same module rfl

theorem foldl_same {α : Type} {edit : Module → α → Module}
    (step : ∀ module item, SameClasses module (edit module item)) (items : List α)
    (module : Module) : SameClasses module (items.foldl edit module) := by
  induction items generalizing module with
  | nil => exact .refl module
  | cons item items ih => exact (step module item).trans (ih (edit module item))

theorem addImportStatement_same {module changed : Module} {statement : Statement}
    (success : module.addImportStatement statement = .ok changed) : SameClasses module changed := by
  unfold addImportStatement at success
  split at success
  · cases success
    exact (mergeImport_same module _ _).trans
      (foldl_same (fun module renamed => insertImport_same module rfl) _ _)
  · cases success
    apply foldl_same
    intro module imported
    split
    · exact addImport_same module imported.name
    · exact insertImport_same module rfl
  · cases success

/-- Imports leave the classes of a module alone. -/
theorem addImportStatements_same {module changed : Module} {statements : List Statement}
    (success : (module.addImportStatements statements).result = .ok changed) :
    SameClasses module changed := by
  induction statements generalizing module with
  | nil =>
    cases success
    exact .refl module
  | cons statement statements ih =>
    unfold addImportStatements at success
    split at success
    · rename_i edited step
      exact (addImportStatement_same step).trans (ih success)
    · cases success

end Imports

section Classes

variable {module : Module} {name : String} {bases : List Expr} {keywords : List Keyword}
  {decorators : List Expr} {body : List Statement}

theorem findClass?_changeClass
    (found : module.findClass? name = some (.classDef name bases keywords decorators body))
    (change : List Statement → List Statement) :
    (module.changeClass name change).findClass? name =
      some (.classDef name bases keywords decorators (change body)) := by
  have kept : ∀ statement : Statement, (statement.className? == some name) = true →
      ((changeClassBody change statement).className? == some name) = true := by
    intro statement same
    cases statement <;> exact same
  have changed := find?_changeFirst kept module.body
  unfold findClass? at found
  rw [found] at changed
  exact changed

theorem getClass_of_found
    (found : module.findClass? name = some (.classDef name bases keywords decorators body)) :
    module.getClass name = .ok body := by
  simp [getClass, found, classBody]

end Classes

/-- A printed line is one line, and a body that it stands for is kept. -/
structure Filled (bodies : List String) (line : String) : Prop where
  single : '\n' ∉ line.toList
  kept : ∀ place, placeholderLine? line.toList = some place → place.2 < bodies.length

theorem renderLines_of_filled {bodies lines : List String}
    (filled : ∀ line ∈ lines, Filled bodies line) :
    ∃ rendered, (lines.map String.toList).mapM (renderLine bodies) = .ok rendered := by
  induction lines with
  | nil => exact ⟨[], rfl⟩
  | cons line lines ih =>
    obtain ⟨own, others⟩ := List.forall_mem_cons.mp filled
    obtain ⟨rest, later⟩ := ih others
    have here : ∃ first, renderLine bodies line.toList = .ok first := by
      unfold renderLine
      cases place : placeholderLine? line.toList with
      | none => exact ⟨_, rfl⟩
      | some found =>
        simp only [List.getElem?_eq_getElem (own.kept found place)]
        exact ⟨_, rfl⟩
    obtain ⟨first, printed⟩ := here
    simp only [List.map_cons, List.mapM_cons, printed, later, ok_bind]
    exact ⟨_, rfl⟩

/-- A module is printed if every body that its lines stand for is kept. -/
theorem render_of_filled {module : Module} (header : String)
    (filled : ∀ line ∈ withoutLead (Statement.scopeLines 0 module.body),
      Filled module.bodies line) : ∃ text, module.render header = .ok text := by
  unfold render moduleText
  generalize withoutLead (Statement.scopeLines 0 module.body) = lines at filled ⊢
  cases lines with
  | nil => exact ⟨_, rfl⟩
  | cons line lines =>
    have apart : ∀ chars ∈ (line :: lines).map String.toList, '\n' ∉ chars := by
      intro chars member
      obtain ⟨text, listed, rfl⟩ := List.mem_map.mp member
      exact (filled text listed).single
    have split : Text.linesOf ("\n".intercalate (line :: lines)).toList =
        (line :: lines).map String.toList := by
      rw [Text.linesOf, String.toList_intercalate]
      exact List.splitOn_intercalate '\n' apart (by simp)
    obtain ⟨rendered, success⟩ := renderLines_of_filled filled
    rw [split, success]
    exact ⟨_, rfl⟩

/-- The bytes of a text. -/
def bytesOf (line : String) : List UInt8 := line.toByteArray.data.toList

theorem bytesOf_eq (line : String) : bytesOf line = line.toList.flatMap String.utf8EncodeChar := by
  rw [bytesOf, ← String.utf8Encode_toList]
  simp [List.utf8Encode]

/-- A line that the bytes show to be filled: it has no line feed, and behind its indentation another
byte than that of a placeholder, or a placeholder whose body is kept. -/
def isFilledLine (bodies : List String) (line : String) : Bool :=
  !(bytesOf line).contains 10 &&
    (((bytesOf line).dropWhile fun byte => byte == 32 || byte == 9).head? != some 95 ||
      (placeholderLine? line.toList).all fun place => decide (place.2 < bodies.length))

/-- A text that starts with an underscore behind its indentation does so in bytes. -/
theorem head?_bytes {chars rest : List Char} (start : chars.dropWhile Text.isIndent = '_' :: rest) :
    ((chars.flatMap String.utf8EncodeChar).dropWhile fun byte => byte == 32 || byte == 9).head? =
      some 95 := by
  induction chars with
  | nil => cases start
  | cons char chars ih =>
    rw [List.dropWhile_cons] at start
    split at start
    · rename_i blank
      have ends : String.utf8EncodeChar char = [32] ∨ String.utf8EncodeChar char = [9] := by
        have either : char = ' ' ∨ char = '\t' := by simpa [Text.isIndent] using blank
        rcases either with rfl | rfl
        · exact Or.inl (by decide)
        · exact Or.inr (by decide)
      rw [List.flatMap_cons]
      rcases ends with space | tab
      · rw [space]
        exact ih start
      · rw [tab]
        exact ih start
    · cases start
      rfl

private theorem placeholder_start {chars : List Char} {place : List Char × Nat}
    (found : placeholderLine? chars = some place) :
    ∃ rest, chars.dropWhile Text.isIndent = '_' :: rest := by
  obtain ⟨rest, matched, _⟩ := Option.bind_eq_some_iff.mp found
  exact ⟨_, Text.eq_append_of_after? matched⟩

theorem filled_of_isFilledLine {bodies : List String} {line : String}
    (checked : isFilledLine bodies line = true) : Filled bodies line := by
  obtain ⟨single, start⟩ := Bool.and_eq_true_iff.mp checked
  rw [bytesOf_eq] at single start
  constructor
  · intro inside
    have fed : (10 : UInt8) ∈ line.toList.flatMap String.utf8EncodeChar :=
      List.mem_flatMap.mpr ⟨'\n', inside, by decide⟩
    simp [fed] at single
  · intro place found
    rcases Bool.or_eq_true_iff.mp start with other | known
    · have named := placeholder_start found
      rw [head?_bytes named.choose_spec] at other
      cases other
    · rw [found] at known
      simpa using known

section PrintedLines

open Blueprint.Text

variable {level : Nat} {text : String} {spaces : Nat} {c : Char} {rest : List Char}

theorem toList_lineAt (level : Nat) (text : String) :
    (lineAt level text).toList = List.replicate (4 * level) ' ' ++ text.toList := by
  have spaces (n : Nat) : ("".pushn ' ' n).toList = List.replicate n ' ' := by
    induction n with
    | zero => rfl
    | succ n ih => rw [String.pushn, Nat.repeat, String.toList_push, ← String.pushn, ih,
        List.replicate_succ']
  rw [lineAt, String.toList_append, spaces]

theorem dropWhile_spaces (shown : isIndent c = false) :
    (List.replicate spaces ' ' ++ c :: rest).dropWhile isIndent = c :: rest :=
  dropWhile_append_stop (by simp [isIndent]) (by simpa using shown)

theorem placeholderLine?_lineAt_none (starts : text.toList.head? = some c)
    (shown : isIndent c = false) (other : c ≠ '_') :
    placeholderLine? (lineAt level text).toList = none := by
  obtain ⟨rest, shape⟩ := List.head?_eq_some_iff.mp starts
  have missed : after? (placeholderName.toList ++ ['(']) (c :: rest) = none := by
    change (if '_' = c then _ else none) = none
    exact if_neg (Ne.symm other)
  rw [toList_lineAt, shape, placeholderLine?, dropWhile_spaces shown, missed]
  rfl

end PrintedLines

section Documentation

open Blueprint.Text

variable {text : List Char} {bodies : List String} {level : Nat}

private theorem lineFeed_not_mem (shown : ∀ c ∈ text, isPrintable c = true) : '\n' ∉ text :=
  fun inside => absurd (shown _ inside) (by decide)

/-- One quote or more. -/
private def IsQuotes (quotes : List Char) : Prop := quotes ≠ [] ∧ ∀ c ∈ quotes, IsQuote c

private theorem isQuotes_long : ∀ quotes ∈ longQuotes, IsQuotes quotes := by
  simp [longQuotes, IsQuotes, IsQuote]

/-- A text of one line stays on one line between long quotes. -/
private theorem fitQuotes_long (single : '\n' ∉ text) :
    '\n' ∉ (fitQuotes text longQuotes false).1 ∧
      ∀ quotes ∈ (fitQuotes text longQuotes false).2, IsQuotes quotes := by
  have escaped : '\n' ∉ text.flatMap fun c =>
      if !false && (c == '\n' || c == '\t') then [c] else visible c := by
    intro inside
    obtain ⟨c, listed, inside⟩ := List.mem_flatMap.mp inside
    split at inside
    · exact single (List.mem_singleton.mp inside ▸ listed)
    · exact lineFeed_not_mem (isPrintable_visible c) inside
  unfold fitQuotes
  generalize (text.flatMap fun c =>
    if !false && (c == '\n' || c == '\t') then [c] else visible c) = chars at escaped
  have fits : ∀ quotes ∈ longQuotes.filter fun quotes => !occursIn quotes chars, IsQuotes quotes :=
    fun quotes listed => isQuotes_long quotes (List.mem_filter.mp listed).1
  simp only [List.contains_iff_mem, escaped, if_false]
  split
  · -- No long quotes fit, so the text gets all its escapes.
    have whole := lineFeed_not_mem (isPrintable_quotedChars text)
    refine ⟨fun inside => whole (List.mem_of_mem_drop (List.mem_of_mem_dropLast inside)), ?_⟩
    rw [List.forall_mem_singleton]
    cases found : longQuotes.find? fun candidate => occursIn ((quotedChars text).take 1) candidate with
    | none => exact ⟨nofun, List.forall_mem_singleton.mpr (isQuote_quoteFor text)⟩
    | some quotes => exact isQuotes_long quotes (List.mem_of_find?_eq_some found)
  split
  · exact ⟨escaped, fits⟩
  · rename_i last ends
    have best : ∀ quotes ∈ (longQuotes.filter fun quotes => !occursIn quotes chars).filter
          (fun quotes => !(quotes.head? == some last)) ++
        (longQuotes.filter fun quotes => !occursIn quotes chars).filter
          (fun quotes => quotes.head? == some last), IsQuotes quotes := fun quotes listed =>
      fits quotes ((List.mem_append.mp listed).elim (fun inside => (List.mem_filter.mp inside).1)
        fun inside => (List.mem_filter.mp inside).1)
    split
    · refine ⟨?_, best⟩
      rw [List.mem_append, not_or]
      refine ⟨fun inside => escaped (List.mem_of_mem_dropLast inside), ?_⟩
      have other : '\n' ≠ last := fun same => escaped (same ▸ List.mem_of_getLast? ends)
      simpa using other
    · exact ⟨escaped, best⟩

private theorem textBetween_long {value : String} (single : '\n' ∉ value.toList) :
    ∃ first rest, (textBetween longQuotes value).toList = first :: rest ∧ IsQuote first ∧
      '\n' ∉ (textBetween longQuotes value).toList := by
  obtain ⟨inner, fits⟩ := fitQuotes_long single
  have chosen : IsQuotes ((fitQuotes value.toList longQuotes false).2.head?.getD ['\'']) := by
    cases start : (fitQuotes value.toList longQuotes false).2.head? with
    | none => simp [IsQuotes, IsQuote]
    | some quotes => exact fits quotes (List.mem_of_mem_head? start)
  have quiet : '\n' ∉ (fitQuotes value.toList longQuotes false).2.head?.getD ['\''] := fun inside =>
    absurd (chosen.2 _ inside) (by simp [IsQuote])
  rw [textBetween, String.toList_ofList]
  generalize (fitQuotes value.toList longQuotes false).2.head?.getD ['\''] = quotes at chosen quiet ⊢
  cases quotes with
  | nil => exact absurd rfl chosen.1
  | cons first rest =>
    exact ⟨first, _, rfl, chosen.2 first List.mem_cons_self, by simp_all⟩

/-- A documentation of one line is printed on one line, which stands for no body. -/
theorem filled_documentation {value : String} (marked : Bool) (single : '\n' ∉ value.toList) :
    Filled bodies (lineAt level ((if marked then "u" else "") ++ textBetween longQuotes value)) := by
  obtain ⟨first, rest, starts, quote, quiet⟩ := textBetween_long single
  constructor
  · rw [toList_lineAt, String.toList_append, List.mem_append, List.mem_append]
    cases marked <;> simp [quiet]
  · have none : placeholderLine? (lineAt level
        ((if marked then "u" else "") ++ textBetween longQuotes value)).toList = none := by
      cases marked with
      | true => exact placeholderLine?_lineAt_none (c := 'u') (by simp) (by decide) (by decide)
      | false =>
        have head : ("" ++ textBetween longQuotes value).toList.head? = some first := by simp [starts]
        rcases quote with rfl | rfl
        · exact placeholderLine?_lineAt_none head (by decide) (by decide)
        · exact placeholderLine?_lineAt_none head (by decide) (by decide)
    rw [none]
    exact nofun

end Documentation

section Printable

variable {bodies : List String}

/-- The bytes of what a scope starts with show that it can be printed. A documentation has to be of one
line. -/
def isFilledStart (bodies : List String) (level : Nat) : Statement → Bool
  | .expr (.constant (.text value _)) => !(bytesOf value).contains 10
  | statement => (statement.lines level).all (isFilledLine bodies)

/-- The bytes of a scope show that it can be printed. -/
def isFilledScope (bodies : List String) (level : Nat) : List Statement → Bool
  | [] => true
  | statement :: rest =>
    isFilledStart bodies level statement &&
      (Statement.linesOf level rest).all (isFilledLine bodies)

/-- The bytes of a statement of a module show that it can be printed. -/
def isFilledStatement (bodies : List String) : Statement → Bool
  | .classDef name bases keywords decorators body =>
    ((Statement.classDef name bases keywords decorators []).lines 0).all (isFilledLine bodies) &&
      isFilledScope bodies 1 body
  | .function isAsync name params returns decorators body =>
    ((Statement.function isAsync name params returns decorators []).lines 0).all
        (isFilledLine bodies) &&
      isFilledScope bodies 1 body
  | statement => (statement.lines 0).all (isFilledLine bodies)

private theorem filled_of_all {lines : List String}
    (checked : lines.all (isFilledLine bodies) = true) : ∀ line ∈ lines, Filled bodies line :=
  fun line listed => filled_of_isFilledLine (List.all_eq_true.mp checked line listed)

theorem lineFeed_not_mem_of_bytes {value : String} (checked : (!(bytesOf value).contains 10) = true) :
    '\n' ∉ value.toList := by
  intro inside
  have fed : (10 : UInt8) ∈ value.toList.flatMap String.utf8EncodeChar :=
    List.mem_flatMap.mpr ⟨'\n', inside, by decide⟩
  rw [← bytesOf_eq] at fed
  simp [fed] at checked

theorem filled_of_isFilledScope {level : Nat} {body : List Statement}
    (checked : isFilledScope bodies level body = true) :
    ∀ line ∈ Statement.scopeLines level body, Filled bodies line := by
  cases body with
  | nil => exact nofun
  | cons statement rest =>
    obtain ⟨start, others⟩ := Bool.and_eq_true_iff.mp checked
    rw [Statement.scopeLines, List.forall_mem_append]
    refine ⟨?_, filled_of_all others⟩
    unfold isFilledStart at start
    split at start
    · rename_i value marked
      exact List.forall_mem_singleton.mpr
        (filled_documentation marked (lineFeed_not_mem_of_bytes start))
    · rename_i other
      have plain : documentation? statement = none := by
        unfold documentation?
        split
        · exact absurd rfl (other _ _)
        · rfl
      rw [plain]
      exact filled_of_all start

/-- What bears a body is printed if its head and its body are. -/
private theorem filled_of_head {head whole : List String} {body : List Statement}
    (shape : whole = head ++ Statement.scopeLines 1 body)
    (checked : (head.all (isFilledLine bodies) && isFilledScope bodies 1 body) = true) :
    ∀ line ∈ whole, Filled bodies line := by
  obtain ⟨first, inside⟩ := Bool.and_eq_true_iff.mp checked
  rw [shape, List.forall_mem_append]
  exact ⟨filled_of_all first, filled_of_isFilledScope inside⟩

theorem filled_of_isFilledStatement {statement : Statement}
    (checked : isFilledStatement bodies statement = true) :
    ∀ line ∈ statement.lines 0, Filled bodies line := by
  unfold isFilledStatement at checked
  split at checked
  · exact filled_of_head (by simp [Statement.lines, Statement.scopeLines]) checked
  · exact filled_of_head (by simp [Statement.lines, Statement.scopeLines]) checked
  · exact filled_of_all checked

theorem linesOf_eq_flatMap (level : Nat) (statements : List Statement) :
    Statement.linesOf level statements = statements.flatMap (Statement.lines level) := by
  induction statements with
  | nil => rfl
  | cons statement rest ih => rw [Statement.linesOf, List.flatMap_cons, ih]

theorem linesOf_append {level : Nat} (front back : List Statement) :
    Statement.linesOf level (front ++ back) =
      Statement.linesOf level front ++ Statement.linesOf level back := by
  simp only [linesOf_eq_flatMap, List.flatMap_append]

theorem mem_of_mem_withoutLead {line : String} {lines : List String}
    (member : line ∈ withoutLead lines) : line ∈ lines := by
  unfold withoutLead at member
  split at member
  · exact List.mem_cons_of_mem _ member
  · exact member

/-- The bytes of the statements of a module show that it can be printed. -/
def isFilledModule (bodies : List String) : List Statement → Bool
  | [] => true
  | first :: rest => isFilledScope bodies 0 [first] && rest.all (isFilledStatement bodies)

/-- A module is there, and its bytes show that it can be printed. -/
def isPrintable : Except Failure Module → Bool
  | .ok module => isFilledModule module.bodies module.body
  | .error _ => false

private theorem filled_of_isFilledModule {body : List Statement}
    (checked : isFilledModule bodies body = true) :
    ∀ line ∈ Statement.scopeLines 0 body, Filled bodies line := by
  cases body with
  | nil => exact nofun
  | cons first rest =>
    obtain ⟨start, others⟩ := Bool.and_eq_true_iff.mp checked
    have shape : Statement.scopeLines 0 (first :: rest) =
        Statement.scopeLines 0 [first] ++ rest.flatMap (Statement.lines 0) := by
      rw [Statement.scopeLines, Statement.scopeLines, Statement.linesOf, List.append_nil,
        linesOf_eq_flatMap]
    rw [shape, List.forall_mem_append]
    refine ⟨filled_of_isFilledScope start, fun line behind => ?_⟩
    obtain ⟨statement, member, own⟩ := List.mem_flatMap.mp behind
    exact filled_of_isFilledStatement (List.all_eq_true.mp others statement member) line own

end Printable

theorem exists_text_of_isPrintable {outcome : Except Failure Module} (header : String)
    (checked : isPrintable outcome = true) :
    ∃ module text, outcome = .ok module ∧ module.render header = .ok text := by
  cases outcome with
  | error failure => cases checked
  | ok module =>
    obtain ⟨text, printed⟩ := render_of_filled header fun line listed =>
      filled_of_isFilledModule checked line (mem_of_mem_withoutLead listed)
    exact ⟨module, text, rfl, printed⟩

end Blueprint.ServerCode.Module
