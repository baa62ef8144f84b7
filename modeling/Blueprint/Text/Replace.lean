/-!
Replacing what a rule matches, from left to right: where the rule matches, its text goes out and
reading goes on behind the match; elsewhere the character stays.
-/

namespace Blueprint.Text

/-- What a rule found in front of a text: what it stands for and how many characters it took. -/
structure Found (α : Type) where
  value : α
  size : Nat

/-- Reads on after `skip` characters that belong to the last match. -/
def replaceFrom (rule : List Char → Option (Found (List Char))) (skip : Nat) :
    List Char → List Char
  | [] => []
  | c :: rest =>
    match skip with
    | skip + 1 => replaceFrom rule skip rest
    | 0 => match rule (c :: rest) with
      | some found => found.value ++ replaceFrom rule (found.size - 1) rest
      | none => c :: replaceFrom rule 0 rest

/-- Replaces every match of a rule. -/
def replace (rule : List Char → Option (Found (List Char))) (text : List Char) : List Char :=
  replaceFrom rule 0 text

theorem replaceFrom_skipped (rule : List Char → Option (Found (List Char)))
    (skipped rest : List Char) :
    replaceFrom rule skipped.length (skipped ++ rest) = replaceFrom rule 0 rest := by
  induction skipped with
  | nil => rfl
  | cons c skipped ih => simpa [replaceFrom] using ih

/-- A match gives way to what it stands for, and reading goes on behind it. -/
theorem replace_append_of_match {rule : List Char → Option (Found (List Char))}
    {part value rest : List Char} (nonempty : part ≠ [])
    (found : rule (part ++ rest) = some ⟨value, part.length⟩) :
    replace rule (part ++ rest) = value ++ replace rule rest := by
  cases part with
  | nil => exact absurd rfl nonempty
  | cons c part =>
    rw [List.cons_append] at found ⊢
    simp only [replace, replaceFrom, found, List.length_cons, Nat.add_sub_cancel]
    rw [replaceFrom_skipped]

/-- Characters at which a rule never matches stay. -/
theorem replace_append_of_quiet {rule : List Char → Option (Found (List Char))}
    {part : List Char} (quiet : ∀ c ∈ part, ∀ tail, rule (c :: tail) = none)
    (rest : List Char) : replace rule (part ++ rest) = part ++ replace rule rest := by
  induction part with
  | nil => rfl
  | cons c part ih =>
    have here := quiet c List.mem_cons_self (part ++ rest)
    have later := ih fun d member => quiet d (List.mem_cons_of_mem c member)
    simp only [replace] at later
    simp only [replace, List.cons_append, replaceFrom, here, later]

/-- Reads on after `skip` characters that belong to the last match. -/
def findAllFrom {α : Type} (rule : List Char → Option (Found α)) (skip : Nat) :
    List Char → List α
  | [] => []
  | c :: rest =>
    match skip with
    | skip + 1 => findAllFrom rule skip rest
    | 0 => match rule (c :: rest) with
      | some found => found.value :: findAllFrom rule (found.size - 1) rest
      | none => findAllFrom rule 0 rest

/-- The values of all matches of a rule that do not overlap, in order. -/
def findAll {α : Type} (rule : List Char → Option (Found α)) (text : List Char) : List α :=
  findAllFrom rule 0 text

/-- What follows the start `lead` of a text. -/
def after? : List Char → List Char → Option (List Char)
  | [], text => some text
  | c :: lead, d :: text => if c = d then after? lead text else none
  | _ :: _, [] => none

@[simp] theorem after?_append (lead rest : List Char) : after? lead (lead ++ rest) = some rest := by
  induction lead with
  | nil => rfl
  | cons c lead ih => simp [after?, ih]

theorem eq_append_of_after? {lead text rest : List Char} (found : after? lead text = some rest) :
    text = lead ++ rest := by
  induction lead generalizing text with
  | nil => simpa [after?] using found
  | cons c lead ih =>
    cases text with
    | nil => simp [after?] at found
    | cons d text =>
      simp only [after?] at found
      split at found
      · next same => simp [same, ih found]
      · simp at found

/-- A text stands somewhere in another. -/
def holds (part : List Char) : List Char → Bool
  | [] => part.isEmpty
  | c :: rest => part.isPrefixOf (c :: rest) || holds part rest

/-- Replaces a text by another wherever it stands, from left to right. -/
def replaceText (old new : List Char) (text : List Char) : List Char :=
  if old.isEmpty then text
  else replace (fun front => (after? old front).map fun _ => ⟨new, old.length⟩) text

@[simp] theorem replaceText_nil (old new : List Char) : replaceText old new [] = [] := by
  unfold replaceText
  split <;> rfl

/-- What does not hold the first character of the text that is replaced stays. -/
theorem replaceText_append_of_absent {c : Char} {old new part : List Char} (absent : c ∉ part)
    (rest : List Char) :
    replaceText (c :: old) new (part ++ rest) = part ++ replaceText (c :: old) new rest := by
  simp only [replaceText, List.isEmpty_cons, Bool.false_eq_true, ↓reduceIte]
  apply replace_append_of_quiet
  intro d listed tail
  have apart : c ≠ d := fun same => absent (same ▸ listed)
  simp [after?, apart]

theorem replaceText_append_of_match (c : Char) (old new rest : List Char) :
    replaceText (c :: old) new ((c :: old) ++ rest) = new ++ replaceText (c :: old) new rest := by
  simp only [replaceText, List.isEmpty_cons, Bool.false_eq_true, ↓reduceIte]
  apply replace_append_of_match (List.cons_ne_nil c old)
  rw [after?_append, Option.map_some]

theorem replaceText_of_absent {c : Char} {old new text : List Char} (absent : c ∉ text) :
    replaceText (c :: old) new text = text := by
  have kept : replaceText (c :: old) new (text ++ []) = text ++ replaceText (c :: old) new [] :=
    replaceText_append_of_absent absent []
  rwa [replaceText_nil, List.append_nil] at kept

end Blueprint.Text
