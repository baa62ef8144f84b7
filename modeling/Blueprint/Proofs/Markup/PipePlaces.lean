import Blueprint.Markup.Scanner
import Blueprint.Proofs.Markup.Reading

namespace Blueprint.Markup

open Blueprint.Text

section LastPipe

variable {place : Nat} {text : List Char} {found : Found (List Char)}

/-- Where a text stands moves the end of its last pipe and changes nothing else. -/
theorem lastPipe?_shift (place : Nat) (text : List Char) : lastPipe? (place + 1) text =
    (lastPipe? place text).map fun found => ⟨found.value, found.size + 1⟩ := by
  induction text generalizing place with
  | nil => rfl
  | cons c rest ih =>
    unfold lastPipe?
    rw [ih (place + 1)]
    cases lastPipe? (place + 1) rest with
    | some found => rfl
    | none =>
      simp only [Option.map_none]
      split
      · split
        · rfl
        · simp only [Option.map_some, Option.some.injEq, Found.mk.injEq, true_and]
          omega
      · rfl

theorem lastPipe?_value (place other : Nat) (text : List Char) :
    (lastPipe? place text).map Found.value = (lastPipe? other text).map Found.value := by
  have start (place : Nat) :
      (lastPipe? place text).map Found.value = (lastPipe? 0 text).map Found.value := by
    induction place with
    | zero => rfl
    | succ place ih =>
      rw [← ih, lastPipe?_shift, Option.map_map]
      rfl
  rw [start place, start other]

/-- A pipe ends within the text in which it is read. -/
theorem lastPipe?_size (read : lastPipe? place text = some found) :
    place < found.size ∧ found.size ≤ place + text.length := by
  induction text generalizing place with
  | nil => cases read
  | cons c rest ih =>
    unfold lastPipe? at read
    cases later : lastPipe? (place + 1) rest with
    | some other =>
      rw [later] at read
      obtain rfl : other = found := Option.some.inj read
      have bounds := ih later
      rw [List.length_cons]
      omega
    | none =>
      rw [later] at read
      simp only at read
      split at read
      · split at read
        · cases read
        · obtain rfl := (Option.some.inj read).symm
          have blanks := congrArg List.length (exists_run isBlank rest).1
          have name := (List.takeWhile_prefix (l := rest.dropWhile isBlank) isWord).length_le
          rw [List.length_append] at blanks
          simp only [List.length_cons]
          omega
      · cases read

/-- A pipe hides those in front of it. -/
theorem lastPipe?_append {front : List Char}
    (read : lastPipe? (place + front.length) text = some found) :
    lastPipe? place (front ++ text) = some found := by
  induction front generalizing place with
  | nil => exact read
  | cons c front ih =>
    have later : lastPipe? (place + 1) (front ++ text) = some found := by
      apply ih
      rwa [List.length_cons, Nat.add_comm front.length, ← Nat.add_assoc] at read
    rw [List.cons_append, lastPipe?, later]

end LastPipe

section Places

variable {α : Type} {rule : List Char → Option (Found α)} {text : List Char} {value : α}

theorem findAll_cons (rule : List Char → Option (Found α)) (c : Char) (rest : List Char) :
    findAll rule (c :: rest) = match rule (c :: rest) with
      | some found => found.value :: findAllFrom rule (found.size - 1) rest
      | none => findAll rule rest := rfl

/-- Reading goes on behind what is skipped. -/
theorem findAllFrom_append (rule : List Char → Option (Found α)) {skip : Nat} {front : List Char}
    (within : skip ≤ front.length) (rest : List Char) :
    findAllFrom rule skip (front ++ rest) = findAll rule (front.drop skip ++ rest) := by
  induction skip generalizing front with
  | zero => rfl
  | succ skip ih =>
    cases front with
    | nil => simp at within
    | cons c front => exact ih (by simpa using within)

/-- What is found stands somewhere. -/
theorem exists_place {skip : Nat} (member : value ∈ findAllFrom rule skip text) :
    ∃ front rest found, text = front ++ rest ∧ rule rest = some found ∧ found.value = value := by
  induction text generalizing skip with
  | nil => cases member
  | cons c text ih =>
    have later {skip : Nat} (member : value ∈ findAllFrom rule skip text) :
        ∃ front rest found, c :: text = front ++ rest ∧ rule rest = some found ∧
          found.value = value := by
      obtain ⟨front, rest, found, split, read, same⟩ := ih member
      exact ⟨c :: front, rest, found, by rw [split]; rfl, read, same⟩
    cases skip with
    | succ skip => exact later member
    | zero =>
      unfold findAllFrom at member
      cases here : rule (c :: text) with
      | none =>
        rw [here] at member
        exact later member
      | some found =>
        rw [here] at member
        rcases List.mem_cons.mp member with rfl | member
        · exact ⟨[], c :: text, found, rfl, here, rfl⟩
        · exact later member

/-- What is found at some place is found in the whole text, if every match that reaches this place
from further in front finds the same. -/
theorem mem_findAll_of_place {found : Found α} {front rest : List Char} (nonempty : rest ≠ [])
    (read : rule rest = some found) (covers : ∀ lead first, lead <:+ front →
      rule (lead ++ rest) = some first → lead.length < first.size → first.value = found.value) :
    found.value ∈ findAll rule (front ++ rest) := by
  induction size : front.length using Nat.strong_induction_on generalizing front with
  | _ size ih =>
    subst size
    cases front with
    | nil =>
      obtain ⟨c, tail, rfl⟩ := List.exists_cons_of_ne_nil nonempty
      simp [findAll, findAllFrom, read]
    | cons c front =>
      have within {lead : List Char} (part : lead <:+ front) : lead <:+ c :: front :=
        part.trans (List.suffix_cons c front)
      rw [List.cons_append, findAll_cons]
      cases here : rule (c :: (front ++ rest)) with
      | none =>
        exact ih front.length (by simp) (fun lead first part => covers lead first (within part)) rfl
      | some first =>
        by_cases reaches : (c :: front).length < first.size
        · exact List.mem_cons.mpr (Or.inl (covers _ first List.suffix_rfl here reaches).symm)
        · have within' : first.size - 1 ≤ front.length := by
            rw [List.length_cons] at reaches
            omega
          have later : front.drop (first.size - 1) <:+ front := List.drop_suffix _ _
          refine List.mem_cons_of_mem _ ?_
          rw [findAllFrom_append rule within']
          refine ih _ ?_ (fun lead first part => covers lead first (within (part.trans later))) rfl
          rw [List.length_drop, List.length_cons]
          omega

end Places

section Interpolations

variable {text name : List Char}

/-- An interpolation of the text shows a pipe. -/
def Interpolates (text name : List Char) : Prop :=
  ∃ front rest found, text = front ++ '\x7b' :: '\x7b' :: rest ∧
    lastPipe? 2 (rest.takeWhile (· != '\x7d')) = some found ∧ found.value = name

/-- Text in front of a pipe does not change its name. -/
theorem value_of_append {lead value : List Char} {first found : Found (List Char)}
    (whole : lastPipe? 2 (lead ++ value) = some first) (last : lastPipe? 2 value = some found) :
    first.value = found.value := by
  have same := lastPipe?_value (2 + lead.length) 2 value
  rw [last] at same
  obtain ⟨other, later, named⟩ := Option.map_eq_some_iff.mp same
  rw [lastPipe?_append later] at whole
  rw [← Option.some.inj whole, named]

/-- An interpolation that reaches another ends with it. -/
theorem value_of_reaching {lead rest : List Char} {first found : Found (List Char)}
    (read : interpolationPipe? (lead ++ '\x7b' :: '\x7b' :: rest) = some first)
    (reaches : lead.length < first.size)
    (shown : lastPipe? 2 (rest.takeWhile (· != '\x7d')) = some found) :
    first.value = found.value := by
  match lead with
  | [] => exact congrArg Found.value (Option.some.inj (read.symm.trans shown))
  | [c] =>
    unfold interpolationPipe? at read
    split at read
    · rename_i behind same
      simp only [List.cons_append, List.nil_append, List.cons.injEq, true_and] at same
      obtain ⟨_, rfl⟩ := same
      have whole : ('\x7b' :: rest).takeWhile (· != '\x7d') =
          ['\x7b'] ++ rest.takeWhile (· != '\x7d') := rfl
      rw [whole] at read
      exact value_of_append read shown
    · cases read
  | c :: d :: inner =>
    unfold interpolationPipe? at read
    split at read
    · rename_i behind same
      simp only [List.cons_append, List.cons.injEq] at same
      obtain ⟨_, _, rfl⟩ := same
      have bounds := (lastPipe?_size read).2
      have whole : (inner ++ '\x7b' :: '\x7b' :: rest).takeWhile (· != '\x7d') =
          (inner ++ ['\x7b', '\x7b']) ++ rest.takeWhile (· != '\x7d') := by
        rw [List.takeWhile_append] at bounds ⊢
        split
        · simp
        · rename_i stops
          rw [if_neg stops] at bounds
          have short := (List.takeWhile_prefix (l := inner) (· != '\x7d')).length_le
          simp only [List.length_cons] at reaches
          omega
      rw [whole] at read
      exact value_of_append read shown
    · cases read

theorem mem_interpolations : name ∈ findAll interpolationPipe? text ↔ Interpolates text name := by
  constructor
  · intro member
    obtain ⟨front, rest, found, rfl, read, rfl⟩ := exists_place member
    unfold interpolationPipe? at read
    split at read
    · exact ⟨front, _, found, rfl, read, rfl⟩
    · cases read
  · rintro ⟨front, rest, found, rfl, shown, rfl⟩
    exact mem_findAll_of_place (List.cons_ne_nil _ _) shown
      fun lead first _ read reaches => value_of_reaching read reaches shown

end Interpolations

section Bindings

variable {front rest : List Char}

/-- Every value that is opened in the text is closed in it. -/
def ClosesValues (text : List Char) : Prop :=
  ∀ front rest, text = front ++ '=' :: '"' :: rest → '"' ∈ rest

/-- No bound value begins where two texts meet. -/
def Apart (front rest : List Char) : Prop :=
  (∀ c ∈ front.getLast?, c ≠ '=' ∧ isBindingChar c = false) ∨ ∀ c ∈ rest.head?, c ≠ '=' ∧ c ≠ '"'

theorem ClosesValues.suffix {text part : List Char} (closes : ClosesValues text)
    (suffix : part <:+ text) : ClosesValues part := by
  obtain ⟨lead, rfl⟩ := suffix
  intro front rest split
  exact closes (lead ++ front) rest (by rw [split, List.append_assoc])

theorem Apart.suffix {part : List Char} (apart : Apart front rest) (suffix : part <:+ front) :
    Apart part rest := by
  refine apart.imp_left fun ends c last => ends c ?_
  obtain ⟨lead, rfl⟩ := suffix
  rw [List.getLast?_append, Option.mem_def.mp last]
  rfl

/-- A word that goes on in front of a bound value moves the value and changes nothing else. -/
theorem bindingPipe?_cons {c : Char} (word : isBindingChar c = true)
    (other : ∀ d ∈ rest.head?, d ≠ '=') : bindingPipe? (c :: rest) =
      (bindingPipe? rest).map fun found => ⟨found.value, found.size + 1⟩ := by
  unfold bindingPipe?
  rw [List.takeWhile_cons_of_pos word, List.dropWhile_cons_of_pos word]
  cases name : rest.takeWhile isBindingChar with
  | nil =>
    have whole := (exists_run isBindingChar rest).1
    rw [name, List.nil_append] at whole
    rw [← whole]
    split
    · exact absurd rfl (other '=' rfl)
    · rfl
  | cons d others =>
    split
    · rename_i first tail value same quoted
      rw [quoted]
      rw [← (List.cons.inj same).2]
      exact lastPipe?_shift _ _
    · rename_i unquoted
      split
      · rename_i first tail value same quoted
        exact absurd quoted (unquoted c (d :: others) value rfl)
      · rfl

private theorem bindingPipe?_size {text : List Char} {found : Found (List Char)}
    (read : bindingPipe? text = some found) : 0 < found.size := by
  unfold bindingPipe? at read
  split at read
  · have bounds := (lastPipe?_size read).1
    omega
  · cases read

theorem findAll_cons_of_word {c : Char} (word : isBindingChar c = true)
    (other : ∀ d ∈ rest.head?, d ≠ '=') :
    findAll bindingPipe? (c :: rest) = findAll bindingPipe? rest := by
  have here := bindingPipe?_cons word other
  rw [findAll, findAllFrom, here]
  cases read : bindingPipe? rest with
  | none => rfl
  | some found =>
    have size := bindingPipe?_size read
    cases rest with
    | nil => cases read
    | cons d rest =>
      obtain ⟨more, shape⟩ := Nat.exists_eq_add_of_lt size
      simp only [Option.map_some, findAll, findAllFrom, read, shape, Nat.zero_add, Nat.add_sub_cancel]

theorem findAll_append_of_word {word : List Char} (taken : ∀ c ∈ word, isBindingChar c = true)
    (other : ∀ c ∈ rest.head?, c ≠ '=') :
    findAll bindingPipe? (word ++ rest) = findAll bindingPipe? rest := by
  induction word with
  | nil => rfl
  | cons c word ih =>
    have next : ∀ d ∈ (word ++ rest).head?, d ≠ '=' := by
      cases word with
      | nil => exact other
      | cons d word =>
        intro e first same
        obtain rfl : d = '=' := (Option.some.inj first).trans same
        exact absurd (taken '=' (by simp)) (by decide)
    rw [List.cons_append, findAll_cons_of_word (taken c List.mem_cons_self) next,
      ih fun d member => taken d (List.mem_cons_of_mem c member)]

section Words

variable {word tail : List Char} {d : Char} (taken : ∀ c ∈ word, isBindingChar c = true)
include taken

theorem bindingPipe?_unbound (stop : isBindingChar d = false)
    (other : d ≠ '=' ∨ ∀ c ∈ tail.head?, c ≠ '"') : bindingPipe? (word ++ d :: tail) = none := by
  have free : ∀ c ∈ (d :: tail).head?, isBindingChar c = false :=
    fun c first => Option.some.inj first ▸ stop
  unfold bindingPipe?
  rw [takeWhile_append_stop taken free, dropWhile_append_stop taken free]
  split
  · rename_i same
    obtain ⟨rfl, rfl⟩ := List.cons.inj same
    rcases other with other | other
    · exact absurd rfl other
    · exact absurd rfl (other '"' rfl)
  · rfl

theorem bindingPipe?_bound (nonempty : word ≠ []) : bindingPipe? (word ++ '=' :: '"' :: tail) =
    lastPipe? (word.length + 2) (tail.takeWhile (· != '"')) := by
  have free : ∀ c ∈ ('=' :: '"' :: tail).head?, isBindingChar c = false :=
    fun c first => Option.some.inj first ▸ (by decide : isBindingChar '=' = false)
  unfold bindingPipe?
  rw [takeWhile_append_stop taken free, dropWhile_append_stop taken free]
  cases word with
  | nil => exact absurd rfl nonempty
  | cons c word => rfl

end Words

/-- Where a text closes its values, its first bound value does not depend on what follows. -/
theorem bindingPipe?_append (closes : ClosesValues front) (apart : Apart front rest)
    (stops : ∃ c ∈ front, isBindingChar c = false) :
    bindingPipe? (front ++ rest) = bindingPipe? front ∧
      ∀ found ∈ bindingPipe? front, found.size < front.length := by
  obtain ⟨split, taken, ends⟩ := exists_run isBindingChar front
  cases shape : front.dropWhile isBindingChar with
  | nil =>
    rw [shape, List.append_nil] at split
    obtain ⟨c, member, refused⟩ := stops
    rw [split] at member
    rw [taken c member] at refused
    cases refused
  | cons d tail =>
    rw [shape] at split ends
    have stop : isBindingChar d = false := ends d rfl
    clear shape ends
    generalize front.takeWhile isBindingChar = word at split taken
    subst split
    rw [List.append_assoc, List.cons_append]
    by_cases value : word ≠ [] ∧ d = '=' ∧ tail.head? = some '"'
    · obtain ⟨nonempty, rfl, quoted⟩ := value
      obtain ⟨value, rfl⟩ := List.head?_eq_some_iff.mp quoted
      have closed : ∃ c ∈ value, (c != '"') = false := ⟨'"', closes word value rfl, by decide⟩
      obtain ⟨same, short⟩ := takeWhile_append_of_refused closed rest
      rw [List.cons_append, bindingPipe?_bound taken nonempty, bindingPipe?_bound taken nonempty, same]
      refine ⟨rfl, fun found read => ?_⟩
      have bounds := (lastPipe?_size read).2
      simp only [List.length_append, List.length_cons] at bounds short ⊢
      omega
    · by_cases empty : word = []
      · subst empty
        have none (rest : List Char) : bindingPipe? (d :: rest) = none := by
          simp [bindingPipe?, stop]
        rw [List.nil_append, List.nil_append, none, none]
        exact ⟨rfl, by simp⟩
      · have other : d ≠ '=' ∨ ∀ c ∈ tail.head?, c ≠ '"' := by
          by_cases sign : d = '='
          · exact Or.inr fun c first same => value ⟨empty, sign, same ▸ first⟩
          · exact Or.inl sign
        have further : d ≠ '=' ∨ ∀ c ∈ (tail ++ rest).head?, c ≠ '"' := by
          cases tail with
          | cons c tail => exact other
          | nil =>
            rcases apart with sign | free
            · exact Or.inl (sign d (by simp)).1
            · exact Or.inr fun c first => (free c first).2
        rw [bindingPipe?_unbound taken stop further, bindingPipe?_unbound taken stop other]
        exact ⟨rfl, by simp⟩

/-- Where a text closes its values, its bound values are found apart from those behind it. -/
theorem findAll_bindings_append (closes : ClosesValues front) (apart : Apart front rest) :
    findAll bindingPipe? (front ++ rest) =
      findAll bindingPipe? front ++ findAll bindingPipe? rest := by
  induction size : front.length using Nat.strong_induction_on generalizing front with
  | _ size ih =>
    subst size
    by_cases word : ∀ c ∈ front, isBindingChar c = true
    · -- A word goes on into what follows; alone it binds nothing.
      have alone : findAll bindingPipe? (front ++ []) = findAll bindingPipe? [] :=
        findAll_append_of_word word (by simp)
      rw [List.append_nil] at alone
      rw [alone]
      cases shape : front.getLast? with
      | none => rw [List.getLast?_eq_none_iff.mp shape]; rfl
      | some c =>
        have last : isBindingChar c = true := word c (List.mem_of_getLast? shape)
        rcases apart with ends | free
        · rw [(ends c shape).2] at last
          cases last
        · exact findAll_append_of_word word fun c first => (free c first).1
    · have stops : ∃ c ∈ front, isBindingChar c = false := by simpa using word
      obtain ⟨same, within⟩ := bindingPipe?_append closes apart stops
      cases front with
      | nil => simp at stops
      | cons c front =>
        have closed {part : List Char} (suffix : part <:+ front) : ClosesValues part :=
          closes.suffix (suffix.trans (List.suffix_cons c front))
        have parted {part : List Char} (suffix : part <:+ front) : Apart part rest :=
          apart.suffix (suffix.trans (List.suffix_cons c front))
        rw [List.cons_append] at same
        rw [List.cons_append, findAll_cons, findAll_cons, same]
        cases read : bindingPipe? (c :: front) with
        | none => exact ih front.length (by simp) (closed List.suffix_rfl) (parted List.suffix_rfl) rfl
        | some found =>
          have short := within found read
          rw [List.length_cons] at short
          have inside : found.size - 1 ≤ front.length := by omega
          have part : front.drop (found.size - 1) <:+ front := List.drop_suffix _ _
          have own := findAllFrom_append bindingPipe? inside []
          rw [List.append_nil, List.append_nil] at own
          simp only [findAllFrom_append bindingPipe? inside rest, own, List.cons_append]
          congr 1
          refine ih _ ?_ (closed part) (parted part) rfl
          rw [List.length_drop, List.length_cons]
          omega

end Bindings

section Meeting

variable {front rest name : List Char}

/-- Every interpolation and every value that is opened in the text is closed in it. -/
structure Closed (text : List Char) : Prop where
  interpolations : ∀ front rest, text = front ++ '\x7b' :: '\x7b' :: rest → '\x7d' ∈ rest
  values : ClosesValues text

instance (text : List Char) : Decidable (ClosesValues text) :=
  decidable_of_iff (∀ rest ∈ behindAll ['=', '"'] text, '"' ∈ rest) forall_behindAll

instance (text : List Char) : Decidable (Closed text) :=
  decidable_of_iff ((∀ rest ∈ behindAll ['\x7b', '\x7b'] text, '\x7d' ∈ rest) ∧ ClosesValues text)
    ⟨fun both => ⟨forall_behindAll.mp both.1, both.2⟩,
      fun closed => ⟨forall_behindAll.mpr closed.interpolations, closed.values⟩⟩

theorem Closed.suffix (closed : Closed (front ++ rest)) : Closed rest := by
  refine ⟨fun lead tail split => ?_, closed.values.suffix (List.suffix_append front rest)⟩
  exact closed.interpolations (front ++ lead) tail (by rw [split, List.append_assoc])

theorem closesValues_of_unquoted {text : List Char} (unquoted : '"' ∉ text) : ClosesValues text :=
  fun _ _ split => absurd (split ▸ by simp) unquoted

theorem mem_pipesOf {text : List Char} : name ∈ pipesOf text ↔
    Interpolates text name ∨ name ∈ findAll bindingPipe? text := by
  rw [pipesOf, List.mem_append, mem_interpolations]

/-- The pipes of a text stay where another text stands in front. -/
theorem mem_pipesOf_behind (closes : ClosesValues front) (apart : Apart front rest)
    (member : name ∈ pipesOf rest) : name ∈ pipesOf (front ++ rest) := by
  rcases mem_pipesOf.mp member with ⟨lead, tail, found, rfl, shown, named⟩ | bound
  · exact mem_pipesOf.mpr (Or.inl ⟨front ++ lead, tail, found, by simp, shown, named⟩)
  · refine mem_pipesOf.mpr (Or.inr ?_)
    rw [findAll_bindings_append closes apart]
    exact List.mem_append_right _ bound

/-- The pipes of a closed text stay where another text stands behind. -/
theorem mem_pipesOf_front (closed : Closed front) (apart : Apart front rest)
    (member : name ∈ pipesOf front) : name ∈ pipesOf (front ++ rest) := by
  rcases mem_pipesOf.mp member with ⟨lead, tail, found, rfl, shown, named⟩ | bound
  · have ends : ∃ c ∈ tail, (c != '\x7d') = false :=
      ⟨_, closed.interpolations lead tail rfl, by decide⟩
    refine mem_pipesOf.mpr (Or.inl ⟨lead, tail ++ rest, found, by simp, ?_, named⟩)
    rw [(takeWhile_append_of_refused ends rest).1, shown]
  · refine mem_pipesOf.mpr (Or.inr ?_)
    rw [findAll_bindings_append closed.values apart]
    exact List.mem_append_left _ bound

/-- Where a closed text and another meet no pipe begins. -/
theorem mem_pipesOf_meeting (closed : Closed front) (apart : Apart front rest)
    (braces : front.getLast? ≠ some '\x7b' ∨ rest.head? ≠ some '\x7b')
    (member : name ∈ pipesOf (front ++ rest)) : name ∈ pipesOf front ∨ name ∈ pipesOf rest := by
  rcases mem_pipesOf.mp member with ⟨lead, tail, found, split, shown, named⟩ | bound
  · rcases List.append_eq_append_iff.mp split with ⟨inner, _, same⟩ | ⟨inner, rfl, same⟩
    · exact Or.inr (mem_pipesOf.mpr (Or.inl ⟨inner, tail, found, same, shown, named⟩))
    · match inner with
      | [] => exact Or.inr (mem_pipesOf.mpr (Or.inl ⟨[], tail, found, same.symm, shown, named⟩))
      | [c] =>
        obtain ⟨rfl, meets⟩ := List.cons.inj same
        have first : rest.head? = some '\x7b' := (congrArg List.head? meets).symm
        rcases braces with last | other
        · exact absurd (List.getLast?_concat) last
        · exact absurd first other
      | c :: d :: inner =>
        simp only [List.cons_append, List.cons.injEq] at same
        obtain ⟨rfl, rfl, rfl⟩ := same
        have ends : ∃ c ∈ inner, (c != '\x7d') = false :=
          ⟨_, closed.interpolations lead inner rfl, by decide⟩
        rw [(takeWhile_append_of_refused ends rest).1] at shown
        exact Or.inl (mem_pipesOf.mpr (Or.inl ⟨lead, inner, found, rfl, shown, named⟩))
  · rw [findAll_bindings_append closed.values apart] at bound
    rcases List.mem_append.mp bound with bound | bound
    · exact Or.inl (mem_pipesOf.mpr (Or.inr bound))
    · exact Or.inr (mem_pipesOf.mpr (Or.inr bound))

end Meeting

end Blueprint.Markup
