import Mathlib.Data.List.Basic
import Blueprint.Client.Routes
import Blueprint.Proofs.Naming
import Blueprint.Proofs.Text

namespace Blueprint.Text

section Capitals

theorem isWord_ofNat {n : Nat} (word : wordBits.testBit n = true) : isWord (Char.ofNat n) = true := by
  have code : (Char.ofNat n).toNat = n := toNat_ofNat_of_valid (valid_of_testBit_wordBits word)
  rw [← testBit_wordBits, code, word]

private theorem upperRuns_images : ∀ run ∈ upperRuns,
    marks (run.pointsFrom run.first) &&& wordBits = 0 ∨
      marks (run.pointsFrom run.image) &&& wordBits = marks (run.pointsFrom run.image) := by
  decide +kernel

private theorem isWord_image {c : Char} {n : Nat} (word : isWord c = true)
    (found : CaseRun.image? upperRuns c.toNat = some n) : isWord (Char.ofNat n) = true := by
  obtain ⟨run, listed, inside, place, rfl⟩ := exists_run_of_image? found
  refine isWord_ofNat ?_
  have source := testBit_marks (CaseRun.mem_pointsFrom_first inside place)
  have image := testBit_marks (run.mem_pointsFrom run.image inside.2 place)
  rcases upperRuns_images run listed with apart | words
  · have none := congrArg (·.testBit c.toNat) apart
    simp only [Nat.testBit_and, source, testBit_wordBits, word, Nat.zero_testBit] at none
    cases none
  · have kept := congrArg (·.testBit (run.image + (c.toNat - run.first))) words
    simpa only [Nat.testBit_and, image, Bool.true_and] using kept

/-- The capital of a word character starts with a word character, and no colon comes with it. -/
theorem upperChar_of_isWord {c : Char} (word : isWord c = true) :
    ∃ d rest, upperChar c = d :: rest ∧ isWord d = true ∧ ':' ∉ rest := by
  unfold upperChar
  split
  · rename_i ascii
    have capital : isWord c = true → isWord c.toUpper = true :=
      of_ascii c ascii (by decide +kernel)
    exact ⟨c.toUpper, [], rfl, capital word, nofun⟩
  · rename_i beyond
    unfold mapped
    split
    · rename_i n found
      exact ⟨_, [], rfl, isWord_image word found, nofun⟩
    · split
      · rename_i images found
        have wide : ∀ entry ∈ upperWide, entry.2.head?.any wordBits.testBit = true ∧
            ∀ n ∈ entry.2.tail, Char.ofNat n ≠ ':' := by decide +kernel
        obtain ⟨front, back, same, _⟩ := List.lookup_eq_some_iff.mp found
        have here := wide (c.toNat, images) (same ▸ List.mem_append_right _ List.mem_cons_self)
        cases images with
        | nil => cases here.1
        | cons n rest =>
          refine ⟨Char.ofNat n, rest.map Char.ofNat, rfl, isWord_ofNat here.1, fun colon => ?_⟩
          obtain ⟨m, member, same⟩ := List.mem_map.mp colon
          exact here.2 m member same
      · exact ⟨c, [], rfl, word, nofun⟩

end Capitals

end Blueprint.Text

namespace Blueprint.RoutePath

open Blueprint.Text

section Names

variable {property field rest : List Char} {c : Char}

theorem ascii_of_startsName (starts : startsName c = true) : c.toNat < 0x80 := by
  rcases Bool.or_eq_true _ _ |>.mp starts with letter | underscore
  · rcases Bool.or_eq_true _ _ |>.mp letter with upper | lower
    · have below : c.val ≤ 'Z'.val := (of_decide_eq_true upper).2
      exact Nat.lt_of_le_of_lt (UInt32.le_iff_toNat_le.mp below) (by decide)
    · have below : c.val ≤ 'z'.val := of_decide_eq_true (Bool.and_eq_true _ _ |>.mp lower).2
      exact Nat.lt_of_le_of_lt (UInt32.le_iff_toNat_le.mp below) (by decide)
  · rw [beq_iff_eq.mp underscore]
    decide

theorem isWord_of_startsName (starts : startsName c = true) : isWord c = true := by
  rw [isWord, if_pos (ascii_of_startsName starts)]
  rcases Bool.or_eq_true _ _ |>.mp starts with letter | underscore
  · simp [Char.isAlphanum, letter]
  · simp [underscore]

private theorem ne_colon_of_isWord (word : isWord c = true) : c ≠ ':' := by
  rintro rfl
  cases word

/-- A part of a dotted name: word characters, and at least one. -/
structure IsPart (part : List Char) : Prop where
  filled : part ≠ []
  words : ∀ c ∈ part, isWord c = true

/-- A part that a parameter may have. -/
structure IsName (part : List Char) : Prop extends IsPart part where
  starts : ∀ c ∈ part.head?, startsName c = true

/-- No word character comes first. -/
def Stops (rest : List Char) : Prop := ∀ c ∈ rest.head?, isWord c = false

private theorem stops_nil : Stops [] := nofun

theorem stops_dot (rest : List Char) : Stops ('.' :: rest) := by
  rintro c ⟨rfl⟩
  rfl

theorem IsPart.takeWhile (part : IsPart field) (stops : Stops rest) :
    (field ++ rest).takeWhile isWord = field :=
  takeWhile_append_stop part.words stops

theorem IsPart.dropWhile (part : IsPart field) (stops : Stops rest) :
    (field ++ rest).dropWhile isWord = rest :=
  dropWhile_append_stop part.words stops

theorem IsPart.colon_not_mem (part : IsPart field) : ':' ∉ field :=
  fun colon => ne_colon_of_isWord (part.words _ colon) rfl

theorem IsName.append (first : IsName property) (second : IsPart field) :
    IsName (property ++ field) := by
  refine ⟨⟨by simp [first.filled], fun c listed => ?_⟩, ?_⟩
  · exact (List.mem_append.mp listed).elim (first.words c) (second.words c)
  · rw [← List.append_nil property, List.append_assoc, head?_append_eq first.filled _ []]
    simpa using first.starts

theorem IsPart.exists_upperHead (part : IsPart field) :
    ∃ d rest, Naming.upperHead field = d :: rest ∧ isWord d = true ∧ ':' ∉ d :: rest := by
  obtain ⟨c, tail, rfl⟩ := List.exists_cons_of_ne_nil part.filled
  obtain ⟨d, rest, same, word, absent⟩ := upperChar_of_isWord (part.words c List.mem_cons_self)
  refine ⟨d, rest ++ tail, by rw [Naming.upperHead, same, List.cons_append], word, ?_⟩
  rw [List.mem_cons, List.mem_append]
  rintro (colon | colon | colon)
  · exact ne_colon_of_isWord word colon.symm
  · exact absent colon
  · exact part.colon_not_mem (List.mem_cons_of_mem _ colon)

theorem IsName.isPart_upperHead (part : IsName field) : IsPart (Naming.upperHead field) := by
  obtain ⟨c, tail, rfl⟩ := List.exists_cons_of_ne_nil part.filled
  have starts : startsName c = true := part.starts c rfl
  obtain ⟨d, rest, same, word, _⟩ := upperChar_of_isWord (isWord_of_startsName starts)
  rw [upperChar, if_pos (ascii_of_startsName starts)] at same
  cases same
  rw [Naming.upperHead, upperChar, if_pos (ascii_of_startsName starts), List.singleton_append]
  exact ⟨nofun, List.forall_mem_cons.mpr ⟨word, (List.forall_mem_cons.mp part.words).2⟩⟩

end Names

section Scans

variable {text name property field rest : List Char}

/-- A text goes on with a dot and a character at which something starts. -/
def goesOn (starts : Char → Bool) : List Char → Bool
  | '.' :: c :: _ => starts c
  | _ => false

theorem exists_of_goesOn {starts : Char → Bool} (onwards : goesOn starts rest = true) :
    ∃ c more, rest = '.' :: c :: more ∧ starts c = true := by
  unfold goesOn at onwards
  split at onwards
  · exact ⟨_, _, rfl, onwards⟩
  · cases onwards

theorem eq_drop_of_skips {α : Type} {walk : Nat → List Char → α}
    (ends : ∀ skip, walk skip [] = walk 0 [])
    (skips : ∀ skip c text, walk (skip + 1) (c :: text) = walk skip text) (skip : Nat)
    (text : List Char) : walk skip text = walk 0 (text.drop skip) := by
  induction text generalizing skip with
  | nil => rw [ends, List.drop_nil]
  | cons c text ih =>
    cases skip with
    | zero => rfl
    | succ skip => rw [skips, ih, List.drop_succ_cons]

private theorem paramsFrom_eq_drop (skip : Nat) (text : List Char) :
    paramsFrom skip text = paramsFrom 0 (text.drop skip) :=
  eq_drop_of_skips (fun _ => rfl) (fun _ _ _ => rfl) skip text

private theorem foldFrom_eq_drop (skip : Nat) (text : List Char) :
    foldFrom skip text = foldFrom 0 (text.drop skip) :=
  eq_drop_of_skips (fun _ => rfl) (fun _ _ _ => rfl) skip text

theorem foldFrom_cons_of_ne {c : Char} (other : c ≠ ':') (text : List Char) :
    foldFrom 0 (c :: text) = c :: foldFrom 0 text := by
  simp [foldFrom, other]

theorem foldFrom_append_of_absent {front : List Char} (absent : ':' ∉ front) (rest : List Char) :
    foldFrom 0 (front ++ rest) = front ++ foldFrom 0 rest := by
  induction front with
  | nil => rfl
  | cons c front ih =>
    rw [List.mem_cons, not_or] at absent
    rw [List.cons_append, foldFrom_cons_of_ne (Ne.symm absent.1), ih absent.2, List.cons_append]

theorem head?_foldFrom (text : List Char) : (foldFrom 0 text).head? = text.head? := by
  cases text with
  | nil => rfl
  | cons c text =>
    unfold foldFrom
    split
    · omega
    · split
      · rename_i colon
        rw [beq_iff_eq.mp colon]
        split <;> rfl
      · rfl

/-- Folding does not touch a dot and what comes next to it. -/
theorem goesOn_foldFrom (starts : Char → Bool) (text : List Char) :
    goesOn starts (foldFrom 0 text) = goesOn starts text := by
  have next (text : List Char) :
      goesOn starts ('.' :: text) = text.head?.any starts := by cases text <;> rfl
  cases text with
  | nil => rfl
  | cons c text =>
    by_cases dot : c = '.'
    · subst dot
      rw [foldFrom_cons_of_ne (by decide), next, next, head?_foldFrom]
    · have apart (text : List Char) : goesOn starts (c :: text) = false := by
        cases text <;> simp [goesOn, dot]
      have head := head?_foldFrom (c :: text)
      cases folded : foldFrom 0 (c :: text) with
      | nil => rw [apart, goesOn]; nofun
      | cons d rest =>
        rw [folded] at head
        cases head
        rw [apart, apart]

theorem Stops.foldFrom (stops : Stops rest) : Stops (foldFrom 0 rest) := by
  rwa [Stops, head?_foldFrom]

theorem dottedAt?_append (first : IsPart property) (second : IsPart field) (stops : Stops rest) :
    dottedAt? (property ++ '.' :: (field ++ rest)) = some (property, field) := by
  obtain ⟨c, property, rfl⟩ := List.exists_cons_of_ne_nil first.filled
  obtain ⟨d, field, rfl⟩ := List.exists_cons_of_ne_nil second.filled
  simp only [dottedAt?, first.takeWhile (stops_dot _), first.dropWhile (stops_dot _),
    second.takeWhile stops]

theorem exists_of_dottedAt? (found : dottedAt? text = some (property, field)) :
    IsPart property ∧ IsPart field ∧
      ∃ rest, text = property ++ '.' :: (field ++ rest) ∧ Stops rest := by
  obtain ⟨same, words, _⟩ := exists_run isWord text
  unfold dottedAt? at found
  split at found
  · rename_i c property' more front behind
    obtain ⟨again, others, stops⟩ := exists_run isWord more
    split at found
    · cases found
    · rename_i filled
      cases found
      rw [front, behind] at same
      refine ⟨⟨by simp, front ▸ words⟩, ⟨filled, others⟩, _, ?_, stops⟩
      rw [← again]
      exact same
  · cases found

/-- The parameter in front of a text that starts with a name. -/
theorem paramAt?_append (part : IsName name) (stops : Stops rest) : paramAt? (name ++ rest) =
    some (if goesOn startsName rest then name ++ '.' :: rest.tail.takeWhile isWord else name) := by
  obtain ⟨c, tail, rfl⟩ := List.exists_cons_of_ne_nil part.filled
  have words : ∀ c ∈ tail, isWord c = true := (List.forall_mem_cons.mp part.words).2
  have starts : startsName c = true := part.starts c rfl
  simp only [List.cons_append, paramAt?, starts, ↓reduceIte, takeWhile_append_stop words stops,
    dropWhile_append_stop words stops]
  split
  · rename_i d more
    cases onwards : startsName d with
    | false => simp [goesOn, onwards]
    | true => simp [goesOn, onwards, isWord_of_startsName onwards]
  · rename_i closed
    cases onwards : goesOn startsName rest with
    | false => rfl
    | true =>
      obtain ⟨d, more, same, _⟩ := exists_of_goesOn onwards
      exact absurd same (closed d more)

theorem isSome_paramAt? (text : List Char) :
    (paramAt? text).isSome = text.head?.any startsName := by
  cases text with
  | nil => rfl
  | cons c text =>
    cases starts : startsName c with
    | false => simp [paramAt?, starts]
    | true =>
      obtain ⟨same, words, stops⟩ := exists_run isWord text
      have part : IsName (c :: text.takeWhile isWord) :=
        ⟨⟨nofun, List.forall_mem_cons.mpr ⟨isWord_of_startsName starts, words⟩⟩, by simp [starts]⟩
      have found := paramAt?_append part stops
      rw [List.cons_append, ← same] at found
      simp [found, starts]

/-- A parameter is a name, or two with a dot between them. -/
theorem exists_of_paramAt? (found : paramAt? text = some name) :
    ∃ rest, text = name ++ rest ∧ Stops rest ∧
      (IsName name ∧ goesOn startsName rest = false ∨
        ∃ property field, name = property ++ '.' :: field ∧ IsName property ∧ IsName field) := by
  have starts := isSome_paramAt? text
  rw [found] at starts
  obtain ⟨same, words, stops⟩ := exists_run isWord text
  have part : IsName (text.takeWhile isWord) := by
    cases text with
    | nil => cases starts
    | cons c text =>
      have starts : startsName c = true := starts.symm
      rw [List.takeWhile_cons_of_pos (isWord_of_startsName starts)] at words ⊢
      exact ⟨⟨nofun, words⟩, by simp [starts]⟩
  rw [same, paramAt?_append part stops, Option.some.injEq] at found
  split at found
  · rename_i onwards
    obtain ⟨c, more, behind, starts⟩ := exists_of_goesOn onwards
    obtain ⟨again, others, ends⟩ := exists_run isWord (c :: more)
    rw [behind, List.tail_cons] at found
    rw [List.takeWhile_cons_of_pos (isWord_of_startsName starts)] at found others again
    refine ⟨(c :: more).dropWhile isWord, ?_, ends, Or.inr ⟨_, _, found.symm, part, ?_⟩⟩
    · rw [← found, List.append_assoc, List.cons_append, ← again, ← behind]
      exact same
    · exact ⟨⟨nofun, others⟩, by simp [starts]⟩
  · rename_i closed
    exact ⟨_, found ▸ same, stops, Or.inl ⟨found ▸ part, by simpa using closed⟩⟩

end Scans

section Keys

variable {text name property field rest : List Char}

theorem foldFrom_colon (text : List Char) : foldFrom 0 (':' :: text) = ':' :: paramKey text := by
  have colon := head?_foldFrom (':' :: text)
  unfold paramKey
  cases folded : foldFrom 0 (':' :: text) with
  | nil => rw [folded] at colon; cases colon
  | cons c rest =>
    rw [folded] at colon
    cases colon
    rfl

theorem paramKey_dotted (first : IsPart property) (second : IsPart field) (stops : Stops rest) :
    paramKey (property ++ '.' :: (field ++ rest)) =
      property ++ (Naming.upperHead field ++ foldFrom 0 rest) := by
  have behind : (property ++ '.' :: (field ++ rest)).drop (property.length + 1 + field.length) =
      rest := by
    have split : property ++ '.' :: (field ++ rest) = (property ++ '.' :: field) ++ rest := by simp
    rw [split, List.drop_left' (by simp; omega)]
  simp only [paramKey, foldFrom, dottedAt?_append first second stops, foldFrom_eq_drop
    (property.length + 1 + field.length), behind]
  simp

theorem paramKey_of_undotted (none : dottedAt? text = none) : paramKey text = foldFrom 0 text := by
  simp [paramKey, foldFrom, none]

private theorem dottedAt?_of_closed (part : IsPart name) (stops : Stops rest)
    (closed : goesOn isWord rest = false) : dottedAt? (name ++ rest) = none := by
  cases found : dottedAt? (name ++ rest) with
  | none => rfl
  | some parts =>
    obtain ⟨first, second, more, same, _⟩ := exists_of_dottedAt? found
    have behind := congrArg (List.dropWhile isWord) same
    rw [part.dropWhile stops, first.dropWhile (stops_dot _)] at behind
    obtain ⟨c, field, filled⟩ := List.exists_cons_of_ne_nil second.filled
    have word : isWord c = true := second.words c (by simp [filled])
    simp [behind, filled, goesOn, word] at closed

private theorem paramKey_of_closed (part : IsPart name) (stops : Stops rest)
    (closed : goesOn isWord rest = false) : paramKey (name ++ rest) = name ++ foldFrom 0 rest := by
  rw [paramKey_of_undotted (dottedAt?_of_closed part stops closed),
    foldFrom_append_of_absent part.colon_not_mem]

private theorem head?_paramKey (text : List Char) : (paramKey text).head? = text.head? := by
  cases found : dottedAt? text with
  | none => rw [paramKey_of_undotted found, head?_foldFrom]
  | some parts =>
    obtain ⟨first, second, rest, rfl, stops⟩ := exists_of_dottedAt? found
    rw [paramKey_dotted first second stops]
    exact head?_append_eq first.filled _ _

private theorem paramKey_of_name (part : IsPart name) : paramKey name = name := by
  have own := paramKey_of_closed part stops_nil rfl
  rwa [foldFrom, List.append_nil] at own

/-- A name keeps to itself unless a word character follows behind a dot. -/
theorem paramAt?_paramKey_name_iff (part : IsName name) (stops : Stops rest)
    (closed : goesOn startsName rest = false) :
    paramAt? (paramKey (name ++ rest)) = some name ↔ goesOn isWord rest = false := by
  cases onwards : goesOn isWord rest with
  | false =>
    rw [paramKey_of_closed part.toIsPart stops onwards, paramAt?_append part stops.foldFrom,
      goesOn_foldFrom, closed]
    simp
  | true =>
    obtain ⟨c, more, rfl, word⟩ := exists_of_goesOn onwards
    obtain ⟨same, words, ends⟩ := exists_run isWord (c :: more)
    have field : IsPart ((c :: more).takeWhile isWord) := ⟨by simp [word], words⟩
    have key := paramKey_dotted part.toIsPart field ends
    rw [← same] at key
    obtain ⟨d, tail, capital, letter, _⟩ := field.exists_upperHead
    refine iff_of_false (fun found => ?_) Bool.noConfusion
    obtain ⟨rest, split, stops, _⟩ := exists_of_paramAt? (key ▸ found)
    rw [← List.append_cancel_left split, capital] at stops
    rw [stops d rfl] at letter
    cases letter

theorem paramAt?_paramKey_dotted_iff (first : IsName property) (second : IsName field)
    (stops : Stops rest) :
    paramAt? (paramKey (property ++ '.' :: (field ++ rest))) =
      some (paramKey (property ++ '.' :: field)) ↔ goesOn startsName rest = false := by
  have own := paramKey_dotted first.toIsPart second.toIsPart stops_nil
  rw [List.append_nil, foldFrom, List.append_nil] at own
  have joined := first.append second.isPart_upperHead
  rw [own, paramKey_dotted first.toIsPart second.toIsPart stops, ← List.append_assoc,
    paramAt?_append joined stops.foldFrom, goesOn_foldFrom]
  cases goesOn startsName rest <;> simp

/-- What follows a parameter is not taken for more of its name: no further name behind a dot where
the parameter has two already, and no word character behind a dot where it has one. -/
def Settled (name rest : List Char) : Prop :=
  goesOn (if '.' ∈ name then startsName else isWord) rest = false

theorem paramAt?_paramKey_iff (found : paramAt? (name ++ rest) = some name) :
    paramAt? (paramKey (name ++ rest)) = some (paramKey name) ↔ Settled name rest := by
  obtain ⟨behind, same, stops, kind⟩ := exists_of_paramAt? found
  obtain rfl := List.append_cancel_left same
  rcases kind with ⟨part, closed⟩ | ⟨property, field, rfl, first, second⟩
  · have undotted : '.' ∉ name := fun dot => by cases part.words _ dot
    rw [Settled, if_neg undotted, paramKey_of_name part.toIsPart]
    exact paramAt?_paramKey_name_iff part stops closed
  · rw [Settled, if_pos (by simp), List.append_assoc, List.cons_append]
    exact paramAt?_paramKey_dotted_iff first second stops

end Keys

section Paths

@[simp] theorem behindAll_colon_cons (c : Char) (text : List Char) : behindAll [':'] (c :: text) =
    if c = ':' then text :: behindAll [':'] text else behindAll [':'] text := by
  by_cases colon : ':' = c
  · subst colon
    simp [behindAll, after?]
  · simp [behindAll, after?, colon, Ne.symm colon]

theorem behindAll_append_of_absent {front : List Char} (absent : ':' ∉ front) (rest : List Char) :
    behindAll [':'] (front ++ rest) = behindAll [':'] rest := by
  induction front with
  | nil => rfl
  | cons c front ih =>
    rw [List.mem_cons, not_or] at absent
    rw [List.cons_append, behindAll_colon_cons, if_neg (Ne.symm absent.1), ih absent.2]

theorem colon_not_mem_of_paramAt? {text name : List Char} (found : paramAt? text = some name) :
    ':' ∉ name := by
  obtain ⟨rest, _, _, ⟨part, _⟩ | ⟨property, field, rfl, first, second⟩⟩ := exists_of_paramAt? found
  · exact part.colon_not_mem
  · simp [first.colon_not_mem, second.colon_not_mem]

/-- The parameters of a path are those that stand behind its colons. -/
theorem params_eq (path : List Char) : params path = (behindAll [':'] path).filterMap paramAt? := by
  rw [params]
  induction length : path.length using Nat.strong_induction_on generalizing path with
  | _ n ih =>
    cases path with
    | nil => rfl
    | cons c path =>
      subst length
      have shorter (rest : List Char) (short : rest.length ≤ path.length) :
          paramsFrom 0 rest = (behindAll [':'] rest).filterMap paramAt? :=
        ih _ (by simpa using Nat.lt_succ_of_le short) rest rfl
      by_cases colon : c = ':'
      · subst colon
        cases found : paramAt? path with
        | none => simp [paramsFrom, found, shorter path le_rfl]
        | some name =>
          obtain ⟨rest, rfl, _⟩ := exists_of_paramAt? found
          have absent := colon_not_mem_of_paramAt? found
          simp [paramsFrom, found, paramsFrom_eq_drop name.length,
            behindAll_append_of_absent absent, shorter rest (by simp)]
      · simp [paramsFrom, colon, shorter path le_rfl]

/-- Folding keeps the colons of a path, and what stands behind each becomes its key. -/
theorem behindAll_foldFrom (path : List Char) :
    behindAll [':'] (foldFrom 0 path) = (behindAll [':'] path).map paramKey := by
  induction length : path.length using Nat.strong_induction_on generalizing path with
  | _ n ih =>
    cases path with
    | nil => rfl
    | cons c path =>
      subst length
      have shorter (rest : List Char) (short : rest.length ≤ path.length) :
          behindAll [':'] (foldFrom 0 rest) = (behindAll [':'] rest).map paramKey :=
        ih _ (by simpa using Nat.lt_succ_of_le short) rest rfl
      by_cases colon : c = ':'
      · subst colon
        rw [foldFrom_colon]
        simp only [behindAll_colon_cons, ↓reduceIte, List.map_cons, List.cons.injEq, true_and]
        cases found : dottedAt? path with
        | none => rw [paramKey_of_undotted found, shorter path le_rfl]
        | some parts =>
          obtain ⟨property, field⟩ := parts
          obtain ⟨first, second, rest, rfl, stops⟩ := exists_of_dottedAt? found
          have dotted : ':' ∉ property ++ '.' :: field := by
            simp [first.colon_not_mem, second.colon_not_mem]
          have split : property ++ '.' :: (field ++ rest) = (property ++ '.' :: field) ++ rest := by
            simp
          obtain ⟨d, tail, capital, _, absent⟩ := second.exists_upperHead
          rw [paramKey_dotted first second stops, split, capital,
            behindAll_append_of_absent first.colon_not_mem, behindAll_append_of_absent absent,
            behindAll_append_of_absent dotted, shorter rest (by simp; omega)]
      · simp [foldFrom_cons_of_ne colon, colon, shorter path le_rfl]

theorem filterMap_eq_iff {α β : Type} {first second : α → Option β} {items : List α}
    (together : ∀ item ∈ items, (first item).isSome = (second item).isSome) :
    items.filterMap first = items.filterMap second ↔ ∀ item ∈ items, first item = second item := by
  refine ⟨fun same => ?_, List.filterMap_congr⟩
  induction items with
  | nil => exact nofun
  | cons item items ih =>
    rw [List.forall_mem_cons] at together ⊢
    cases one : first item with
    | none =>
      cases other : second item with
      | none =>
        rw [List.filterMap_cons_none one, List.filterMap_cons_none other] at same
        exact ⟨rfl, ih together.2 same⟩
      | some value => simp [one, other] at together
    | some value =>
      cases other : second item with
      | none => simp [one, other] at together
      | some given =>
        rw [List.filterMap_cons_some one, List.filterMap_cons_some other, List.cons.injEq] at same
        exact ⟨congrArg some same.1, ih together.2 same.2⟩

private theorem behindAll_normalize (path : List Char) :
    behindAll [':'] (normalize path) = (behindAll [':'] path).map paramKey := by
  unfold normalize
  split
  · rw [behindAll_foldFrom, behindAll_colon_cons, if_neg (by decide)]
  · exact behindAll_foldFrom path

/-- The parameters of the route are the keys of those of the path exactly if all of these are
settled. -/
theorem params_normalize_iff (path : List Char) :
    params (normalize path) = (params path).map paramKey ↔
      ∀ front name rest, path = front ++ ':' :: (name ++ rest) →
        paramAt? (name ++ rest) = some name → Settled name rest := by
  have together : ∀ text ∈ behindAll [':'] path,
      (paramAt? (paramKey text)).isSome = ((paramAt? text).map paramKey).isSome := by
    intro text _
    rw [Option.isSome_map, isSome_paramAt?, isSome_paramAt?, head?_paramKey]
  rw [params_eq, params_eq, behindAll_normalize, List.filterMap_map, List.map_filterMap]
  refine (filterMap_eq_iff together).trans ?_
  constructor
  · rintro agree front name rest rfl found
    have here := agree (name ++ rest) (mem_behindAll.mpr ⟨front, rfl⟩)
    rw [found] at here
    exact (paramAt?_paramKey_iff found).mp here
  · intro settled text listed
    obtain ⟨front, rfl⟩ := mem_behindAll.mp listed
    cases found : paramAt? text with
    | none =>
      have none := together text listed
      rw [found] at none
      simpa using none
    | some name =>
      obtain ⟨rest, rfl, _⟩ := exists_of_paramAt? found
      exact (paramAt?_paramKey_iff found).mpr (settled front name rest rfl found)

end Paths

end Blueprint.RoutePath

namespace Blueprint.Client

open Design ClientCode

section Reads

variable (registry : Registry) (page : Page) (param : String)

/-- A page has a property for a parameter; a dotted parameter needs it to be a business object. -/
def isRead : Bool :=
  (pageProperty? page (routeParamProperty param).1).any fun property =>
    (routeParamProperty param).2.isNone || (registry.findEntity? property.type.name).isSome

/-- The lines of a parameter: they start with one that takes what the router has under its key, if
the page reads the parameter at all. -/
def TakesKey (lines : List String) : Prop :=
  if isRead registry page param then
    ∃ front back rest,
      lines = (front ++ ("params[" ++ quoted (routeParamKey param) ++ "]") ++ back) :: rest
  else lines = []

variable {registry page param}

private theorem exists_afterRead (page : Page) (property : Design.Property) :
    ∃ lines, (afterRead page property).outcome = .ok lines := by
  unfold afterRead
  split
  · exact ⟨_, rfl⟩
  · split
    · exact ⟨_, rfl⟩
    · exact ⟨[], rfl⟩

theorem exists_readOptions (property : Design.Property) (condition : String) :
    ∃ front back, readOptions property (some condition) = front ++ condition ++ back := by
  have start (first : String) (others : List String) :
      ∃ back, ", ".intercalate (first :: others) = first ++ back := by
    cases others with
    | nil => exact ⟨"", by simp⟩
    | cons second others => exact ⟨_, by rw [String.intercalate_cons_cons, String.append_assoc]⟩
  unfold readOptions
  simp only [Option.map_some, Option.toList_some, List.cons_append,
    List.isEmpty_cons, Bool.false_eq_true, ↓reduceIte]
  obtain ⟨back, same⟩ := start ("where: " ++ condition) _
  rw [same]
  exact ⟨"\x7b " ++ "where: ", back ++ " \x7d", by simp only [String.append_assoc]⟩

/-- The lines of a parameter take its key. -/
theorem paramLines_takesKey (registry : Registry) (page : Page) (param : String) :
    ∃ lines, (paramLines registry page param).outcome = .ok lines ∧
      TakesKey registry page param lines := by
  unfold paramLines TakesKey isRead
  generalize routeParamProperty param = parts
  obtain ⟨name, field⟩ := parts
  simp only
  generalize pageProperty? page name = property
  cases field with
  | none =>
    cases property with
    | none => exact ⟨[], rfl, rfl⟩
    | some property =>
      refine ⟨_, rfl, ?_⟩
      simp only [Option.any_some, Option.isNone_none, Bool.true_or, ↓reduceIte]
      split
      · exact ⟨"this." ++ name ++ " = " ++ "Number(", ")" ++ ";", [],
          by simp only [String.append_assoc]⟩
      · exact ⟨"this." ++ name ++ " = ", ";", [], by simp only [String.append_assoc]⟩
  | some field =>
    cases property with
    | none => exact ⟨[], rfl, rfl⟩
    | some property =>
      cases known : (registry.findEntity? property.type.name).isSome with
      | false => exact ⟨[], by simp [Option.filter, known]; rfl, by simp [known]⟩
      | true =>
        obtain ⟨after, follows⟩ := exists_afterRead page property
        obtain ⟨front, back, options⟩ := exists_readOptions property
          ("\x7b " ++ field ++ ": " ++ ("params[" ++ quoted (routeParamKey param) ++ "]") ++ " \x7d")
        refine ⟨_, by simp [Option.filter, known, follows]; rfl, ?_⟩
        simp only [Option.any_some, Option.isNone_some, known, Bool.or_true, ↓reduceIte]
        refine ⟨"this." ++ name ++ " = await " ++ property.type.name ++ ".findOne(" ++ front ++
          "\x7b " ++ field ++ ": ", " \x7d" ++ back ++ ");", after, ?_⟩
        rw [options]
        simp only [String.append_assoc]

private theorem gather_takesKey (registry : Registry) (page : Page) (params : List String) :
    ∃ groups, (gather (paramLines registry page) params).outcome = .ok groups.flatten ∧
      List.Forall₂ (TakesKey registry page) params groups := by
  induction params with
  | nil => exact ⟨[], rfl, .nil⟩
  | cons param params ih =>
    obtain ⟨lines, done, takes⟩ := paramLines_takesKey registry page param
    obtain ⟨groups, others, rest⟩ := ih
    refine ⟨lines :: groups, ?_, .cons takes rest⟩
    simp [gather, done, others]

theorem exists_pageRoute (page : Page) : ∃ front back,
    pageRoute page = front ++ ("path: " ++ quoted (normalizeRoutePath page.path)) ++ back := by
  have label : "path: " = "path" ++ ": " := rfl
  unfold pageRoute objectText
  simp only [List.map_cons, Text.unlines, String.intercalate_cons_cons, List.isEmpty_cons,
    Bool.false_eq_true, ↓reduceIte, label]
  refine ⟨"\x7b\n" ++ margin (1 + 1), ?back, ?same⟩
  case same =>
    simp only [String.append_assoc]
    rfl

end Reads

private theorem routeParams_normalize_iff (path : String) :
    routeParams (normalizeRoutePath path) = (routeParams path).map routeParamKey ↔
      RoutePath.params (RoutePath.normalize path.toList) =
        (RoutePath.params path.toList).map RoutePath.paramKey := by
  have keys : (routeParams path).map routeParamKey =
      ((RoutePath.params path.toList).map RoutePath.paramKey).map String.ofList := by
    simp [routeParams, routeParamKey, Function.comp_def]
  rw [keys, routeParams, normalizeRoutePath, String.toList_ofList]
  exact (List.map_injective_iff.mpr fun _ _ => String.ofList_injective).eq_iff

/-- The route of a page has the normalized path of the page, and the page reads its parameters in
order, each under its key. The parameters of the route are these keys exactly if nothing that follows
a parameter in the path is taken for more of its name. -/
theorem route_keys_iff (registry : Registry) (page : Page) :
    (∃ front back,
      pageRoute page = front ++ ("path: " ++ quoted (normalizeRoutePath page.path)) ++ back) ∧
    (∃ groups,
      (gather (paramLines registry page) (routeParams page.path)).outcome = .ok groups.flatten ∧
      List.Forall₂ (TakesKey registry page) (routeParams page.path) groups) ∧
    (routeParams (normalizeRoutePath page.path) = (routeParams page.path).map routeParamKey ↔
      ∀ front name rest, page.path.toList = front ++ ':' :: (name ++ rest) →
        RoutePath.paramAt? (name ++ rest) = some name → RoutePath.Settled name rest) :=
  ⟨exists_pageRoute page, gather_takesKey registry page _,
    (routeParams_normalize_iff page.path).trans (RoutePath.params_normalize_iff page.path.toList)⟩

example : routeParams (normalizeRoutePath "/suppliers/:supplier.id/contacts/:contactId") =
    ["supplierId", "contactId"] := by decide +kernel

/-- What follows the dot is no field of the order, but the route takes it for one. -/
theorem route_key_missed : routeParams "/:order.1" = ["order"] ∧ routeParamKey "order" = "order" ∧
    routeParams (normalizeRoutePath "/:order.1") = ["order1"] := by
  decide +kernel

end Blueprint.Client
