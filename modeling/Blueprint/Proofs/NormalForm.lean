import Blueprint.ServerCode.Token

/-!
Normal forms of names around ASCII. A character of ASCII is put together with nothing in front of it, so
a text is brought to its normal form on both sides of it apart; an underscore takes no mark either. No
dot comes into a name, so that a part of a dotted name stays one.
-/

namespace Blueprint.Text

section Separators

variable {c x : Char} {front back : List Char}

theorem parts_of_ascii (ascii : c.toNat < 0x80) : parts c = [c] := if_pos ascii

private theorem markClass_of_ascii (ascii : c.toNat < 0x80) : markClass c = 0 :=
  if_pos (Nat.lt_trans ascii (by decide))

theorem together?_of_ascii (ascii : c.toNat < 0x80) (letter : Char) : together? letter c = none := by
  have low : c.toNat < 0x300 := Nat.lt_trans ascii (by decide)
  exact if_pos (by simp [low])

private theorem insertMark_append (letter : markClass x = 0) :
    insertMark c (front ++ x :: back) = insertMark c front ++ x :: back := by
  induction front with
  | nil => simp [insertMark, letter]
  | cons next front ih =>
    rw [List.cons_append, insertMark, insertMark]
    split
    · rw [ih, List.cons_append]
    · rfl

private theorem orderMarks_append (letter : markClass x = 0) :
    orderMarks (front ++ x :: back) = orderMarks front ++ x :: orderMarks back := by
  induction front with
  | nil =>
    change insertMark x (orderMarks back) = x :: orderMarks back
    cases orderMarks back with
    | nil => rfl
    | cons next rest => simp [insertMark, letter]
  | cons c front ih =>
    change insertMark c (orderMarks (front ++ x :: back)) = insertMark c (orderMarks front) ++ _
    rw [ih, insertMark_append letter]

private theorem joinMarks_append (letter : markClass x = 0) (alone : ∀ c, together? c x = none)
    (first : Char) (kept : List Char) :
    joinMarks first kept (front ++ x :: back) =
      joinMarks first kept front ++ joinMarks x [] back := by
  induction front generalizing first kept with
  | nil => simp [joinMarks, alone, letter]
  | cons c front ih =>
    rw [List.cons_append, joinMarks, joinMarks]
    split
    · exact ih _ _
    · split
      · rw [ih, List.cons_append, List.append_assoc, List.cons_append]
      · exact ih _ _

private theorem joined_append (letter : markClass x = 0) (alone : ∀ c, together? c x = none) :
    joined (front ++ x :: back) = joined front ++ joinMarks x [] back := by
  induction front with
  | nil => simp [joined, letter]
  | cons c front ih =>
    rw [List.cons_append, joined, joined]
    split
    · exact joinMarks_append letter alone _ _
    · rw [ih, List.cons_append]

private theorem joinMarks_of_alone (alone : ∀ c, together? x c = none) (kept rest : List Char) :
    joinMarks x kept rest = x :: kept.reverse ++ joined rest := by
  induction rest generalizing kept with
  | nil => simp [joinMarks, joined]
  | cons c rest ih =>
    rw [joinMarks, joined]
    simp only [alone, ite_self, beq_iff_eq]
    split
    · rfl
    · rw [ih]
      simp

theorem normalForm_append_of_ascii (ascii : x.toNat < 0x80) :
    normalForm (front ++ x :: back) = normalForm front ++ normalForm (x :: back) := by
  have letter := markClass_of_ascii ascii
  have alone := together?_of_ascii ascii
  have ahead : (x :: back).flatMap parts = [] ++ x :: back.flatMap parts := by
    rw [List.flatMap_cons, parts_of_ascii ascii]
    rfl
  rw [normalForm, List.flatMap_append, ahead, List.nil_append, orderMarks_append letter,
    joined_append letter alone, normalForm, normalForm, ahead, orderMarks_append letter,
    joined_append letter alone]
  rfl

theorem normalForm_of_ascii {text : List Char} (ascii : ∀ c ∈ text, c.toNat < 0x80) :
    normalForm text = text := by
  induction text with
  | nil => rfl
  | cons c text ih =>
    rw [List.forall_mem_cons] at ascii
    have single : normalForm [c] = [c] := by
      simp [normalForm, parts_of_ascii ascii.1, orderMarks, insertMark, joined, joinMarks,
        markClass_of_ascii ascii.1]
    cases text with
    | nil => exact single
    | cons d text =>
      rw [← List.singleton_append, normalForm_append_of_ascii (ascii.2 d List.mem_cons_self),
        single, ih ascii.2]

theorem normalForm_append {text tail : List Char} (ascii : ∀ c ∈ tail, c.toNat < 0x80) :
    normalForm (text ++ tail) = normalForm text ++ tail := by
  cases tail with
  | nil => simp
  | cons c tail =>
    rw [normalForm_append_of_ascii (ascii c List.mem_cons_self), normalForm_of_ascii ascii]

private theorem underscore_alone (c : Char) : together? '_' c = none := if_pos (by simp)

theorem normalForm_underscore (text : List Char) :
    normalForm ('_' :: text) = '_' :: normalForm text := by
  have letter : markClass '_' = 0 := rfl
  have ordered : orderMarks ([] ++ '_' :: text.flatMap parts) = _ := orderMarks_append letter
  rw [normalForm, List.flatMap_cons, parts_of_ascii (by decide)]
  change joined (orderMarks ([] ++ '_' :: text.flatMap parts)) = _
  rw [ordered]
  change joinMarks '_' [] (orderMarks (text.flatMap parts)) = _
  rw [joinMarks_of_alone underscore_alone]
  rfl

end Separators

/-- Texts beside their letters. Of a literal, the letters are found much faster than they are read. -/
inductive Spelled : List (List Char) → List String → Prop where
  | nil : Spelled [] []
  | cons {letters : List Char} {words : List (List Char)} {texts : List String}
      (others : Spelled words texts) : Spelled (letters :: words) (String.ofList letters :: texts)

theorem Spelled.exists_letters {words : List (List Char)} {texts : List String}
    (spelled : Spelled words texts) {text : String} (listed : text ∈ texts) :
    ∃ letters ∈ words, text = String.ofList letters := by
  induction spelled with
  | nil => cases listed
  | cons _ ih =>
    rcases List.mem_cons.mp listed with rfl | listed
    · exact ⟨_, List.mem_cons_self, rfl⟩
    · obtain ⟨letters, inside, same⟩ := ih listed
      exact ⟨letters, List.mem_cons_of_mem _ inside, same⟩

section Dots

variable {c d : Char}

/-- The texts of the tables. -/
private def tableTexts : List String :=
  formBlocks.map FormBlock.images ++ markedLetters.map MarkedLetters.letters ++
    markedLetters.map MarkedLetters.images

set_option maxRecDepth 2000 in
private theorem spelled_tableTexts : ∃ words, Spelled words tableTexts ∧
    (words.all fun letters => !letters.contains '.') = true := by
  apply Exists.intro
  apply And.intro
  · dsimp only [tableTexts, formBlocks, markedLetters, List.map, List.cons_append, List.nil_append]
    repeat' constructor
  · decide +kernel

private theorem dot_not_mem_table {text : String} (listed : text ∈ tableTexts) :
    '.' ∉ text.toList := by
  obtain ⟨words, spelled, free⟩ := spelled_tableTexts
  obtain ⟨letters, inside, rfl⟩ := spelled.exists_letters listed
  simpa using List.all_eq_true.mp free letters inside

private theorem above_dot : (∀ run ∈ formRuns, 0x2e < run.image) ∧
    ∀ entry ∈ markedLetters, 0x2e < entry.mark := by
  decide

private theorem ofNat_ne_dot {n : Nat} (above : 0x2e < n) : Char.ofNat n ≠ '.' := by
  intro same
  have code := congrArg Char.toNat same
  by_cases valid : n.isValidChar
  · rw [Char.ofNat, dif_pos valid] at code
    exact absurd code (Nat.ne_of_gt above)
  · rw [Char.ofNat, dif_neg valid] at code
    cases code

private theorem marked?_undotted {letter mark : Char} (apart : marked? c = some (letter, mark)) :
    letter ≠ '.' ∧ '.' ≠ mark := by
  obtain ⟨entry, listed, found⟩ := List.exists_of_findSome?_eq_some apart
  obtain ⟨_, _, found⟩ := Option.bind_eq_some_iff.mp found
  obtain ⟨letter, own, found⟩ := Option.bind_eq_some_iff.mp found
  cases found
  have letters : '.' ∉ entry.letters.toList :=
    dot_not_mem_table (List.mem_append_left _ (List.mem_append_right _ (List.mem_map_of_mem listed)))
  exact ⟨fun dot => letters (dot ▸ List.mem_of_getElem? own),
    (ofNat_ne_dot (above_dot.2 entry listed)).symm⟩

private theorem unmarked_succ (most : Nat) (c : Char) : unmarked (most + 1) c =
    (marked? c).elim [c] fun (letter, mark) => unmarked most letter ++ [mark] := rfl

private theorem dot_not_mem_unmarked {most : Nat} (other : c ≠ '.') : '.' ∉ unmarked most c := by
  have alone : '.' ∉ [c] := fun dot => other (List.mem_singleton.mp dot).symm
  induction most generalizing c with
  | zero => exact alone
  | succ most ih =>
    rw [unmarked_succ]
    cases apart : marked? c with
    | none => exact alone
    | some pair =>
      obtain ⟨letter, mark⟩ := marked?_undotted apart
      rw [Option.elim_some, List.mem_append, List.mem_singleton, not_or]
      exact ⟨ih letter fun dot => letter (List.mem_singleton.mp dot).symm, mark⟩

private theorem dot_not_mem_form {n : Nat} {image : List Char} (found : form? n = some image) :
    '.' ∉ image := by
  rcases Option.or_eq_some_iff.mp found with inRun | ⟨_, inBlock⟩
  · obtain ⟨n, shifted, rfl⟩ := Option.map_eq_some_iff.mp inRun
    obtain ⟨run, sought, rfl⟩ := Option.map_eq_some_iff.mp shifted
    have low := above_dot.1 run (List.mem_of_find?_eq_some sought)
    rw [List.mem_singleton]
    exact (ofNat_ne_dot (by omega)).symm
  · obtain ⟨block, sought, own⟩ := Option.bind_eq_some_iff.mp inBlock
    have plain : '.' ∉ block.images.toList := dot_not_mem_table (List.mem_append_left _
      (List.mem_append_left _ (List.mem_map_of_mem (List.mem_of_find?_eq_some sought))))
    unfold FormBlock.image? at own
    simp only at own
    split at own
    · cases own
    · cases own
      exact fun dot =>
        plain (List.mem_of_mem_drop (List.mem_of_mem_take (List.mem_filter.mp dot).1))

private theorem dot_not_mem_parts (other : c ≠ '.') : '.' ∉ parts c := by
  unfold parts
  simp only
  split
  · simpa using other.symm
  split
  · have above (n : Nat) (low : 0x2e < n) : '.' ≠ Char.ofNat n := (ofNat_ne_dot low).symm
    unfold syllableParts
    simp only [List.mem_cons, not_or]
    refine ⟨above _ (by omega), above _ (by omega), ?_⟩
    split
    · exact List.not_mem_nil
    · simpa using above _ (by omega)
  cases found : form? c.toNat with
  | none => exact dot_not_mem_unmarked other
  | some image => exact dot_not_mem_form found

private theorem together?_ne_dot {whole : Char} (found : together? c d = some whole) : whole ≠ '.' := by
  unfold together? at found
  simp only at found
  split at found
  · cases found
  split at found
  · rw [← Option.some.inj found]
    exact ofNat_ne_dot (by omega)
  split at found
  · rename_i low
    rw [← Option.some.inj found]
    simp only [Bool.and_eq_true, decide_eq_true_eq] at low
    exact ofNat_ne_dot (by omega)
  · obtain ⟨entry, listed, found⟩ := List.exists_of_findSome?_eq_some found
    split at found
    · obtain ⟨place, _, own⟩ := Option.bind_eq_some_iff.mp found
      have images : '.' ∉ entry.images.toList :=
        dot_not_mem_table (List.mem_append_right _ (List.mem_map_of_mem listed))
      exact fun dot => images (dot ▸ List.mem_of_getElem? own)
    · cases found

private theorem mem_insertMark {text : List Char} : d ∈ insertMark c text ↔ d = c ∨ d ∈ text := by
  induction text with
  | nil => simp [insertMark]
  | cons next rest ih =>
    rw [insertMark]
    split
    · rw [List.mem_cons, ih, List.mem_cons, or_left_comm]
    · exact List.mem_cons

private theorem mem_orderMarks {text : List Char} : d ∈ orderMarks text ↔ d ∈ text := by
  induction text with
  | nil => exact Iff.rfl
  | cons c text ih => rw [orderMarks, List.foldr_cons, mem_insertMark, ← orderMarks, ih, List.mem_cons]

private theorem dot_not_mem_joinMarks {letter : Char} {kept rest : List Char} (other : letter ≠ '.')
    (plain : '.' ∉ kept) (free : '.' ∉ rest) : '.' ∉ joinMarks letter kept rest := by
  induction rest generalizing letter kept with
  | nil => simpa [joinMarks, other.symm] using plain
  | cons c rest ih =>
    rw [List.mem_cons, not_or] at free
    have front : '.' ∉ letter :: kept.reverse := by simpa [other.symm] using plain
    rw [joinMarks]
    split
    · rename_i whole found
      split at found
      · exact ih (together?_ne_dot found) plain free.2
      · cases found
    · split
      · rw [List.mem_append, not_or]
        exact ⟨front, ih (Ne.symm free.1) List.not_mem_nil free.2⟩
      · exact ih other (by simpa [free.1] using plain) free.2

theorem dot_not_mem_normalForm {text : List Char} (free : '.' ∉ text) : '.' ∉ normalForm text := by
  have joined_free {text : List Char} (free : '.' ∉ text) : '.' ∉ joined text := by
    induction text with
    | nil => exact free
    | cons c text ih =>
      rw [List.mem_cons, not_or] at free
      rw [joined]
      split
      · exact dot_not_mem_joinMarks (Ne.symm free.1) List.not_mem_nil free.2
      · rw [List.mem_cons, not_or]
        exact ⟨free.1, ih free.2⟩
  refine joined_free fun inside => ?_
  obtain ⟨c, listed, apart⟩ := List.mem_flatMap.mp (mem_orderMarks.mp inside)
  exact dot_not_mem_parts (fun dot => free (dot ▸ listed)) apart

end Dots

end Blueprint.Text

namespace Blueprint.ServerCode

open Text

theorem toList_identifier (word : String) : (identifier word).toList = normalForm word.toList := by
  unfold identifier
  split
  · rename_i ascii
    exact (normalForm_of_ascii fun c member => by simpa using List.all_eq_true.mp ascii c member).symm
  · exact String.toList_ofList

theorem identifier_of_ascii {word : String} (ascii : ∀ c ∈ word.toList, c.toNat < 0x80) :
    identifier word = word :=
  String.toList_inj.mp ((toList_identifier word).trans (normalForm_of_ascii ascii))

theorem identifier_append {word tail : String} (ascii : ∀ c ∈ tail.toList, c.toNat < 0x80) :
    identifier (word ++ tail) = identifier word ++ tail := by
  rw [← String.toList_inj, toList_identifier, String.toList_append, String.toList_append,
    normalForm_append ascii, toList_identifier]

/-- A word of ASCII that ends in an underscore stays in front of the normal form of the others. -/
theorem identifier_lead {lead : String} (ends : lead.toList.getLast? = some '_')
    (ascii : ∀ c ∈ lead.toList, c.toNat < 0x80) (word : String) :
    identifier (lead ++ word) = lead ++ identifier word := by
  obtain ⟨front, same⟩ := List.getLast?_eq_some_iff.mp ends
  rw [← String.toList_inj, toList_identifier]
  simp only [String.toList_append, toList_identifier, same, List.append_assoc, List.singleton_append]
  rw [normalForm_append_of_ascii (by decide), normalForm_underscore, normalForm_of_ascii]
  intro c member
  exact ascii c (same ▸ List.mem_append_left _ member)

theorem dot_not_mem_identifier {word : String} (free : '.' ∉ word.toList) :
    '.' ∉ (identifier word).toList := by
  rw [toList_identifier]
  exact dot_not_mem_normalForm free

/-- No word is the normal form of itself with more letters at its end. -/
theorem identifier_append_ne (word tail : String) (ascii : ∀ c ∈ tail.toList, c.toNat < 0x80)
    (longer : tail ≠ "") : identifier (word ++ tail) ≠ word := by
  intro same
  rw [identifier_append ascii] at same
  -- the normal form has the same property, and it is shorter than the word
  induction size : word.length using Nat.strongRecOn generalizing word with
  | _ size ih =>
    have shorter : (identifier word).length < word.length := by
      have : 0 < tail.length := Nat.pos_of_ne_zero fun none => longer (String.length_eq_zero_iff.mp none)
      have := congrArg String.length same
      rw [String.length_append] at this
      omega
    refine ih _ (size ▸ shorter) (identifier word) ?_ rfl
    rw [← identifier_append ascii, same]

end Blueprint.ServerCode
