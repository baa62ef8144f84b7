import Mathlib.Data.List.Infix
import Blueprint.Proofs.Naming
import Blueprint.Proofs.Text

/-!
Where the words of a name begin. The two passes that space a name put a space before each character
that starts a word, and whether one does is settled by the character before it and the one behind it.
The words are what stands between the separators of the spaced name: they hold the characters of the
name that are no separators, and two of these fall into different words exactly if a separator stands
between them or the second of them starts a word.
-/

namespace Blueprint.Naming

/-- What a text holds besides separators. -/
def unseparated (text : List Char) : List Char := text.filter (!isSeparator ·)

theorem unseparated_append (front back : List Char) :
    unseparated (front ++ back) = unseparated front ++ unseparated back :=
  List.filter_append front back

theorem unseparated_eq_nil_iff {text : List Char} :
    unseparated text = [] ↔ ∀ c ∈ text, isSeparator c = true := by
  simp [unseparated]

/-- A capital behind a small letter or a digit. -/
def leavesSmall (c d : Char) (_ : Option Char) : Bool := isSmallOrDigit c && isCapital d

/-- A capital behind another one, with a small letter behind it. -/
def leavesAcronym (c d : Char) (next : Option Char) : Bool :=
  isCapital c && isCapital d && next.any isSmall

/-- The second of two neighbours starts a word; `next` is the character behind them. -/
def startsWord (c d : Char) (next : Option Char) : Bool :=
  leavesSmall c d next || leavesAcronym c d next

/-- Two characters with `front` before them are neighbours in one of the words. -/
def Together (words : List (List Char)) (front : List Char) (c d : Char) : Prop :=
  ∃ earlier first last later, words = earlier ++ (first ++ c :: d :: last) :: later ∧
    earlier.flatten ++ first = unseparated front

/-- Two characters with `front` before them are the end of a word and the start of the next one. -/
def Apart (words : List (List Char)) (front : List Char) (c d : Char) : Prop :=
  ∃ earlier first last later, words = earlier ++ (first ++ [c]) :: (d :: last) :: later ∧
    earlier.flatten ++ first = unseparated front

/-- No two characters are both: the words up to the first of them would end before the second one and
behind it. -/
theorem Apart.not_together {words : List (List Char)} {front : List Char} {c d : Char}
    (apart : Apart words front c d) : ¬ Together words front c d := by
  rintro ⟨earlier, first, last, later, same, before⟩
  obtain ⟨earlier', first', last', later', rfl, before'⟩ := apart
  have short : (earlier' ++ [first' ++ [c]]).flatten.length = (unseparated front).length + 1 := by
    rw [← before']
    simp [Nat.add_assoc]
  have long : (earlier ++ [first ++ c :: d :: last]).flatten.length =
      (unseparated front).length + (last.length + 2) := by
    rw [← before]
    simp [Nat.add_assoc]
  have within : earlier.flatten.length ≤ (unseparated front).length := by
    rw [← before]
    simp
  have upToFirst : earlier' ++ [first' ++ [c]] <+: earlier' ++ (first' ++ [c]) :: (d :: last') :: later' :=
    ⟨(d :: last') :: later', by simp⟩
  have upToBoth : earlier ++ [first ++ c :: d :: last] <+:
      earlier' ++ (first' ++ [c]) :: (d :: last') :: later' :=
    ⟨later, by simp [same]⟩
  rcases List.prefix_or_prefix_of_prefix upToFirst upToBoth with inside | inside
  · rcases List.prefix_concat_iff.mp inside with whole | inside
    · rw [whole] at short
      omega
    · have := inside.flatten.length_le
      omega
  · have := inside.flatten.length_le
    omega

section Spacing

variable (picks : Char → Char → Option Char → Bool)

/-- The space behind a character, if the next one is picked. -/
def spaceBehind (c : Char) : List Char → List Char
  | d :: rest => if picks c d rest.head? then [' '] else []
  | [] => []

/-- Puts a space before each character that is picked by its neighbours. -/
def spaceBefore : List Char → List Char
  | [] => []
  | c :: rest => c :: (spaceBehind picks c rest ++ spaceBefore rest)

variable {picks} {c : Char} {text : List Char}

theorem isSeparator_of_mem_spaceBehind {x : Char} (member : x ∈ spaceBehind picks c text) :
    isSeparator x = true := by
  have space : isSeparator ' ' = true := by decide
  unfold spaceBehind at member
  split at member
  · split at member
    · rwa [List.mem_singleton.mp member]
    · cases member
  · cases member

private theorem unseparated_cons_spaceBehind (rest : List Char) :
    unseparated (c :: (spaceBehind picks c text ++ rest)) = unseparated [c] ++ unseparated rest := by
  have gone : unseparated (spaceBehind picks c text) = [] :=
    unseparated_eq_nil_iff.mpr fun _ => isSeparator_of_mem_spaceBehind
  rw [← List.singleton_append, unseparated_append, unseparated_append, gone, List.nil_append]

theorem head?_spaceBefore (text : List Char) : (spaceBefore picks text).head? = text.head? := by
  cases text <;> rfl

private theorem unseparated_spaceBefore (text : List Char) :
    unseparated (spaceBefore picks text) = unseparated text := by
  induction text with
  | nil => rfl
  | cons c text ih =>
    rw [spaceBefore, unseparated_cons_spaceBehind, ih, ← unseparated_append, List.singleton_append]

theorem spaceBefore_append (picks : Char → Char → Option Char → Bool) (front : List Char) (c : Char)
    (rest : List Char) :
    ∃ lead, front.Sublist lead ∧ unseparated lead = unseparated front ∧
      spaceBefore picks (front ++ c :: rest) = lead ++ spaceBefore picks (c :: rest) := by
  induction front with
  | nil => exact ⟨[], List.Sublist.refl [], rfl, rfl⟩
  | cons a front ih =>
    obtain ⟨lead, inside, same, spaced⟩ := ih
    refine ⟨a :: (spaceBehind picks a (front ++ c :: rest) ++ lead),
      (inside.trans (List.sublist_append_right _ _)).cons_cons a, ?_, ?_⟩
    · rw [unseparated_cons_spaceBehind, same, ← unseparated_append, List.singleton_append]
    · rw [List.cons_append, spaceBefore, spaced, List.cons_append, List.append_assoc]

end Spacing

section Passes

variable {c : Char} {text : List Char}

theorem isSmallOrDigit_of_isCapital (capital : isCapital c = true) : isSmallOrDigit c = false := by
  cases small : isSmallOrDigit c with
  | false => rfl
  | true =>
    simp [isCapital, isSmallOrDigit, isSmall, Char.le_def, UInt32.le_iff_toNat_le] at capital small
    omega

private theorem isSmall_of_isCapital (capital : isCapital c = true) : isSmall c = false :=
  (Bool.or_eq_false_iff.mp (isSmallOrDigit_of_isCapital capital)).1

private theorem spaceBehind_leavesSmall (capital : isCapital c = true) (text : List Char) :
    spaceBehind leavesSmall c text = [] := by
  cases text <;> simp [spaceBehind, leavesSmall, isSmallOrDigit_of_isCapital capital]

private theorem spaceBehind_leavesAcronym (other : isCapital c = false) (text : List Char) :
    spaceBehind leavesAcronym c text = [] := by
  cases text <;> simp [spaceBehind, leavesAcronym, other]

/-- The first pass skips the capital behind a space, which is no small letter. -/
theorem spaceCapitals_eq (text : List Char) : spaceCapitals text = spaceBefore leavesSmall text := by
  fun_induction spaceCapitals text with
  | case1 c d rest picked ih =>
    have capital : isCapital d = true := (Bool.and_eq_true_iff.mp picked).2
    rw [spaceBefore, spaceBefore, spaceBehind_leavesSmall capital, ih, List.nil_append]
    simp [spaceBehind, leavesSmall, picked]
  | case2 c d rest passed ih =>
    rw [spaceBefore, ih]
    simp [spaceBehind, leavesSmall, passed]
  | case3 text short =>
    cases text with
    | nil => rfl
    | cons c rest =>
      cases rest with
      | nil => rfl
      | cons d rest => exact absurd rfl (short c d rest)

/-- No space stands before a capital that another one follows. -/
theorem spaceBefore_capitals {front : List Char} {earlier final : Char}
    (capitals : ∀ x ∈ front, isCapital x = true) (second : isCapital earlier = true)
    (third : isCapital final = true) (text : List Char) :
    spaceBefore leavesAcronym (front ++ earlier :: final :: text) =
      front ++ spaceBefore leavesAcronym (earlier :: final :: text) := by
  have none {a b c : Char} (capital : isCapital c = true) (text : List Char) :
      spaceBehind leavesAcronym a (b :: c :: text) = [] := by
    simp [spaceBehind, leavesAcronym, isSmall_of_isCapital capital]
  induction front with
  | nil => rfl
  | cons a front ih =>
    obtain ⟨_, others⟩ := List.forall_mem_cons.mp capitals
    have behind : spaceBehind leavesAcronym a (front ++ earlier :: final :: text) = [] := by
      rcases front with _ | ⟨b, _ | ⟨c, front⟩⟩
      · exact none third text
      · exact none second (final :: text)
      · exact none (others c (by simp)) _
    rw [List.cons_append, spaceBefore, behind, ih others, List.nil_append, List.cons_append]

/-- A run of capitals is spaced before its last one, if there are others and a small letter follows. -/
theorem spaceBefore_run {final earlier : Char} {more : List Char}
    (capitals : ∀ x ∈ final :: earlier :: more, isCapital x = true)
    (ends : ∀ x ∈ text.head?, isCapital x = false) :
    spaceBefore leavesAcronym ((final :: earlier :: more).reverse ++ text) =
      (earlier :: more).reverse ++ ((if text.head?.any isSmall then [' '] else []) ++
        final :: spaceBefore leavesAcronym text) := by
  simp only [List.forall_mem_cons] at capitals
  obtain ⟨third, second, others⟩ := capitals
  have behind : spaceBehind leavesAcronym final text = [] := by
    cases text with
    | nil => rfl
    | cons c text => simp [spaceBehind, leavesAcronym, ends c rfl]
  have shape : (final :: earlier :: more).reverse ++ text = more.reverse ++ earlier :: final :: text := by
    simp
  rw [shape, spaceBefore_capitals (by simpa using others) second third, spaceBefore, spaceBefore, behind]
  simp [spaceBehind, leavesAcronym, second, third]

/-- The second pass reads a run of capitals as a whole, and only its last one can start a word. -/
theorem spaceAcronymsFrom_eq {run : List Char} (capitals : ∀ x ∈ run, isCapital x = true) :
    spaceAcronymsFrom run text = spaceBefore leavesAcronym (run.reverse ++ text) := by
  have after {c : Char} (other : ¬isCapital c = true) (rest : List Char) :
      spaceBefore leavesAcronym (c :: rest) = c :: spaceBefore leavesAcronym rest := by
    rw [spaceBefore, spaceBehind_leavesAcronym (by simpa using other), List.nil_append]
  fun_induction spaceAcronymsFrom run text with
  | case1 run =>
    rcases run with _ | ⟨final, _ | ⟨earlier, more⟩⟩
    · rfl
    · rfl
    · rw [spaceBefore_run capitals (by simp)]
      simp [spaceBefore]
  | case2 run c rest capital ih =>
    rw [ih (List.forall_mem_cons.mpr ⟨capital, capitals⟩), List.reverse_cons, List.append_assoc,
      List.singleton_append]
  | case3 c rest other final earlier more small ih =>
    rw [spaceBefore_run capitals (by simpa using other), after other, ih (List.forall_mem_nil _)]
    simp [small]
  | case4 c rest other final earlier more notSmall ih =>
    rw [spaceBefore_run capitals (by simpa using other), after other, ih (List.forall_mem_nil _)]
    simp [notSmall]
  | case5 c rest other run short ih =>
    have later : spaceAcronymsFrom [] rest = spaceBefore leavesAcronym rest :=
      ih (List.forall_mem_nil _)
    rw [later]
    cases run with
    | nil => exact (after other rest).symm
    | cons final run =>
      cases run with
      | nil =>
        have behind : spaceBehind leavesAcronym final (c :: rest) = [] := by
          simp [spaceBehind, leavesAcronym, other]
        show final :: c :: spaceBefore leavesAcronym rest =
          spaceBefore leavesAcronym (final :: c :: rest)
        rw [spaceBefore, behind, after other, List.nil_append]
      | cons earlier more => exact absurd rfl (short final earlier more)

/-- Both passes together put a space before each character that starts a word. The second pass meets the
spaces of the first, but none of them stands at a place where it would look for capitals. -/
theorem spaceAcronyms_spaceCapitals (text : List Char) :
    spaceAcronyms (spaceCapitals text) = spaceBefore startsWord text := by
  rw [spaceAcronyms, spaceAcronymsFrom_eq (List.forall_mem_nil _), List.reverse_nil, List.nil_append,
    spaceCapitals_eq]
  induction text with
  | nil => rfl
  | cons c text ih =>
    have space : isCapital ' ' = false := by decide
    cases text with
    | nil => rfl
    | cons d rest =>
      cases picked : leavesSmall c d rest.head? with
      | true =>
        have first : spaceBefore leavesSmall (c :: d :: rest) =
            c :: ' ' :: spaceBefore leavesSmall (d :: rest) := by
          simp [spaceBefore, spaceBehind, picked]
        have both : spaceBefore startsWord (c :: d :: rest) =
            c :: ' ' :: spaceBefore startsWord (d :: rest) := by
          simp [spaceBefore, spaceBehind, startsWord, picked]
        have behind (text : List Char) : spaceBehind leavesAcronym c (' ' :: text) = [] := by
          simp [spaceBehind, leavesAcronym, space]
        rw [first, both, ← ih, spaceBefore, behind, spaceBefore, spaceBehind_leavesAcronym space]
        rfl
      | false =>
        have first : spaceBehind leavesSmall c (d :: rest) = [] := if_neg (by simp [picked])
        have second : spaceBehind leavesAcronym c (spaceBefore leavesSmall (d :: rest)) =
            spaceBehind startsWord c (d :: rest) := by
          rw [spaceBefore]
          cases capital : isCapital d with
          | true =>
            rw [spaceBehind_leavesSmall capital]
            simp [head?_spaceBefore, spaceBehind, startsWord, picked]
          | false => simp [spaceBehind, startsWord, leavesSmall, leavesAcronym, capital]
        rw [spaceBefore, first, List.nil_append, spaceBefore, second, ih, ← spaceBefore]

end Passes

section Fields

variable {text : List Char}

theorem flatten_fieldsFrom (word text : List Char) :
    (fieldsFrom word text).flatten = word.reverse ++ unseparated text := by
  unfold unseparated
  fun_induction fieldsFrom word text with
  | case1 word empty => simp [List.isEmpty_iff.mp empty]
  | case2 word _ => simp
  | case3 word c rest separates empty ih =>
    simp [ih, separates, List.isEmpty_iff.mp empty]
  | case4 word c rest separates _ ih => simp [ih, separates]
  | case5 word c rest inside ih => simp [ih, inside]

/-- A word that has begun goes on to the next separator. -/
theorem fieldsFrom_of_ne_nil {word : List Char} (begun : word ≠ []) (text : List Char) :
    fieldsFrom word text = (word.reverse ++ text.takeWhile (!isSeparator ·)) ::
      fieldsFrom [] (text.dropWhile (!isSeparator ·)) := by
  fun_induction fieldsFrom word text with
  | case1 word empty => exact absurd (List.isEmpty_iff.mp empty) begun
  | case2 word _ => simp [fieldsFrom]
  | case3 word c rest separates empty ih => exact absurd (List.isEmpty_iff.mp empty) begun
  | case4 word c rest separates _ ih => simp [separates, fieldsFrom]
  | case5 word c rest inside ih => simp [ih (List.cons_ne_nil c word), inside]

theorem fieldsFrom_separators {between : List Char} (separate : ∀ c ∈ between, isSeparator c = true)
    (text : List Char) : fieldsFrom [] (between ++ text) = fieldsFrom [] text := by
  induction between with
  | nil => rfl
  | cons c between ih =>
    obtain ⟨here, later⟩ := List.forall_mem_cons.mp separate
    rw [List.cons_append, fieldsFrom, if_pos here, List.isEmpty_nil, if_pos rfl, ih later]

/-- The word of a character: what stands before the character is in the words before and in the start
of its own, which goes on to the next separator. -/
theorem fieldsFrom_place {c : Char} (inside : isSeparator c = false) (word front text : List Char) :
    ∃ earlier first, fieldsFrom word (front ++ c :: text) =
        earlier ++ (first ++ c :: text.takeWhile (!isSeparator ·)) ::
          fieldsFrom [] (text.dropWhile (!isSeparator ·)) ∧
      earlier.flatten ++ first = word.reverse ++ unseparated front := by
  induction front generalizing word with
  | nil =>
    refine ⟨[], word.reverse, ?_, by simp [unseparated]⟩
    rw [List.nil_append, fieldsFrom, if_neg (by simp [inside]),
      fieldsFrom_of_ne_nil (List.cons_ne_nil c word)]
    simp
  | cons a front ih =>
    rw [List.cons_append, fieldsFrom]
    unfold unseparated at ih ⊢
    cases separates : isSeparator a with
    | true =>
      obtain ⟨earlier, first, same, before⟩ := ih []
      cases word with
      | nil => exact ⟨earlier, first, by simpa using same, by simpa [separates] using before⟩
      | cons b word =>
        refine ⟨(b :: word).reverse :: earlier, first, by simp [same], ?_⟩
        rw [List.flatten_cons, List.append_assoc, before]
        simp [separates]
    | false =>
      obtain ⟨earlier, first, same, before⟩ := ih (a :: word)
      exact ⟨earlier, first, by simpa using same, by simp [before, separates]⟩

end Fields

/-- Two characters of a name and the separators between them, as they stand in the spaced name: there is
nothing between them only if there was nothing before and the second one starts no word. -/
theorem exists_between (front : List Char) {c d : Char} {gap rest : List Char}
    (separate : ∀ s ∈ gap, isSeparator s = true) :
    ∃ lead between tail, spaceBefore startsWord (front ++ c :: (gap ++ d :: rest)) =
        lead ++ c :: (between ++ d :: tail) ∧
      unseparated lead = unseparated front ∧ (∀ s ∈ between, isSeparator s = true) ∧
      (between = [] ↔ gap = [] ∧ startsWord c d rest.head? = false) := by
  obtain ⟨lead, _, same, spaced⟩ := spaceBefore_append startsWord front c (gap ++ d :: rest)
  rw [spaced, spaceBefore]
  cases gap with
  | nil =>
    refine ⟨lead, spaceBehind startsWord c (d :: rest),
      spaceBehind startsWord d rest ++ spaceBefore startsWord rest, rfl, same,
      fun s => isSeparator_of_mem_spaceBehind, ?_⟩
    simp [spaceBehind]
  | cons s gap =>
    obtain ⟨middle, inside, none, later⟩ := spaceBefore_append startsWord (s :: gap) d rest
    refine ⟨lead, spaceBehind startsWord c (s :: gap ++ d :: rest) ++ middle,
      spaceBehind startsWord d rest ++ spaceBefore startsWord rest, ?_, same, ?_, ?_⟩
    · rw [later, List.append_assoc]
      rfl
    · rw [List.forall_mem_append]
      exact ⟨fun x => isSeparator_of_mem_spaceBehind, unseparated_eq_nil_iff.mp
        (none.trans (unseparated_eq_nil_iff.mpr separate))⟩
    · have filled : middle ≠ [] := by
        rintro rfl
        cases inside
      simp [filled]

/-- Two characters of a name with only separators between them are in different words if there is a
separator or the second one starts a word, and neighbours in a word otherwise. -/
theorem apart_or_together (front rest : List Char) {c d : Char} {gap : List Char}
    (first : isSeparator c = false) (separate : ∀ s ∈ gap, isSeparator s = true)
    (second : isSeparator d = false) :
    if gap = [] ∧ startsWord c d rest.head? = false then
      Together (words (front ++ c :: (gap ++ d :: rest))) front c d
    else Apart (words (front ++ c :: (gap ++ d :: rest))) front c d := by
  obtain ⟨lead, between, tail, spaced, same, separators, none⟩ := exists_between front separate
  obtain ⟨earlier, start, placed, before⟩ := fieldsFrom_place first [] lead (between ++ d :: tail)
  rw [words, spaceAcronyms_spaceCapitals, spaced, placed]
  rw [same] at before
  cases between with
  | nil =>
    rw [if_pos (none.mp rfl)]
    have stays : ([] ++ d :: tail).takeWhile (!isSeparator ·) =
        d :: tail.takeWhile (!isSeparator ·) := by simp [second]
    rw [stays]
    exact ⟨earlier, start, _, _, rfl, before⟩
  | cons s between =>
    rw [if_neg fun both => absurd (none.mpr both) (List.cons_ne_nil s between)]
    have separates := separators s List.mem_cons_self
    have stops : (s :: between ++ d :: tail).takeWhile (!isSeparator ·) = [] := by simp [separates]
    have all : (s :: between ++ d :: tail).dropWhile (!isSeparator ·) = s :: between ++ d :: tail := by
      simp [separates]
    rw [stops, all, fieldsFrom_separators separators, fieldsFrom, if_neg (by simp [second]),
      fieldsFrom_of_ne_nil (List.cons_ne_nil d [])]
    exact ⟨earlier, start, _, _, rfl, before⟩

/-- The words of a name are not empty, hold no separators, and are together what the name holds besides
separators. Two characters with only separators between them fall into different words exactly if there
is a separator between them or the second one starts a word behind the first; otherwise they are
neighbours in a word. -/
theorem words_follow_neighbours (name : List Char) :
    (∀ word ∈ words name, word ≠ [] ∧ ∀ c ∈ word, isSeparator c = false) ∧
    (words name).flatten = unseparated name ∧
    ∀ front c gap d rest, name = front ++ c :: (gap ++ d :: rest) → isSeparator c = false →
      (∀ s ∈ gap, isSeparator s = true) → isSeparator d = false →
      (Apart (words name) front c d ↔ gap ≠ [] ∨ startsWord c d rest.head? = true) ∧
      (Together (words name) front c d ↔ gap = [] ∧ startsWord c d rest.head? = false) := by
  refine ⟨fun word listed => ⟨ne_nil_of_mem_fieldsFrom listed, fun c inside =>
    (mem_of_mem_words listed inside).2⟩, ?_, ?_⟩
  · rw [words, spaceAcronyms_spaceCapitals, flatten_fieldsFrom, unseparated_spaceBefore]
    rfl
  · rintro front c gap d rest rfl first separate second
    have either := apart_or_together front rest first separate second
    by_cases whole : gap = [] ∧ startsWord c d rest.head? = false
    · rw [if_pos whole] at either
      refine ⟨⟨fun apart => absurd either apart.not_together, ?_⟩, fun _ => whole, fun _ => either⟩
      rintro (filled | starts)
      · exact absurd whole.1 filled
      · rw [whole.2] at starts
        cases starts
    · rw [if_neg whole] at either
      refine ⟨⟨fun _ => ?_, fun _ => either⟩, fun together => absurd together either.not_together,
        fun both => absurd both whole⟩
      rwa [not_and_or, Bool.not_eq_false] at whole

/-- The words of `v2-HTTPServer` are `v2`, `HTTP` and `Server`. -/
theorem words_follow_neighbours_server :
    Apart (words "v2-HTTPServer".toList) "v".toList '2' 'H' ∧
    Apart (words "v2-HTTPServer".toList) "v2-HTT".toList 'P' 'S' ∧
    Together (words "v2-HTTPServer".toList) "v2-HT".toList 'T' 'P' := by
  have letter : ∀ c ∈ ['2', 'H', 'T', 'P', 'S'], isSeparator c = false := by decide
  have hyphen : ∀ s ∈ ['-'], isSeparator s = true := by decide
  have rule := (words_follow_neighbours "v2-HTTPServer".toList).2.2
  refine ⟨?_, ?_, ?_⟩
  · exact (rule "v".toList '2' ['-'] 'H' "TTPServer".toList rfl (letter '2' (by decide)) hyphen
      (letter 'H' (by decide))).1.mpr (Or.inl (List.cons_ne_nil _ _))
  · exact (rule "v2-HTT".toList 'P' [] 'S' "erver".toList rfl (letter 'P' (by decide)) nofun
      (letter 'S' (by decide))).1.mpr (Or.inr (by decide))
  · exact (rule "v2-HT".toList 'T' [] 'P' "Server".toList rfl (letter 'T' (by decide)) nofun
      (letter 'P' (by decide))).2.mpr ⟨rfl, by decide⟩

end Blueprint.Naming
