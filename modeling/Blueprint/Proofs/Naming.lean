import Mathlib.Data.List.Basic
import Blueprint.Naming

namespace Blueprint.Text

/-- A sign: a character of ASCII that is no letter. -/
structure IsSign (x : Char) : Prop where
  ascii : x.toNat < 0x80
  letterless : x.isAlpha = false

instance (x : Char) : Decidable (IsSign x) :=
  decidable_of_iff (x.toNat < 0x80 ∧ x.isAlpha = false)
    ⟨fun both => ⟨both.1, both.2⟩, fun sign => ⟨sign.ascii, sign.letterless⟩⟩

variable {x : Char}

private theorem lowerRuns_images : ∀ run ∈ lowerRuns,
    run.image = 0x6b ∧ run.first = run.last ∨
      0x80 ≤ run.image ∧ run.image + (run.last - run.first) < 0xd800 ∨
      0xe000 ≤ run.image ∧ run.image + (run.last - run.first) < 0x110000 := by
  decide +kernel

theorem toNat_ofNat_of_valid {n : Nat} (valid : n < 0xd800 ∨ 0xe000 ≤ n ∧ n < 0x110000) :
    (Char.ofNat n).toNat = n := by
  have isValid : n.isValidChar := by
    unfold Nat.isValidChar
    omega
  rw [Char.ofNat, dif_pos isValid]
  rfl

theorem exists_run_of_image? {runs : List CaseRun} {n m : Nat}
    (found : CaseRun.image? runs n = some m) :
    ∃ run ∈ runs, (run.first ≤ n ∧ n ≤ run.last) ∧ (n - run.first) % run.step = 0 ∧
      m = run.image + (n - run.first) := by
  obtain ⟨run, chosen, rfl⟩ := Option.map_eq_some_iff.mp found
  have inside := List.find?_some chosen
  simp only [Bool.and_eq_true, decide_eq_true_eq, beq_iff_eq] at inside
  exact ⟨run, List.mem_of_find?_eq_some chosen, inside.1, inside.2, rfl⟩

/-- As many code points from a first one as a run maps, at the same distances. -/
def CaseRun.pointsFrom (run : CaseRun) (start : Nat) : List Nat :=
  List.range' start ((run.last - run.first) / run.step + 1) run.step

theorem CaseRun.mem_pointsFrom {run : CaseRun} {n : Nat} (start : Nat) (inside : n ≤ run.last)
    (place : (n - run.first) % run.step = 0) : start + (n - run.first) ∈ run.pointsFrom start := by
  rw [CaseRun.pointsFrom, List.mem_range']
  refine ⟨(n - run.first) / run.step, Nat.lt_succ_of_le (Nat.div_le_div_right (by omega)), ?_⟩
  rw [Nat.mul_div_cancel' (Nat.dvd_of_mod_eq_zero place)]

theorem CaseRun.mem_pointsFrom_first {run : CaseRun} {n : Nat}
    (inside : run.first ≤ n ∧ n ≤ run.last) (place : (n - run.first) % run.step = 0) :
    n ∈ run.pointsFrom run.first := by
  have source := run.mem_pointsFrom run.first inside.2 place
  rwa [Nat.add_sub_of_le inside.1] at source

theorem toNat_image {n m : Nat} (found : CaseRun.image? lowerRuns n = some m) :
    m = 0x6b ∨ 0x80 ≤ m ∧ (Char.ofNat m).toNat = m := by
  obtain ⟨run, listed, inside, _, rfl⟩ := exists_run_of_image? found
  rcases lowerRuns_images run listed with ⟨letter, single⟩ | beyond | beyond
  · omega
  · exact Or.inr ⟨by omega, toNat_ofNat_of_valid (by omega)⟩
  · exact Or.inr ⟨by omega, toNat_ofNat_of_valid (by omega)⟩

theorem not_isSign_image {n m : Nat} (found : CaseRun.image? lowerRuns n = some m) :
    ¬ IsSign (Char.ofNat m) := by
  intro sign
  rcases toNat_image found with rfl | ⟨beyond, same⟩
  · exact absurd sign (by decide)
  · have small := sign.ascii
    omega

/-- A character of a small form is a small letter of ASCII, an image of a table, or the character itself,
which has no image then. -/
theorem mem_lowerChar_cases {c : Char} (member : x ∈ lowerChar c) :
    (∃ n : Fin 0x80, x = (Char.ofNat n).toLower ∧ c = Char.ofNat n) ∨
      (∃ n m, CaseRun.image? lowerRuns n = some m ∧ x = Char.ofNat m) ∨
      (∃ entry ∈ lowerWide, ∃ n ∈ entry.2, x = Char.ofNat n) ∨ x = c ∧ lowerChar c = [c] := by
  unfold lowerChar at member ⊢
  split at member
  · next ascii =>
    refine Or.inl ⟨⟨c.toNat, ascii⟩, ?_, (Char.ofNat_toNat c).symm⟩
    rw [Char.ofNat_toNat]
    exact List.mem_singleton.mp member
  · next beyond =>
    rw [if_neg beyond]
    unfold mapped at member ⊢
    cases found : CaseRun.image? lowerRuns c.toNat with
    | some m =>
      rw [found] at member
      exact Or.inr (Or.inl ⟨c.toNat, m, found, List.mem_singleton.mp member⟩)
    | none =>
      rw [found] at member
      simp only at member ⊢
      cases wide : lowerWide.lookup c.toNat with
      | some images =>
        rw [wide] at member
        obtain ⟨n, listed, rfl⟩ := List.mem_map.mp member
        obtain ⟨front, back, split, _⟩ := List.lookup_eq_some_iff.mp wide
        exact Or.inr (Or.inr (Or.inl ⟨(c.toNat, images),
          split ▸ List.mem_append_right _ List.mem_cons_self, n, listed, rfl⟩))
      | none =>
        rw [wide] at member
        exact Or.inr (Or.inr (Or.inr ⟨List.mem_singleton.mp member, rfl⟩))

theorem eq_of_mem_lowerChar {c : Char} (sign : IsSign x) (member : x ∈ lowerChar c) : x = c := by
  rcases mem_lowerChar_cases member with ⟨n, rfl, rfl⟩ | ⟨n, m, found, rfl⟩ |
    ⟨entry, listed, n, inside, rfl⟩ | ⟨same, _⟩
  · have table : ∀ n : Fin 0x80, IsSign (Char.ofNat n).toLower →
        (Char.ofNat n).toLower = Char.ofNat n := by decide
    exact table n sign
  · exact absurd sign (not_isSign_image found)
  · have letters : ∀ entry ∈ lowerWide, ∀ n ∈ entry.2, ¬ IsSign (Char.ofNat n) := by
      decide
    exact absurd sign (letters entry listed n inside)
  · exact same

/-- Each character of a small form comes from one of the text, or it is one of both small sigmas. -/
theorem exists_of_mem_lowerAfter {before text : List Char} (member : x ∈ lowerAfter before text) :
    (∃ c ∈ text, x ∈ lowerChar c) ∨ x = Char.ofNat 0x3c2 ∨ x = Char.ofNat 0x3c3 := by
  induction text generalizing before with
  | nil => cases member
  | cons c text ih =>
    simp only [lowerAfter] at member
    rcases List.mem_append.mp member with here | later
    · split at here
      · rw [List.mem_singleton.mp here]
        split
        · exact Or.inr (Or.inl rfl)
        · exact Or.inr (Or.inr rfl)
      · exact Or.inl ⟨c, List.mem_cons_self, here⟩
    · exact (ih later).imp_left fun ⟨d, inside, image⟩ => ⟨d, List.mem_cons_of_mem _ inside, image⟩

theorem mem_of_mem_lowerText {text : List Char} (sign : IsSign x) (member : x ∈ lowerText text) :
    x ∈ text := by
  -- Both forms of the sigma are letters beyond ASCII.
  have sigma : ¬ IsSign (Char.ofNat 0x3c2) ∧ ¬ IsSign (Char.ofNat 0x3c3) := by decide
  rcases exists_of_mem_lowerAfter member with ⟨c, inside, image⟩ | rfl | rfl
  · rwa [eq_of_mem_lowerChar sign image]
  · exact absurd sign sigma.1
  · exact absurd sign sigma.2

theorem lowerChar_ne_nil (c : Char) : lowerChar c ≠ [] := by
  have wide : ∀ entry ∈ lowerWide, entry.2 ≠ [] := by decide
  unfold lowerChar mapped
  split
  · exact List.cons_ne_nil _ _
  · split
    · exact List.cons_ne_nil _ _
    · split
      · rename_i images found
        obtain ⟨front, back, same, _⟩ := List.lookup_eq_some_iff.mp found
        have listed : (c.toNat, images) ∈ lowerWide := same ▸ List.mem_append_right _ List.mem_cons_self
        exact fun empty => wide _ listed (List.map_eq_nil_iff.mp empty)
      · exact List.cons_ne_nil _ _

/-- The small form of a text is empty only if the text is. -/
theorem lowerText_ne_nil {text : List Char} (filled : text ≠ []) : lowerText text ≠ [] := by
  cases text with
  | nil => exact absurd rfl filled
  | cons c rest =>
    rw [lowerText, lowerAfter]
    intro empty
    have image := (List.append_eq_nil_iff.mp empty).1
    split at image
    · cases image
    · exact lowerChar_ne_nil c image

/-- The small form of a text that ends with a character that is its own small form ends with it. -/
theorem getLast?_lowerText {x : Char} {text : List Char} (own : lowerChar x = [x])
    (other : x.toNat ≠ 0x3a3) (last : text.getLast? = some x) :
    (lowerText text).getLast? = some x := by
  have after (before : List Char) : (lowerAfter before text).getLast? = some x := by
    induction text generalizing before with
    | nil => cases last
    | cons c rest ih =>
      rw [lowerAfter, List.getLast?_append]
      cases rest with
      | nil =>
        have same : c = x := Option.some.inj last
        simp [lowerAfter, same, own, other]
      | cons d rest =>
        rw [List.getLast?_cons_cons] at last
        rw [ih last, Option.some_or]
  exact after []

end Blueprint.Text

namespace Blueprint.Naming

open Blueprint.Text

variable {x : Char} {text : List Char}

theorem mem_of_mem_spaceCapitals (member : x ∈ spaceCapitals text) : x = ' ' ∨ x ∈ text := by
  fun_induction spaceCapitals text with
  | case1 c d rest _ ih =>
    rcases List.mem_cons.mp member with rfl | member
    · exact Or.inr List.mem_cons_self
    rcases List.mem_cons.mp member with rfl | member
    · exact Or.inl rfl
    rcases List.mem_cons.mp member with rfl | later
    · exact Or.inr (List.mem_cons_of_mem _ List.mem_cons_self)
    · exact (ih later).imp_right fun inside => List.mem_cons_of_mem _ (List.mem_cons_of_mem _ inside)
  | case2 c d rest _ ih =>
    rcases List.mem_cons.mp member with rfl | later
    · exact Or.inr List.mem_cons_self
    · exact (ih later).imp_right (List.mem_cons_of_mem _)
  | case3 => exact Or.inr member

theorem mem_of_mem_spaceAcronymsFrom {run : List Char} (member : x ∈ spaceAcronymsFrom run text) :
    x = ' ' ∨ x ∈ run ∨ x ∈ text := by
  fun_induction spaceAcronymsFrom run text with
  | case1 run => exact Or.inr (Or.inl (List.mem_reverse.mp member))
  | case2 run c rest _ ih =>
    simp only [List.mem_cons] at ih ⊢
    grind
  | case3 c rest _ final earlier more _ ih => grind
  | case4 c rest _ final earlier more _ ih => grind
  | case5 run c rest _ _ ih => grind

theorem mem_of_mem_fieldsFrom {word field : List Char} (listed : field ∈ fieldsFrom word text)
    (member : x ∈ field) : x ∈ word ∨ x ∈ text ∧ isSeparator x = false := by
  fun_induction fieldsFrom word text with
  | case1 => cases listed
  | case2 word => grind
  | case3 => grind
  | case4 => grind
  | case5 => grind

/-- The characters of a name's words stand in the name, and none of them separates words. -/
theorem mem_of_mem_words {name word : List Char} (listed : word ∈ words name) (member : x ∈ word) :
    x ∈ name ∧ isSeparator x = false := by
  rcases mem_of_mem_fieldsFrom listed member with none | ⟨inside, apart⟩
  · cases none
  · have space : isSeparator ' ' = true := by decide
    have spaced (blank : x = ' ') : False := by
      rw [blank, space] at apart
      cases apart
    rcases mem_of_mem_spaceAcronymsFrom inside with blank | none | capitals
    · exact (spaced blank).elim
    · cases none
    · rcases mem_of_mem_spaceCapitals capitals with blank | own
      · exact (spaced blank).elim
      · exact ⟨own, apart⟩

theorem mem_of_mem_intercalate {joint : List Char} {lists : List (List Char)}
    (member : x ∈ joint.intercalate lists) : x ∈ joint ∨ ∃ list ∈ lists, x ∈ list := by
  induction lists with
  | nil => cases member
  | cons first lists ih =>
    cases lists with
    | nil =>
      rw [List.intercalate_singleton] at member
      exact Or.inr ⟨first, List.mem_cons_self, member⟩
    | cons second lists =>
      rw [List.intercalate_cons_cons, List.append_assoc] at member
      rcases List.mem_append.mp member with here | member
      · exact Or.inr ⟨first, List.mem_cons_self, here⟩
      rcases List.mem_append.mp member with between | later
      · exact Or.inl between
      · exact (ih later).imp_right fun ⟨list, listed, inside⟩ =>
          ⟨list, List.mem_cons_of_mem _ listed, inside⟩

/-- A sign in the joined words of a name joins them, or it stands in the name and separates no words. -/
theorem mem_of_mem_joined {joint : Char} {name : List Char} (sign : IsSign x)
    (member : x ∈ [joint].intercalate (lowerWords name)) :
    x = joint ∨ x ∈ name ∧ isSeparator x = false := by
  rcases mem_of_mem_intercalate member with between | ⟨small, listed, inside⟩
  · exact Or.inl (List.mem_singleton.mp between)
  · obtain ⟨word, own, rfl⟩ := List.mem_map.mp listed
    exact Or.inr (mem_of_mem_words own (mem_of_mem_lowerText sign inside))

theorem ne_nil_of_mem_fieldsFrom {word field : List Char} (listed : field ∈ fieldsFrom word text) :
    field ≠ [] := by
  have filled (word : List Char) (inside : ¬word.isEmpty = true) : word.reverse ≠ [] := by
    simpa using inside
  fun_induction fieldsFrom word text with
  | case1 => cases listed
  | case2 word inside => exact List.mem_singleton.mp listed ▸ filled word inside
  | case3 _ _ _ _ _ ih => exact ih listed
  | case4 word _ _ _ inside ih =>
    rcases List.mem_cons.mp listed with rfl | later
    · exact filled word inside
    · exact ih later
  | case5 _ _ _ _ ih => exact ih listed

/-- The joint of words stands at no beginning of a name. -/
theorem head?_joined {joint : Char} (sign : IsSign joint) (separates : isSeparator joint = true)
    (name : List Char) : ([joint].intercalate (lowerWords name)).head? ≠ some joint := by
  have small : ∀ word ∈ lowerWords name, ∃ c rest, word = c :: rest ∧ c ≠ joint := by
    intro small listed
    obtain ⟨word, own, rfl⟩ := List.mem_map.mp listed
    obtain ⟨c, rest, same⟩ := List.exists_cons_of_ne_nil
      (lowerText_ne_nil (ne_nil_of_mem_fieldsFrom own))
    refine ⟨c, rest, same, ?_⟩
    rintro rfl
    have inside := mem_of_mem_lowerText sign (same ▸ List.mem_cons_self)
    exact Bool.false_ne_true ((mem_of_mem_words own inside).2.symm.trans separates)
  cases words : lowerWords name with
  | nil => exact nofun
  | cons first others =>
    obtain ⟨c, rest, same, apart⟩ := small first (words ▸ List.mem_cons_self)
    cases others with
    | nil => simpa [same] using apart
    | cons second others => simpa [List.intercalate_cons_cons, same] using apart

private theorem getLast?_spaceCapitals (text : List Char) :
    (spaceCapitals text).getLast? = text.getLast? := by
  fun_induction spaceCapitals text with
  | case1 c d rest _ ih => simp [List.getLast?_cons, ih]
  | case2 c d rest _ ih => simp [List.getLast?_cons, ih]
  | case3 => rfl

private theorem getLast?_spaceAcronymsFrom (run text : List Char) :
    (spaceAcronymsFrom run text).getLast? = (run.reverse ++ text).getLast? := by
  fun_induction spaceAcronymsFrom run text with
  | case1 run => rw [List.append_nil]
  | case2 run c rest _ ih => rw [ih, List.reverse_cons, List.append_assoc, List.singleton_append]
  | case3 c rest _ final earlier more _ ih =>
    simp [List.getLast?_append, List.getLast?_cons, ih]
  | case4 c rest _ final earlier more _ ih =>
    simp [List.getLast?_append, List.getLast?_cons, ih]
  | case5 run c rest _ _ ih =>
    simp [List.getLast?_append, List.getLast?_cons, ih]

theorem getLast?_behind {c : Char} {front rest : List Char} (separates : isSeparator c = true)
    (inside : isSeparator x = false) (last : (front ++ c :: rest).getLast? = some x) :
    rest.getLast? = some x := by
  rw [List.getLast?_append, List.getLast?_cons, Option.some_or] at last
  cases ends : rest.getLast? with
  | none =>
    rw [ends, Option.getD_none, Option.some.injEq] at last
    rw [last, inside] at separates
    cases separates
  | some d => rwa [ends] at last

/-- The last word of a text that ends with no separator ends like the text. -/
theorem getLast?_fieldsFrom {word : List Char} (inside : isSeparator x = false)
    (last : (word.reverse ++ text).getLast? = some x) :
    (fieldsFrom word text).getLast?.bind List.getLast? = some x := by
  fun_induction fieldsFrom word text with
  | case1 word empty =>
    rw [List.isEmpty_iff.mp empty] at last
    cases last
  | case2 word _ => rwa [List.append_nil] at last
  | case3 word c rest separates _ ih => exact ih (getLast?_behind separates inside last)
  | case4 word c rest separates _ ih =>
    have later := ih (getLast?_behind separates inside last)
    obtain ⟨field, listed, ends⟩ := Option.bind_eq_some_iff.mp later
    rw [List.getLast?_cons, listed]
    exact ends
  | case5 word c rest _ ih =>
    refine ih ?_
    rwa [List.reverse_cons, List.append_assoc]

private theorem getLast?_intercalate {joint : List Char} {lists : List (List Char)}
    (last : (lists.getLast?.bind List.getLast?) = some x) :
    (joint.intercalate lists).getLast? = some x := by
  induction lists with
  | nil => cases last
  | cons first lists ih =>
    cases lists with
    | nil => rwa [List.intercalate_singleton]
    | cons second lists =>
      rw [List.getLast?_cons_cons] at last
      rw [List.intercalate_cons_cons, List.getLast?_append, ih last, Option.some_or]

private theorem getLast?_plural (filled : text ≠ []) : (plural text).getLast? = some 's' := by
  unfold plural
  rw [if_neg (by simpa using filled)]
  split
  · split
    · rw [List.getLast?_concat]
    · rw [List.getLast?_append]
      rfl
  all_goals
    rw [List.getLast?_append]
    rfl

/-- The plural of a name ends with the same letter in each style that joins small words. -/
theorem getLast?_joined_plural (joint : Char) (filled : text ≠ []) :
    ([joint].intercalate (lowerWords (plural text))).getLast? = some 's' := by
  have ends : ((words (plural text)).getLast?.bind List.getLast?) = some 's' := by
    refine getLast?_fieldsFrom (by decide) ?_
    rw [List.reverse_nil, List.nil_append, spaceAcronyms, getLast?_spaceAcronymsFrom,
      List.reverse_nil, List.nil_append, getLast?_spaceCapitals, getLast?_plural filled]
  obtain ⟨word, listed, last⟩ := Option.bind_eq_some_iff.mp ends
  refine getLast?_intercalate ?_
  rw [lowerWords, List.getLast?_map, listed]
  exact getLast?_lowerText (by decide) (by decide) last

end Blueprint.Naming
