import Mathlib.Algebra.GroupWithZero.Nat
import Mathlib.Data.List.Nodup
import Blueprint.OrderedMap
import Blueprint.Proofs.Distinct

namespace Blueprint.OrderedMap

variable {κ : Type} {α : Type} [BEq κ] [LawfulBEq κ]

/-- Writing to a key adds it behind the others unless it is there. -/
theorem keys_put (key : κ) (value : α) (map : List (κ × α)) :
    (put key value map).map Prod.fst =
      if key ∈ map.map Prod.fst then map.map Prod.fst else map.map Prod.fst ++ [key] := by
  induction map with
  | nil => rfl
  | cons entry map ih =>
    unfold put
    by_cases same : entry.1 = key
    · rw [if_pos (beq_iff_eq.mpr same), if_pos (by simp [same])]
      rfl
    · rw [if_neg (by simpa using same), List.map_cons, ih]
      by_cases there : key ∈ map.map Prod.fst
      · have present : key ∈ (entry :: map).map Prod.fst := List.mem_cons_of_mem _ there
        rw [if_pos there, if_pos present]
        rfl
      · have absent : key ∉ (entry :: map).map Prod.fst := by
          rw [List.map_cons, List.mem_cons, not_or]
          exact ⟨Ne.symm same, there⟩
        rw [if_neg there, if_neg absent]
        rfl

/-- The keys of a list that a map does not have. -/
def newKeys (map entries : List (κ × α)) : List κ :=
  (entries.map Prod.fst).filter (· ∉ map.map Prod.fst)

/-- Writing entries with keys of their own adds the new ones in order. -/
theorem keys_putAll {entries : List (κ × α)} (distinct : (entries.map Prod.fst).Nodup)
    (map : List (κ × α)) :
    (putAll map entries).map Prod.fst = map.map Prod.fst ++ newKeys map entries := by
  induction entries generalizing map with
  | nil => exact (List.append_nil _).symm
  | cons entry entries ih =>
    rw [List.map_cons, List.nodup_cons] at distinct
    have others : newKeys (put entry.1 entry.2 map) entries = newKeys map entries := by
      apply List.filter_congr
      intro key listed
      have apart : key ≠ entry.1 := fun same => distinct.1 (same ▸ listed)
      rw [decide_eq_decide, mem_keys_put_iff, or_iff_right apart]
    change (putAll (put entry.1 entry.2 map) entries).map Prod.fst = _
    rw [ih distinct.2, others, keys_put]
    by_cases there : entry.1 ∈ map.map Prod.fst
    · rw [if_pos there, newKeys, newKeys, List.map_cons, List.filter_cons_of_neg (by simpa using there)]
    · rw [if_neg there, newKeys, newKeys, List.map_cons, List.filter_cons_of_pos (by simpa using there),
        List.append_assoc]
      rfl

theorem nodup_keys_put (key : κ) (value : α) {map : List (κ × α)}
    (distinct : (map.map Prod.fst).Nodup) : ((put key value map).map Prod.fst).Nodup := by
  rw [keys_put]
  split
  · exact distinct
  · rename_i absent
    rw [List.nodup_append_comm, List.singleton_append, List.nodup_cons]
    exact ⟨absent, distinct⟩

/-- Keys stand where they came first. -/
theorem keys_putAll_eq_eraseDups {map : List (κ × α)} (distinct : (map.map Prod.fst).Nodup)
    (entries : List (κ × α)) :
    (putAll map entries).map Prod.fst = (map.map Prod.fst ++ entries.map Prod.fst).eraseDups := by
  induction entries generalizing map with
  | nil =>
    rw [List.map_nil, List.append_nil, eraseDups_eq_self distinct]
    rfl
  | cons entry entries ih =>
    change (putAll (put entry.1 entry.2 map) entries).map Prod.fst = _
    rw [ih (nodup_keys_put entry.1 entry.2 distinct), keys_put]
    split
    · rename_i present
      have known : (entry.1 :: entries.map Prod.fst).removeAll (map.map Prod.fst) =
          (entries.map Prod.fst).removeAll (map.map Prod.fst) := by
        rw [List.removeAll, List.filter_cons_of_neg (by simpa using present)]
        rfl
      rw [List.eraseDups_append, List.map_cons, List.eraseDups_append, known]
    · rw [List.append_assoc]
      rfl

theorem nodup_keys_putAll {map : List (κ × α)} (distinct : (map.map Prod.fst).Nodup)
    (entries : List (κ × α)) : ((putAll map entries).map Prod.fst).Nodup := by
  rw [keys_putAll_eq_eraseDups distinct]
  exact nodup_eraseDups _

theorem keys_ofList (entries : List (κ × α)) :
    (ofList entries).map Prod.fst = (entries.map Prod.fst).eraseDups := by
  have empty : (([] : List (κ × α)).map Prod.fst).Nodup := List.nodup_nil
  exact keys_putAll_eq_eraseDups empty entries

theorem nodup_keys_ofList (entries : List (κ × α)) : ((ofList entries).map Prod.fst).Nodup := by
  rw [keys_ofList]
  exact nodup_eraseDups _

theorem mem_of_lookup {map : List (κ × α)} {key : κ} {value : α}
    (found : map.lookup key = some value) : (key, value) ∈ map := by
  obtain ⟨before, after, rfl, _⟩ := List.lookup_eq_some_iff.mp found
  simp

/-- The map of entries with keys of their own finds exactly these entries. -/
theorem lookup_ofList_iff {entries : List (κ × α)} (distinct : (entries.map Prod.fst).Nodup)
    {key : κ} {value : α} : (ofList entries).lookup key = some value ↔ (key, value) ∈ entries := by
  constructor
  · exact fun found => mem_of_mem_ofList (mem_of_lookup found)
  · intro listed
    have present : key ∈ (ofList entries).map Prod.fst :=
      mem_keys_putAll_of_mem (Or.inr (List.mem_map.mpr ⟨_, listed, rfl⟩))
    obtain ⟨entry, member, rfl⟩ := List.mem_map.mp present
    have known : ((ofList entries).lookup entry.1).isSome = true := by
      rw [List.lookup_isSome_iff]
      exact ⟨entry, member, beq_self_eq_true _⟩
    obtain ⟨other, found⟩ := Option.isSome_iff_exists.mp known
    have same := List.inj_on_of_nodup_map distinct listed
      (mem_of_mem_ofList (mem_of_lookup found)) rfl
    rw [found, (Prod.mk.inj same).2]

/-- Two maps have no key in common. -/
def Apart (first second : List (κ × α)) : Prop :=
  ∀ key ∈ first.map Prod.fst, key ∉ second.map Prod.fst

private theorem length_newKeys_le (map entries : List (κ × α)) :
    (newKeys map entries).length ≤ entries.length := by
  have bounded := List.length_filter_le (· ∉ map.map Prod.fst) (entries.map Prod.fst)
  rwa [List.length_map] at bounded

private theorem length_newKeys_eq_iff (map entries : List (κ × α)) :
    (newKeys map entries).length = entries.length ↔ Apart map entries := by
  have keys : (entries.map Prod.fst).length = entries.length := List.length_map _
  rw [← keys, newKeys, List.length_filter_eq_length_iff]
  constructor
  · intro absent key there listed
    simpa [there] using absent key listed
  · intro apart key listed
    simpa using fun there => apart key there listed

private theorem length_putAll {entries : List (κ × α)} (distinct : (entries.map Prod.fst).Nodup)
    (map : List (κ × α)) :
    (putAll map entries).length = map.length + (newKeys map entries).length := by
  have keys := congrArg List.length (keys_putAll distinct map)
  rwa [List.length_append, List.length_map, List.length_map] at keys

theorem apart_putAll_iff {map entries later : List (κ × α)} :
    Apart (putAll map entries) later ↔ Apart map later ∧ Apart entries later := by
  constructor
  · intro apart
    exact ⟨fun key there => apart key (mem_keys_putAll_of_mem (Or.inl there)),
      fun key listed => apart key (mem_keys_putAll_of_mem (Or.inr listed))⟩
  · rintro ⟨before, written⟩ key listed
    rcases mem_keys_putAll listed with there | new
    · exact before key there
    · exact written key new

/-- Merging into a map keeps at most all entries, and all of them exactly if no key comes twice. -/
theorem length_foldl_putAll {maps : List (List (κ × α))}
    (distinct : ∀ map ∈ maps, (map.map Prod.fst).Nodup) (start : List (κ × α)) :
    (maps.foldl putAll start).length ≤ start.length + (maps.map List.length).sum ∧
      ((maps.foldl putAll start).length = start.length + (maps.map List.length).sum ↔
        (∀ map ∈ maps, Apart start map) ∧ maps.Pairwise Apart) := by
  induction maps generalizing start with
  | nil => simp
  | cons first maps ih =>
    rw [List.forall_mem_cons] at distinct
    obtain ⟨bound, kept⟩ := ih distinct.2 (putAll start first)
    have length := length_putAll distinct.1 start
    have short := length_newKeys_le start first
    have full := length_newKeys_eq_iff start first
    rw [List.foldl_cons, List.map_cons, List.sum_cons]
    refine ⟨by omega, ?_⟩
    rw [List.forall_mem_cons, List.pairwise_cons]
    have split : (maps.foldl putAll (putAll start first)).length =
        start.length + (first.length + (maps.map List.length).sum) ↔
        (newKeys start first).length = first.length ∧
          (maps.foldl putAll (putAll start first)).length =
            (putAll start first).length + (maps.map List.length).sum := by
      omega
    rw [split, full, kept]
    simp only [apart_putAll_iff]
    constructor
    · rintro ⟨here, others, later⟩
      exact ⟨⟨here, fun map listed => (others map listed).1⟩,
        fun map listed => (others map listed).2, later⟩
    · rintro ⟨⟨here, before⟩, mine, later⟩
      exact ⟨here, fun map listed => ⟨before map listed, mine map listed⟩, later⟩

/-- Merged maps have all entries exactly if no two of them share a key. -/
theorem length_merge_eq_sum_iff {maps : List (List (κ × α))}
    (distinct : ∀ map ∈ maps, (map.map Prod.fst).Nodup) :
    (merge maps).length = (maps.map List.length).sum ↔ maps.Pairwise Apart := by
  have whole := (length_foldl_putAll distinct []).2
  rw [List.length_nil, Nat.zero_add] at whole
  rw [merge, whole]
  exact and_iff_right fun map _ key absent => absurd absent List.not_mem_nil

section Values

/-- The value of the last entry of a key. -/
def last? (key : κ) (entries : List (κ × α)) : Option α := entries.reverse.lookup key

theorem lookup_cons_of_ne {key : κ} {entry : κ × α} (other : key ≠ entry.1)
    (map : List (κ × α)) : (entry :: map).lookup key = map.lookup key := by
  rw [List.lookup_cons, beq_false_of_ne other]

omit [LawfulBEq κ] in
theorem last?_append (key : κ) (first second : List (κ × α)) :
    last? key (first ++ second) = (last? key second).or (last? key first) := by
  rw [last?, List.reverse_append, List.lookup_append]
  rfl

theorem last?_singleton [DecidableEq κ] (key : κ) (entry : κ × α) :
    last? key [entry] = if entry.1 = key then some entry.2 else none := by
  by_cases same : entry.1 = key
  · rw [if_pos same, last?, List.reverse_singleton, List.lookup_cons, same, beq_self_eq_true]
  · rw [if_neg same, last?, List.reverse_singleton, lookup_cons_of_ne (Ne.symm same),
      List.lookup_nil]

omit [LawfulBEq κ] in
/-- The last of several lists that has an entry of a key decides. -/
theorem last?_flatten (key : κ) (groups : List (List (κ × α))) :
    last? key groups.flatten = groups.reverse.findSome? (last? key) := by
  induction groups with
  | nil => rfl
  | cons group groups ih =>
    rw [List.flatten_cons, last?_append, ih, List.reverse_cons, List.findSome?_append,
      List.findSome?_singleton]

theorem lookup_put_self (key : κ) (value : α) (map : List (κ × α)) :
    (put key value map).lookup key = some value := by
  induction map with
  | nil => exact List.lookup_cons_self
  | cons entry map ih =>
    unfold put
    split
    · rename_i present
      rw [eq_of_beq present]
      exact List.lookup_cons_self
    · rename_i other
      have apart : key ≠ entry.1 := fun same => other (beq_iff_eq.mpr same.symm)
      rw [lookup_cons_of_ne apart, ih]

theorem lookup_put_of_ne {key name : κ} (other : name ≠ key) (value : α) (map : List (κ × α)) :
    (put key value map).lookup name = map.lookup name := by
  induction map with
  | nil => exact lookup_cons_of_ne other []
  | cons entry map ih =>
    unfold put
    split
    · rename_i present
      rw [← eq_of_beq present] at other
      have apart : name ≠ (entry.1, value).1 := other
      rw [lookup_cons_of_ne apart, lookup_cons_of_ne other]
    · rw [List.lookup_cons, List.lookup_cons, ih]

/-- What was written last under a key is found there. -/
theorem lookup_putAll (key : κ) (map entries : List (κ × α)) :
    (putAll map entries).lookup key = (last? key entries).or (map.lookup key) := by
  induction entries generalizing map with
  | nil => rfl
  | cons entry entries ih =>
    change (putAll (put entry.1 entry.2 map) entries).lookup key = _
    rw [ih, ← List.singleton_append, last?_append, Option.or_assoc]
    congr 1
    by_cases same : key = entry.1
    · rw [same, lookup_put_self]
      exact (congrArg (Option.or · _) (List.lookup_cons_self (b := entry.2))).symm
    · rw [lookup_put_of_ne same]
      exact (congrArg (Option.or · _) (lookup_cons_of_ne same [])).symm

theorem lookup_ofList (key : κ) (entries : List (κ × α)) :
    (ofList entries).lookup key = last? key entries := by
  rw [ofList, lookup_putAll, List.lookup_nil, Option.or_none]

theorem lookup_eq_none_of_not_mem {key : κ} {map : List (κ × α)}
    (absent : key ∉ map.map Prod.fst) : map.lookup key = none := by
  rw [List.lookup_eq_none_iff]
  intro entry listed
  simpa using fun same : key = entry.1 => absent (same ▸ List.mem_map_of_mem listed)

theorem last?_eq_none_iff {key : κ} {entries : List (κ × α)} :
    last? key entries = none ↔ key ∉ entries.map Prod.fst := by
  rw [last?, List.lookup_eq_none_iff, List.mem_map]
  constructor
  · rintro apart ⟨entry, listed, rfl⟩
    exact bne_iff_ne.mp (apart entry (List.mem_reverse.mpr listed)) rfl
  · intro absent entry listed
    exact bne_iff_ne.mpr fun same => absent ⟨entry, List.mem_reverse.mp listed, same.symm⟩

theorem last?_of_only {key : κ} {value : α} {entries : List (κ × α)} (listed : (key, value) ∈ entries)
    (only : ∀ entry ∈ entries, entry.1 = key → entry.2 = value) : last? key entries = some value := by
  cases found : last? key entries with
  | none => exact absurd (List.mem_map_of_mem listed) (last?_eq_none_iff.mp found)
  | some other =>
    exact congrArg some (only (key, other) (List.mem_reverse.mp (mem_of_lookup found)) rfl)

/-- Where no key comes twice, every entry is found under its key. -/
theorem lookup_of_mem {map : List (κ × α)} (distinct : (map.map Prod.fst).Nodup) {entry : κ × α}
    (listed : entry ∈ map) : map.lookup entry.1 = some entry.2 := by
  induction map with
  | nil => cases listed
  | cons first map ih =>
    rw [List.map_cons, List.nodup_cons] at distinct
    rcases List.mem_cons.mp listed with rfl | later
    · exact List.lookup_cons_self
    · have apart : entry.1 ≠ first.1 :=
        fun same => distinct.1 (same ▸ List.mem_map_of_mem later)
      rw [lookup_cons_of_ne apart, ih distinct.2 later]

/-- Maps with the same keys in the same order and the same values are the same. -/
theorem eq_of_lookup_eq {first second : List (κ × α)} (distinct : (first.map Prod.fst).Nodup)
    (keys : first.map Prod.fst = second.map Prod.fst)
    (values : ∀ key, first.lookup key = second.lookup key) : first = second := by
  induction first generalizing second with
  | nil => exact (List.map_eq_nil_iff.mp keys.symm).symm
  | cons entry first ih =>
    cases second with
    | nil => cases keys
    | cons other second =>
      rw [List.map_cons, List.map_cons, List.cons.injEq] at keys
      rw [List.map_cons, List.nodup_cons] at distinct
      have same : entry = other := by
        have value := values entry.1
        obtain ⟨name, kept⟩ := other
        obtain rfl : entry.1 = name := keys.1
        have found : some entry.2 = some kept :=
          List.lookup_cons_self.symm.trans (value.trans List.lookup_cons_self)
        rw [← Option.some.inj found]
      have rest : first = second := by
        refine ih distinct.2 keys.2 fun key => ?_
        by_cases same : key = entry.1
        · rw [same, lookup_eq_none_of_not_mem distinct.1,
            lookup_eq_none_of_not_mem (keys.2 ▸ distinct.1)]
        · have later := values key
          rwa [lookup_cons_of_ne same, lookup_cons_of_ne (keys.1 ▸ same)] at later
      rw [rest, same]

theorem last?_of_nodup {entries : List (κ × α)} (distinct : (entries.map Prod.fst).Nodup)
    (key : κ) : last? key entries = entries.lookup key := by
  induction entries with
  | nil => rfl
  | cons entry entries ih =>
    rw [List.map_cons, List.nodup_cons] at distinct
    rw [← List.singleton_append, last?_append, ih distinct.2, List.lookup_append]
    by_cases same : key = entry.1
    · rw [same, lookup_eq_none_of_not_mem distinct.1, Option.none_or, Option.or_none]
      rfl
    · have unlisted : last? key [entry] = none := lookup_cons_of_ne same []
      rw [unlisted, lookup_cons_of_ne same, List.lookup_nil, Option.none_or, Option.or_none]

private theorem putAll_ofList {map : List (κ × α)} (distinct : (map.map Prod.fst).Nodup)
    (entries : List (κ × α)) : putAll map (ofList entries) = putAll map entries := by
  refine eq_of_lookup_eq (nodup_keys_putAll distinct _) ?_ fun key => ?_
  · rw [keys_putAll_eq_eraseDups distinct, keys_putAll_eq_eraseDups distinct, keys_ofList,
      eraseDups_append_eraseDups]
  · rw [lookup_putAll, lookup_putAll, last?_of_nodup (nodup_keys_ofList entries), lookup_ofList]

/-- Merging the maps of several lists is the map of all their entries. -/
theorem merge_map_ofList (groups : List (List (κ × α))) :
    merge (groups.map ofList) = ofList groups.flatten := by
  have general (map : List (κ × α)) (distinct : (map.map Prod.fst).Nodup) :
      (groups.map ofList).foldl putAll map = putAll map groups.flatten := by
    induction groups generalizing map with
    | nil => rfl
    | cons group groups ih =>
      rw [List.map_cons, List.foldl_cons, putAll_ofList distinct,
        ih _ (nodup_keys_putAll distinct group), List.flatten_cons, putAll, putAll, putAll,
        List.foldl_append]
  exact general [] List.nodup_nil

end Values

end Blueprint.OrderedMap
