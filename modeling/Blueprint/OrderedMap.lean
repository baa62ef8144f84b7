namespace Blueprint.OrderedMap

variable {κ : Type} {α : Type} [BEq κ]

/-- Writes a value: in place when the key is present, else at the end. -/
def put (key : κ) (value : α) : List (κ × α) → List (κ × α)
  | [] => [(key, value)]
  | entry :: rest =>
    if entry.1 == key then (entry.1, value) :: rest else entry :: put key value rest

/-- Writes every entry of a list, in order. -/
def putAll (map entries : List (κ × α)) : List (κ × α) :=
  entries.foldl (fun done entry => put entry.1 entry.2 done) map

/-- The map of a list of entries: first places, last values. -/
def ofList (entries : List (κ × α)) : List (κ × α) := putAll [] entries

/-- Folds maps from left to right: later values win, first places are kept. -/
def merge (maps : List (List (κ × α))) : List (κ × α) := maps.foldl putAll []

/-- The value of a key. -/
def get? (key : κ) (map : List (κ × α)) : Option α := map.lookup key

/-- The key is present. -/
def has (key : κ) (map : List (κ × α)) : Bool := map.any (·.1 == key)

@[simp] theorem put_nil (key : κ) (value : α) : put key value [] = [(key, value)] := rfl

@[simp] theorem ofList_nil : ofList ([] : List (κ × α)) = [] := rfl

theorem mem_keys_put {key name : κ} {value : α} {map : List (κ × α)}
    (member : name ∈ (put key value map).map Prod.fst) : name = key ∨ name ∈ map.map Prod.fst := by
  induction map with
  | nil => simpa using member
  | cons entry rest ih =>
    unfold put at member
    split at member
    · exact Or.inr (by simpa using member)
    · rcases List.mem_cons.mp member with first | later
      · exact Or.inr (by simp [first])
      · rcases ih later with new | old
        · exact Or.inl new
        · exact Or.inr (List.mem_cons_of_mem _ old)

/-- Writing to a key adds it to the keys. -/
theorem mem_keys_put_iff [LawfulBEq κ] {key name : κ} {value : α} {map : List (κ × α)} :
    name ∈ (put key value map).map Prod.fst ↔ name = key ∨ name ∈ map.map Prod.fst := by
  constructor
  · exact mem_keys_put
  · induction map with
    | nil => simp
    | cons entry rest ih =>
      unfold put
      split
      · rename_i same
        rintro (rfl | member)
        · simp [eq_of_beq same]
        · simpa using member
      · rintro (rfl | member)
        · exact List.mem_cons_of_mem _ (ih (Or.inl rfl))
        · rcases List.mem_cons.mp member with first | later
          · simp [first]
          · exact List.mem_cons_of_mem _ (ih (Or.inr later))

theorem mem_put {key : κ} {value : α} {map : List (κ × α)} {entry : κ × α} [LawfulBEq κ]
    (member : entry ∈ put key value map) : entry = (key, value) ∨ entry ∈ map := by
  induction map with
  | nil => simpa using member
  | cons first rest ih =>
    unfold put at member
    split at member
    · rename_i same
      rcases List.mem_cons.mp member with here | later
      · exact Or.inl (by rw [here, eq_of_beq same])
      · exact Or.inr (List.mem_cons_of_mem _ later)
    · rcases List.mem_cons.mp member with here | later
      · exact Or.inr (by simp [here])
      · rcases ih later with new | old
        · exact Or.inl new
        · exact Or.inr (List.mem_cons_of_mem _ old)

theorem mem_keys_putAll {name : κ} {map entries : List (κ × α)}
    (member : name ∈ (putAll map entries).map Prod.fst) :
    name ∈ map.map Prod.fst ∨ name ∈ entries.map Prod.fst := by
  induction entries generalizing map with
  | nil => exact Or.inl member
  | cons entry entries ih =>
    rcases ih member with earlier | later
    · rcases mem_keys_put earlier with new | old
      · exact Or.inr (by simp [new])
      · exact Or.inl old
    · exact Or.inr (List.mem_cons_of_mem _ later)

/-- Writing entries brings in no others. -/
theorem mem_putAll [LawfulBEq κ] {map entries : List (κ × α)} {entry : κ × α}
    (member : entry ∈ putAll map entries) : entry ∈ map ∨ entry ∈ entries := by
  induction entries generalizing map with
  | nil => exact Or.inl member
  | cons first entries ih =>
    rcases ih member with earlier | later
    · rcases mem_put earlier with new | old
      · exact Or.inr (by simp [new])
      · exact Or.inl old
    · exact Or.inr (List.mem_cons_of_mem _ later)

/-- No key is lost where entries are written. -/
theorem mem_keys_putAll_of_mem [LawfulBEq κ] {name : κ} {map entries : List (κ × α)}
    (member : name ∈ map.map Prod.fst ∨ name ∈ entries.map Prod.fst) :
    name ∈ (putAll map entries).map Prod.fst := by
  induction entries generalizing map with
  | nil => exact member.resolve_right List.not_mem_nil
  | cons entry entries ih =>
    apply ih
    rw [mem_keys_put_iff]
    rcases member with old | new
    · exact Or.inl (Or.inr old)
    · rcases List.mem_cons.mp new with first | later
      · exact Or.inl (Or.inl first)
      · exact Or.inr later

theorem mem_keys_ofList {name : κ} {entries : List (κ × α)}
    (member : name ∈ (ofList entries).map Prod.fst) : name ∈ entries.map Prod.fst := by
  simpa using mem_keys_putAll member

theorem mem_of_mem_ofList [LawfulBEq κ] {entries : List (κ × α)} {entry : κ × α}
    (member : entry ∈ ofList entries) : entry ∈ entries := by
  simpa using mem_putAll member

end Blueprint.OrderedMap
