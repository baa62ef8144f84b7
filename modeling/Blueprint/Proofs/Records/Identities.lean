import Blueprint.Proofs.Records.Refinement

namespace Blueprint.Records

section Histories

variable (identity entity : String)

/-- A call gives a value to the identity of a record of an entity: as the identity of an item, or as
that of all records that it changes. -/
def Call.Supplies (value : Json) : Call → Prop
  | .create other items => other = entity ∧ ∃ item, .obj item ∈ items.items ∧
      (valueOf item identity).isNull = false ∧ valueOf item identity = value
  | .update other _ changes => other = entity ∧
      OrderedMap.last? identity changes.fields = some value
  | _ => False

/-- An item has no identity of its own. -/
def lacks (item : Record) : Bool := (valueOf item identity).isNull

/-- How many items of a call lack the identity of an entity. -/
def Call.lacking : Call → Nat
  | .create other items =>
    if other = entity then (items.items.map Json.fields).countP (lacks identity) else 0
  | _ => 0

/-- How many identities calls make an entity give out. -/
def givenOut (calls : List Call) : Nat := (calls.map (Call.lacking identity entity)).sum

/-- Every record has a number that was given out, or a value that is supplied. -/
def Known (supplied : Json → Prop) (issued : Nat) (records : List Record) : Prop :=
  ∀ record ∈ records, (∃ number ≤ issued, valueOf record identity = .nat number) ∨
    supplied (valueOf record identity)

/-- A store after calls: its count is that of what they make it give out, and its records have no
other identities than these and those that they supply. -/
structure Accounted (history : List Call) (store : Store) : Prop where
  field : store.identityField entity = identity
  tidy : Tidy store.table
  issued : store.issuedBy entity = givenOut identity entity history
  known : Known identity (fun value => ∃ call ∈ history, call.Supplies identity entity value)
    (store.issuedBy entity) (store.table entity)

end Histories

section Values

private theorem valueOf_put (field : String) (value : Json) (record : Record) :
    valueOf (OrderedMap.put field value record) field = value := by
  rw [valueOf, OrderedMap.get?, OrderedMap.lookup_put_self, Option.getD_some]

private theorem valueOf_putAll (record changes : Record) (field : String) :
    valueOf (OrderedMap.putAll record changes) field =
      (OrderedMap.last? field changes).getD (valueOf record field) := by
  rw [valueOf, OrderedMap.get?, OrderedMap.lookup_putAll]
  cases OrderedMap.last? field changes <;> rfl

private theorem same_nat_iff {first second : Nat} :
    (Json.nat first).same (.nat second) = true ↔ first = second := by
  have own (number : Nat) : (Json.nat number).quantity? = some (.ratio number 1) := rfl
  simp only [Json.same_number_iff (show (Json.nat first).kindRank = 1 from rfl), own, Option.some.injEq]
  constructor
  · rintro ⟨_, rfl, same⟩
    exact (Int.ofNat_inj.mp (Quantity.ratio.inj same).1).symm
  · rintro rfl
    exact ⟨_, rfl, rfl⟩

end Values

section Additions

variable {identity entity other : String} {store : Store} {item : Record} {items : List Record}
  {supplied : Json → Prop}

private theorem issuedBy_add (field : store.identityField entity = identity) :
    (store.add entity item).1.issuedBy entity =
      store.issuedBy entity + if lacks identity item then 1 else 0 := by
  subst field
  simp only [Store.add, Store.issuedBy, OrderedMap.get?, OrderedMap.lookup_put_self,
    Option.getD_some, Store.identified, lacks]
  by_cases missing : (valueOf item (store.identityField entity)).isNull = true <;> simp [missing]

private theorem issuedBy_add_of_ne (apart : entity ≠ other) :
    (store.add other item).1.issuedBy entity = store.issuedBy entity := by
  simp only [Store.add, Store.issuedBy, Store.setTable, OrderedMap.get?,
    OrderedMap.lookup_put_of_ne apart]

private theorem valueOf_add (field : store.identityField entity = identity)
    (missing : lacks identity item = true) :
    valueOf (store.add entity item).2 identity = .nat (store.issuedBy entity + 1) := by
  subst field
  rw [lacks] at missing
  simp only [Store.add, Store.identified, missing, ↓reduceIte, valueOf_put]

private theorem add_of_not_lacks (field : store.identityField entity = identity)
    (present : lacks identity item = false) : (store.add entity item).2 = item := by
  subst field
  rw [lacks] at present
  simp only [Store.add, Store.identified, present, Bool.false_eq_true, ↓reduceIte]

/-- Every item without an identity raises the count of its entity. -/
theorem issuedBy_create (items : List Record) (store : Store)
    (field : store.identityField entity = identity) :
    (Store.create other store items).1.issuedBy entity =
      store.issuedBy entity + if other = entity then items.countP (lacks identity) else 0 := by
  induction items generalizing store with
  | nil => simp [Store.create]
  | cons item items ih =>
    simp only [Store.create]
    rw [ih (store.add other item).1 field]
    split
    · rename_i same
      subst same
      rw [issuedBy_add field, List.countP_cons]
      omega
    · rename_i apart
      rw [issuedBy_add_of_ne (Ne.symm apart)]

private theorem create_append (entity : String) (first second : List Record) (store : Store) :
    Store.create entity store (first ++ second) =
      ((Store.create entity (Store.create entity store first).1 second).1,
        (Store.create entity store first).2 ++
          (Store.create entity (Store.create entity store first).1 second).2) := by
  induction first generalizing store with
  | nil => rfl
  | cons item first ih => simp only [List.cons_append, Store.create, ih]

theorem Known.add (known : Known identity supplied (store.issuedBy entity) (store.table entity))
    (field : store.identityField entity = identity)
    (brings : lacks identity item = false → supplied (valueOf item identity)) :
    Known identity supplied ((store.add entity item).1.issuedBy entity)
      ((store.add entity item).1.table entity) := by
  intro record listed
  rw [issuedBy_add field]
  rw [Store.table_add, Function.update_self, List.mem_append, List.mem_singleton] at listed
  rcases listed with old | rfl
  · exact (known record old).imp_left fun ⟨number, bounded, same⟩ => ⟨number, by omega, same⟩
  · cases missing : lacks identity item with
    | false =>
      rw [add_of_not_lacks field missing]
      exact Or.inr (brings missing)
    | true => exact Or.inl ⟨_, by simp, valueOf_add field missing⟩

theorem Known.create (items : List Record) {store : Store}
    (known : Known identity supplied (store.issuedBy entity) (store.table entity))
    (field : store.identityField entity = identity)
    (brings : ∀ item ∈ items, lacks identity item = false → supplied (valueOf item identity)) :
    Known identity supplied ((Store.create entity store items).1.issuedBy entity)
      ((Store.create entity store items).1.table entity) := by
  induction items generalizing store with
  | nil => exact known
  | cons item items ih =>
    rw [List.forall_mem_cons] at brings
    exact ih (known.add field brings.1) field brings.2

end Additions

section Steps

variable {identity entity : String} {supplied other : Json → Prop} {issued : Nat}
  {records : List Record} {store : Store} {call : Call} {history : List Call}

theorem Known.mono (known : Known identity supplied issued records)
    (more : ∀ value, supplied value → other value) : Known identity other issued records :=
  fun record listed => (known record listed).imp_right (more _)

/-- A call that creates nothing leaves identities or supplies them. -/
theorem Known.serves {identities : String → String} {lists after : String → List Record}
    {reply : Except Fault Reply} (known : Known identity supplied issued (lists entity))
    (serves : Serves identities lists call reply after)
    (creates : ∀ other items, call ≠ .create other items)
    (brings : ∀ value, call.Supplies identity entity value → supplied value) :
    Known identity supplied issued (after entity) := by
  cases serves with
  | connected | counted | found => exact known
  | created => exact absurd rfl (creates _ _)
  | @updated other filter conditions changes asks =>
    by_cases same : entity = other
    · subst same
      rw [Function.update_self]
      intro record listed
      obtain ⟨old, member, rfl⟩ := List.mem_map.mp listed
      split
      · rw [valueOf_putAll]
        cases given : OrderedMap.last? identity changes with
        | none => exact known old member
        | some value => exact Or.inr (brings value ⟨rfl, given⟩)
      · exact known old member
    · rw [Function.update_of_ne same]
      exact known
  | @deleted other filter conditions asks =>
    by_cases same : entity = other
    · subst same
      rw [Function.update_self]
      exact fun record listed => known record (List.mem_filter.mp listed).1
    · rw [Function.update_of_ne same]
      exact known

theorem issuedBy_call (store : Store) (creates : ∀ other items, call ≠ .create other items) :
    (store.call call).1.issuedBy entity = store.issuedBy entity := by
  obtain ⟨tables, same⟩ := exists_tables_call store creates
  rw [same]
  rfl

private theorem givenOut_concat (history : List Call) (call : Call) :
    givenOut identity entity (history ++ [call]) =
      givenOut identity entity history + call.lacking identity entity := by
  simp [givenOut]

theorem call_create (store : Store) (entity : String) (items : List Record) :
    store.call (.create entity (.arr (items.map .obj))) =
      ((Store.create entity store items).1, .ok (.records (Store.create entity store items).2)) := by
  simp only [Store.call, readItems, readableRecords_obj]

private theorem lacking_create (entity other : String) (items : List Record) :
    Call.lacking identity entity (.create other (.arr (items.map .obj))) =
      if other = entity then items.countP (lacks identity) else 0 := by
  simp [Call.lacking, Json.items, Json.fields, Function.comp_def]

private theorem supplies_create {items : List Record} {item : Record} (listed : item ∈ items)
    (present : lacks identity item = false) :
    Call.Supplies identity entity (valueOf item identity) (.create entity (.arr (items.map .obj))) :=
  ⟨rfl, item, List.mem_map_of_mem listed, present, rfl⟩

theorem Known.call_create (items : List Record) (other : String)
    (field : store.identityField entity = identity)
    (known : Known identity supplied (store.issuedBy entity) (store.table entity))
    (brings : ∀ value,
      Call.Supplies identity entity value (.create other (.arr (items.map .obj))) → supplied value) :
    Known identity supplied ((Store.create other store items).1.issuedBy entity)
      ((Store.create other store items).1.table entity) := by
  by_cases same : other = entity
  · subst same
    exact known.create items field fun item listed present =>
      brings _ (supplies_create listed present)
  · rw [issuedBy_create items store field, if_neg same, (create_serves other items store).2.1,
      Function.update_of_ne (Ne.symm same)]
    exact known

/-- A store that is accounted for is so after every plain call. -/
theorem Accounted.after (accounted : Accounted identity entity history store)
    (plain : call.IsPlain) : Accounted identity entity (history ++ [call]) (store.call call).1 := by
  have serves := serves_call store plain accounted.tidy
  have field : (store.call call).1.identityField entity = identity := by
    rw [Store.identityField, identityFields_call]
    exact accounted.field
  have brings (value : Json) (given : call.Supplies identity entity value) :
      ∃ made ∈ history ++ [call], made.Supplies identity entity value := ⟨call, by simp, given⟩
  have known : Known identity
      (fun value => ∃ made ∈ history ++ [call], made.Supplies identity entity value)
      (store.issuedBy entity) (store.table entity) :=
    accounted.known.mono fun value supplied =>
      supplied.imp fun made given => ⟨List.mem_append_left _ given.1, given.2⟩
  refine ⟨field, serves.tidy plain accounted.tidy, ?_, ?_⟩
  · rw [givenOut_concat, ← accounted.issued]
    cases call with
    | create other items =>
      obtain ⟨items, rfl, _⟩ := plain
      rw [call_create, lacking_create, issuedBy_create items store accounted.field]
    | connect | find | count | update | delete =>
      rw [issuedBy_call store (by simp)]
      rfl
  · cases call with
    | create other items =>
      obtain ⟨items, rfl, _⟩ := plain
      rw [call_create]
      exact known.call_create items other accounted.field brings
    | connect | find | count | update | delete =>
      rw [issuedBy_call store (by simp)]
      exact known.serves serves (by simp) brings

end Steps

section Runs

variable {identity entity : String} {history calls : List Call} {store : Store}

theorem Accounted.run (accounted : Accounted identity entity history store)
    (plain : ∀ call ∈ calls, call.IsPlain) : ∃ after replies,
      Source.run (.memory store) calls = (.memory after, replies) ∧
      Accounted identity entity (history ++ calls) after := by
  induction calls generalizing history store with
  | nil => exact ⟨store, [], rfl, by simpa using accounted⟩
  | cons call calls ih =>
    rw [List.forall_mem_cons] at plain
    obtain ⟨after, replies, ran, kept⟩ := ih (accounted.after plain.1) plain.2
    rw [List.append_assoc, List.singleton_append] at kept
    refine ⟨after, (store.call call).2 :: replies, ?_, kept⟩
    simp only [Source.run, Source.call, ran]

private theorem accounted_empty (identityFields : List (String × String)) (entity : String) :
    Accounted (Store.identityField { identityFields } entity) entity [] { identityFields } :=
  ⟨rfl, fun _ _ => nofun, rfl, fun _ => nofun⟩

end Runs

section Freshness

variable {identity entity : String} {history : List Call} {store : Store}

/-- The next number is had by a record exactly if a caller supplied it to one that is there. -/
theorem Accounted.fresh_iff (accounted : Accounted identity entity history store) :
    (∀ record ∈ store.table entity,
      (valueOf record identity).same (.nat (store.issuedBy entity + 1)) = false) ↔
    ∀ call ∈ history, ∀ value, call.Supplies identity entity value →
      value.same (.nat (store.issuedBy entity + 1)) = true →
      ∀ record ∈ store.table entity, valueOf record identity ≠ value := by
  constructor
  · rintro fresh call _ value _ taken record listed rfl
    exact absurd taken (Bool.eq_false_iff.mp (fresh record listed))
  · intro untaken record listed
    rw [Bool.eq_false_iff]
    intro taken
    rcases accounted.known record listed with ⟨number, bounded, given⟩ | ⟨call, made, given⟩
    · rw [given, same_nat_iff] at taken
      omega
    · exact untaken call made _ given taken record listed rfl

end Freshness

/-- Among the calls on a source in memory, an item that lacks its identity is given the number after
all those that its entity has given out. No record that is there has an equal identity exactly if no
record that is there has an identity equal to that number from a caller. -/
theorem assigned_identity_fresh_iff (identityFields : List (String × String)) {calls : List Call}
    (plain : ∀ call ∈ calls, call.IsPlain) (entity : String) {earlier later : List Record}
    {item : Record} (distinct : ∀ record ∈ earlier, Distinct record)
    (missing : lacks (Store.identityField { identityFields } entity) item = true) :
    let identity := Store.identityField { identityFields } entity
    let history := calls ++ [.create entity (.arr (earlier.map .obj))]
    let number := Json.nat (givenOut identity entity history + 1)
    ∃ store replies created record others,
      Source.run (.memory { identityFields }) calls = (.memory store, replies) ∧
      (store.call (.create entity (.arr ((earlier ++ item :: later).map .obj)))).2 =
        .ok (.records (created ++ record :: others)) ∧
      created.length = earlier.length ∧ valueOf record identity = number ∧
      ((∀ other ∈ store.table entity ++ created, (valueOf other identity).same number = false) ↔
        ∀ call ∈ history, ∀ value, call.Supplies identity entity value →
          value.same number = true →
          ∀ other ∈ store.table entity ++ created, valueOf other identity ≠ value) := by
  intro identity history number
  obtain ⟨store, replies, ran, accounted⟩ := (accounted_empty identityFields entity).run plain
  have begun : (Call.create entity (.arr (earlier.map .obj))).IsPlain := ⟨earlier, rfl, distinct⟩
  have accounted : Accounted identity entity history _ := accounted.after begun
  rw [call_create] at accounted
  obtain ⟨kept, tables, _⟩ := create_serves entity earlier store
  refine ⟨store, replies, (Store.create entity store earlier).2,
    ((Store.create entity store earlier).1.add entity item).2,
    (Store.create entity ((Store.create entity store earlier).1.add entity item).1 later).2,
    ran, ?_, kept.length_eq.symm, ?_, ?_⟩
  · rw [call_create, create_append]
    rfl
  · rw [valueOf_add accounted.field missing, accounted.issued]
  · have fresh := accounted.fresh_iff
    rw [tables, Function.update_self, accounted.issued] at fresh
    exact fresh

/-- A pen that comes with the identity two, which a change takes away from it again. -/
def penCalls : List Call :=
  [.create "Pen" (.arr ([[("code", .nat 2)], [("ink", .str "blue")]].map .obj)),
    .update "Pen" (.obj [("code", .nat 2)]) (.obj [("code", .null)])]

/-- Two pens that come together, without an identity. -/
def greenPen : Record := [("ink", .str "green")]

def redPen : Record := [("ink", .str "red")]

theorem assigned_identity_fresh_iff_pens :
    (∀ call ∈ penCalls, call.IsPlain) ∧ (∀ record ∈ [greenPen], Distinct record) ∧
    lacks (Store.identityField { identityFields := [("Pen", "code")] } "Pen") redPen = true ∧
    let identity := Store.identityField { identityFields := [("Pen", "code")] } "Pen"
    let history := penCalls ++ [.create "Pen" (.arr ([greenPen].map .obj))]
    let number := Json.nat (givenOut identity "Pen" history + 1)
    ∃ store replies created record others,
      Source.run (.memory { identityFields := [("Pen", "code")] }) penCalls =
        (.memory store, replies) ∧
      (store.call (.create "Pen" (.arr (([greenPen] ++ redPen :: []).map .obj)))).2 =
        .ok (.records (created ++ record :: others)) ∧
      created.length = [greenPen].length ∧ valueOf record identity = number ∧
      ((∀ other ∈ store.table "Pen" ++ created, (valueOf other identity).same number = false) ↔
        ∀ call ∈ history, ∀ value, call.Supplies identity "Pen" value →
          value.same number = true →
          ∀ other ∈ store.table "Pen" ++ created, valueOf other identity ≠ value) := by
  have plain : ∀ call ∈ penCalls, call.IsPlain := by
    simp only [penCalls, List.forall_mem_cons]
    exact ⟨⟨_, rfl, by decide⟩, ⟨⟨_, .inl rfl⟩, _, rfl⟩, nofun⟩
  have distinct : ∀ record ∈ [greenPen], Distinct record := by decide
  exact ⟨plain, distinct, rfl,
    assigned_identity_fresh_iff [("Pen", "code")] plain "Pen" distinct rfl⟩

/-- The first number is given out although a record was created with it. -/
theorem assigned_identity_taken : ∃ store replies,
    Source.run (.memory {})
      [.create "Item" (.arr [.obj [("id", .nat 1), ("name", .str "a")]])] =
      (.memory store, replies) ∧
    (store.call (.create "Item" (.arr [.obj [("name", .str "b")]]))).2 =
      .ok (.records [[("name", .str "b"), ("id", .nat 1)]]) ∧
    ∃ other ∈ store.table "Item", (valueOf other "id").same (.nat 1) = true :=
  ⟨{ tables := [("Item", [[("id", .nat 1), ("name", .str "a")]])], issued := [("Item", 0)] }, _,
    rfl, rfl, _, .head _, same_nat_iff.mpr rfl⟩

end Blueprint.Records
