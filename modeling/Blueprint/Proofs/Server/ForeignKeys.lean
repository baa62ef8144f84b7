import Blueprint.Proofs.Resolve.Merging
import Blueprint.Proofs.Server.TableModule

namespace Blueprint.Server

open Design ServerCode Relationship

/-- The mixins and the associations of every entity can be resolved, with the properties of mixins
and without. -/
structure AllResolve (registry : Registry) : Prop where
  whole : ∀ declared ∈ registry.entities, ∃ properties relationships,
    Resolved registry declared.unit properties relationships
  own : ∀ declared ∈ registry.entities, ∃ relationships,
    (resolveOwn registry declared.unit).outcome = .ok relationships

/-- The initial values of the properties that become columns of an entity can be read. -/
def Readable (registry : Registry) (entity : Entity) : Prop :=
  ∀ properties relationships, Resolved registry entity properties relationships →
    ReadsDefaults (scalarProperties (Identity.of entity) relationships properties)

variable {registry : Registry} {entity : Entity} {properties : List Property}
  {relationships : List Relationship}

theorem Resolved.readable (resolved : Resolved registry entity properties relationships)
    (read : ReadsDefaults (scalarProperties (Identity.of entity) relationships properties)) :
    Readable registry entity := by
  intro others links again
  obtain ⟨rfl, rfl⟩ := resolved.unique again
  exact read

/-- Where all entities resolve, an entity whose initial values can be read has a table. -/
theorem exists_table (resolves : AllResolve registry) (readable : Readable registry entity)
    (resolved : Resolved registry entity properties relationships) :
    ∃ table, (tableSchema registry entity).outcome = .ok table ∧
      Tabulates registry entity properties relationships table := by
  have ended := tableOutcome registry entity
  generalize (tableSchema registry entity).outcome = outcome at ended ⊢
  cases ended with
  | mixins failed => exact absurd (resolved.found.symm.trans failed) (by simp)
  | associations found failed =>
    cases resolved.found.symm.trans found
    exact absurd (resolved.linked.symm.trans failed) (by simp)
  | defaults again unread _ => exact absurd (readable _ _ again) unread
  | referrer _ _ member _ failed =>
    obtain ⟨own, success⟩ := resolves.own _ member
    exact absurd (success.symm.trans failed) (by simp)
  | made again _ _ parts =>
    obtain ⟨rfl, rfl⟩ := resolved.unique again
    exact ⟨_, rfl, parts⟩

theorem foreignKeys_relationOf (entity : String) (identity : Identity) {relationship : Relationship}
    (other : relationship.kind.isOwnerSide = false) :
    (relationOf entity identity relationship).name = relationship.name ∧
      ("foreign_keys", Literal.text
          ("[" ++ relationship.target ++ "." ++ relationship.foreignKey ++ "]")) ∈
        (relationOf entity identity relationship).options := by
  unfold relationOf
  cases kind : relationship.kind with
  | belongsTo => simp [kind, RelationshipKind.isOwnerSide] at other
  | references => simp [kind, RelationshipKind.isOwnerSide] at other
  | hasOne => simp [RelationshipKind.isOwnerSide]
  | hasMany => simp [RelationshipKind.isOwnerSide]

/-- The key that an own property of some entity expects is declared, unless the entity names one of
its own associations so. -/
theorem Tabulates.declares_of_own {table : TableSchema} {source : Declared Entity}
    {relationship : Relationship}
    (parts : Tabulates registry entity properties relationships table)
    (found : (effectiveProperties registry (.entity entity)).outcome = .ok properties)
    (declared : source ∈ registry.entities)
    (own : relationship ∈ associations registry source.unit source.unit.properties)
    (onto : isOnto entity.name relationship = true)
    (apart : relationship.foreignKey ∈ entity.properties.map Property.name →
      relationship.foreignKey ∉ relationships.map Relationship.name) :
    table.Declares relationship.foreignKey := by
  rw [parts.declares_iff]
  by_cases named : relationship.foreignKey ∈ entity.properties.map Property.name
  · left
    -- A mixin may replace the property of this name, but the name stays, so it becomes a column.
    obtain ⟨property, member, same⟩ := List.mem_map.mp named
    have kept : property.name ∈ properties.map Property.name :=
      own_name_mem_effectiveProperties found member
    rw [isField_iff]
    exact Or.inr (Or.inl ⟨same ▸ kept, apart named⟩)
  · right
    refine ⟨named, source, declared, ?_⟩
    exact List.mem_map.mpr ⟨relationship, List.mem_filter.mpr ⟨own, onto⟩, rfl⟩

/-- The columns of a module that has names only are the declared ones in their normal form. -/
theorem mem_columns_module_iff {table : TableSchema} (named : table.names.all isName = true)
    (normal : identifier table.entity = table.entity) :
    ∃ module, table.module = .ok module ∧ ∀ name,
      name ∈ module.columnsOf table.entity ++ module.columnsOf (table.entity ++ "Base") ↔
        ∃ declared, identifier declared = name ∧ table.Declares declared := by
  obtain ⟨module, success, base, identity⟩ := TableSchema.module_columns named normal
  refine ⟨module, success, fun name => ?_⟩
  rw [base, identity, List.mem_append, List.mem_singleton, List.mem_map]
  constructor
  · rintro (rfl | ⟨column, listed, rfl⟩)
    · exact ⟨_, rfl, Or.inl rfl⟩
    · exact ⟨_, rfl, Or.inr (List.mem_map_of_mem listed)⟩
  · rintro ⟨declared, rfl, rfl | listed⟩
    · exact Or.inl rfl
    · obtain ⟨column, member, rfl⟩ := List.mem_map.mp listed
      exact Or.inr ⟨column, member, rfl⟩

/-- Where all entities resolve, an entity that has many or one of another names a column of the
other's table. The module of the other declares it iff it is the normal form of a field of the other,
or of a key that an own property of some entity puts there and that no property of the other is named
after. So it is there for the entity's own properties if it is in normal form, unless the other names
one of its own associations so. -/
theorem declares_key_iff (resolves : AllResolve registry) {source target : Declared Entity}
    (mine : source ∈ registry.entities) (theirs : target ∈ registry.entities)
    (readable : Readable registry source.unit ∧ Readable registry target.unit)
    (named : Named registry target.unit) (normal : identifier target.unit.name = target.unit.name)
    (resolved : Resolved registry source.unit properties relationships)
    {relationship : Relationship} (member : relationship ∈ relationships)
    (kind : relationship.kind = .hasMany ∨ relationship.kind = .hasOne)
    (onto : relationship.target = target.unit.name) :
    ∃ others back naming table module, Resolved registry target.unit others back ∧
      (tableSchema registry source.unit).outcome = .ok naming ∧
      (tableSchema registry target.unit).outcome = .ok table ∧ table.module = .ok module ∧
      (∃ relation ∈ naming.relations, relation.name = relationship.name ∧
        ("foreign_keys", Literal.text
          ("[" ++ target.unit.name ++ "." ++ relationship.foreignKey ++ "]")) ∈ relation.options) ∧
      (relationship.foreignKey ∈ module.columnsOf target.unit.name ++
            module.columnsOf (target.unit.name ++ "Base") ↔
        ∃ declared, identifier declared = relationship.foreignKey ∧
          (IsField (Identity.of target.unit) others back declared ∨
            declared ∉ target.unit.properties.map Property.name ∧
            ∃ other ∈ registry.entities, declared ∈
              keysOn target.unit.name (associations registry other.unit other.unit.properties))) ∧
      (relationship ∈ associations registry source.unit source.unit.properties →
        identifier relationship.foreignKey = relationship.foreignKey →
        (relationship.foreignKey ∈ target.unit.properties.map Property.name →
          relationship.foreignKey ∉ back.map Relationship.name) →
        relationship.foreignKey ∈ module.columnsOf target.unit.name ++
          module.columnsOf (target.unit.name ++ "Base")) := by
  have other : relationship.kind.isOwnerSide = false := by
    rcases kind with many | one
    · rw [many]; rfl
    · rw [one]; rfl
  obtain ⟨others, back, targeted⟩ := resolves.whole target theirs
  obtain ⟨naming, made, own⟩ := exists_table resolves readable.1 resolved
  obtain ⟨table, tabulated, parts⟩ := exists_table resolves readable.2 targeted
  obtain ⟨module, success, columns⟩ :=
    mem_columns_module_iff (named table tabulated) (by rw [parts.named]; exact normal)
  rw [parts.named] at columns
  refine ⟨others, back, naming, table, module, targeted, made, tabulated, success, ?_, ?_, ?_⟩
  · have names := foreignKeys_relationOf source.unit.name (Identity.of source.unit) other
    rw [onto] at names
    exact ⟨_, own.relations ▸ List.mem_map_of_mem member, names⟩
  · rw [columns]
    exact exists_congr fun declared => and_congr_right fun _ => parts.declares_iff
  · intro listed spelled apart
    have declared := parts.declares_of_own targeted.found mine listed
      (by simp [isOnto, other, onto]) apart
    exact (columns _).mpr ⟨_, spelled, declared⟩

def line : Entity :=
  { offset := 0, name := "Line", properties := [plain "text" ⟨"string", false⟩] }

/-- An entity with many lines. -/
def invoice : Entity :=
  { offset := 0, name := "Invoice"
    properties := [plain "lines" ⟨"Line", true⟩, plain "total" ⟨"number", false⟩] }

def invoices : Registry where
  units := Registry.declare none false 0 (stored ++ [.entity invoice, .entity line])
  distinct := by decide

private theorem allResolve_of_two {registry : Registry} {first second : Declared Entity}
    (listed : registry.entities = [first, second])
    (whole : (∃ properties relationships, Resolved registry first.unit properties relationships) ∧
      ∃ properties relationships, Resolved registry second.unit properties relationships)
    (own : (∃ relationships, (resolveOwn registry first.unit).outcome = .ok relationships) ∧
      ∃ relationships, (resolveOwn registry second.unit).outcome = .ok relationships) :
    AllResolve registry :=
  ⟨by simpa [listed] using whole, by simpa [listed] using own⟩

theorem declares_key_iff_invoices : ∃ naming table module,
    (tableSchema invoices invoice).outcome = .ok naming ∧
    (tableSchema invoices line).outcome = .ok table ∧ table.module = .ok module ∧
    (∃ relation ∈ naming.relations, relation.name = "lines" ∧
      ("foreign_keys", Literal.text "[Line.invoiceId]") ∈ relation.options) ∧
    "invoiceId" ∈ module.columnsOf "Line" ++ module.columnsOf "LineBase" := by
  have resolves : AllResolve invoices :=
    allResolve_of_two rfl ⟨⟨_, _, rfl, rfl⟩, ⟨_, _, rfl, rfl⟩⟩ ⟨⟨_, rfl⟩, ⟨_, rfl⟩⟩
  have declared : ⟨invoice, false, none, 2⟩ ∈ invoices.entities := List.mem_cons_self
  have targeted : ⟨line, false, none, 3⟩ ∈ invoices.entities :=
    List.mem_cons_of_mem _ List.mem_cons_self
  have readable : Readable invoices invoice ∧ Readable invoices line :=
    ⟨Resolved.readable ⟨rfl, rfl⟩ (List.forall_mem_cons.mpr ⟨⟨_, rfl⟩, List.forall_mem_nil _⟩),
      Resolved.readable ⟨rfl, rfl⟩ (List.forall_mem_cons.mpr ⟨⟨_, rfl⟩, List.forall_mem_nil _⟩)⟩
  have named : Named invoices line := by
    intro table made
    cases made
    decide
  obtain ⟨_, _, naming, table, module, _, made, tabulated, success, names, _, own⟩ :=
    declares_key_iff resolves declared targeted readable named (by decide) ⟨rfl, rfl⟩
      List.mem_cons_self (Or.inl rfl) rfl
  have unnamed : "invoiceId" ∉ line.properties.map Property.name := by decide
  exact ⟨naming, table, module, made, tabulated, success, names,
    own List.mem_cons_self (by decide) fun named => absurd named unnamed⟩

/-- The lines of an entity as a mixin. -/
def itemized : Mixin :=
  { offset := 0, name := "Itemized", properties := [plain "lines" ⟨"Line", true⟩] }

/-- An entity that has its lines from the mixin. -/
def receipt : Entity :=
  { offset := 0, name := "Receipt", mixins := ["Itemized"]
    properties := [plain "total" ⟨"number", false⟩] }

def receipts : Registry where
  units := Registry.declare none false 0
    (stored ++ [.mixin itemized, .entity receipt, .entity line])
  distinct := by decide

/-- All entities resolve, are stored and belong to the main design. One has many lines by a mixin
and names a column of theirs, but the module of their table does not declare it. -/
theorem mixin_key_undeclared_receipts :
    AllResolve receipts ∧
    (∀ declared ∈ receipts.entities, declared.isLibrary = false ∧
      ∃ source, receipts.dataSourceFor declared.unit = .ok (some source)) ∧
    ∃ properties relationships relationship naming table module,
      Resolved receipts receipt properties relationships ∧ relationship ∈ relationships ∧
      relationship.kind = .hasMany ∧ relationship.target = line.name ∧
      (tableSchema receipts receipt).outcome = .ok naming ∧
      (∃ relation ∈ naming.relations,
        ("foreign_keys", Literal.text "[Line.receiptId]") ∈ relation.options) ∧
      relationship.foreignKey = "receiptId" ∧
      (tableSchema receipts line).outcome = .ok table ∧ table.module = .ok module ∧
      "receiptId" ∉ module.columnsOf "Line" ++ module.columnsOf "LineBase" := by
  have resolves : AllResolve receipts :=
    allResolve_of_two rfl ⟨⟨_, _, rfl, rfl⟩, ⟨_, _, rfl, rfl⟩⟩ ⟨⟨_, rfl⟩, ⟨_, rfl⟩⟩
  obtain ⟨table, tabulated⟩ : ∃ table, (tableSchema receipts line).outcome = .ok table := ⟨_, rfl⟩
  obtain ⟨module, success, columns⟩ : ∃ module, table.module = .ok module ∧ ∀ name,
      name ∈ module.columnsOf "Line" ++ module.columnsOf "LineBase" ↔
        ∃ declared, identifier declared = name ∧ table.Declares declared := by
    cases tabulated
    exact mem_columns_module_iff (by decide) (by decide)
  refine ⟨resolves, ?_, _, _, _, _, table, module, ⟨rfl, rfl⟩, List.mem_cons_self, rfl, rfl, rfl,
    ⟨_, List.mem_cons_self, List.mem_cons_self⟩, rfl, tabulated, success, ?_⟩
  · have listed : receipts.entities = [⟨receipt, false, none, 3⟩, ⟨line, false, none, 4⟩] := rfl
    rw [listed, List.forall_mem_cons, List.forall_mem_singleton]
    exact ⟨⟨rfl, _, rfl⟩, ⟨rfl, _, rfl⟩⟩
  · rw [columns]
    rintro ⟨declared, spelled, rfl | listed⟩
    · cases tabulated
      exact absurd spelled (by decide)
    · cases tabulated
      obtain rfl := List.mem_singleton.mp listed
      exact absurd spelled (by decide)

end Blueprint.Server
