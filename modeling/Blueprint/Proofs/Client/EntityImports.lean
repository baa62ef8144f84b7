import Blueprint.Proofs.Client.Fields
import Blueprint.Proofs.ClientCode.Importing

namespace Blueprint.Client

open Design ClientCode Generation Relationship Server

/-- A type is an entity, or an array of it. -/
def Refers (type entity : String) : Prop := type = entity ∨ type = entity ++ "[]"

/-- The types that a stub mentions: that of its result, and those of its parameters. -/
def Stub.types (stub : Stub) : List String :=
  stub.returns :: stub.params.map fun param => (param.type.map typeOf).getD "any"

/-- The types that a business object mentions: those of its fields and those of its stubs. -/
def mentioned (members : List DataMember) (stubs : List Stub) : List String :=
  members.map DataMember.type ++ stubs.flatMap Stub.types

/-- The client types of the scalars. -/
def scalarTypes : List String := Scalar.table.map (·.2.clientType)

/-- The name stands for no array. -/
def IsBare (name : String) : Prop := '[' ∉ name.toList

instance (name : String) : Decidable (IsBare name) := inferInstanceAs (Decidable (_ ∉ _))

section Types

variable {type name : String}

private theorem not_isBare_append (type : String) : ¬ IsBare (type ++ "[]") := by
  simp [IsBare]

theorem refers_iff_of_bare (bare : IsBare type) : Refers type name ↔ type = name := by
  constructor
  · rintro (same | array)
    · exact same
    · exact absurd (array ▸ bare) (not_isBare_append name)
  · exact Or.inl

private theorem refers_array_iff_of_bare (bare : IsBare name) :
    Refers (type ++ "[]") name ↔ type = name := by
  constructor
  · rintro (same | array)
    · exact absurd (same ▸ bare) (not_isBare_append type)
    · exact String.append_left_inj _ |>.mp array
  · rintro rfl
    exact Or.inr rfl

private theorem mem_scalarTypes (scalar : Scalar) : scalar.clientType ∈ scalarTypes := by
  cases scalar <;> decide

private theorem isBare_of_mem_scalarTypes (member : type ∈ scalarTypes) : IsBare type := by
  have all : ∀ type ∈ scalarTypes, IsBare type := by decide
  exact all type member

private theorem identityType_mem_scalarTypes (type : IdentityType) : type.name ∈ scalarTypes := by
  cases type <;> decide

theorem clientType_item (type : String) :
    clientType type false ∈ scalarTypes ∨ clientType type false = type := by
  simp only [clientType]
  cases Scalar.ofName? type with
  | some scalar => exact Or.inl (mem_scalarTypes scalar)
  | none =>
    by_cases empty : type.isEmpty
    · left
      rw [if_neg Bool.false_ne_true, if_pos empty]
      exact mem_scalarTypes .any
    · right
      rw [if_neg Bool.false_ne_true, if_neg empty]

theorem eq_of_refers_clientType {array : Bool} (bareType : IsBare type) (bare : IsBare name)
    (unlike : name ∉ scalarTypes) (refers : Refers (clientType type array) name) : type = name := by
  have item : clientType type false = name := by
    cases array with
    | true => exact (refers_array_iff_of_bare bare).mp refers
    | false =>
      have bareItem : IsBare (clientType type false) := by
        rcases clientType_item type with scalar | same
        · exact isBare_of_mem_scalarTypes scalar
        · exact same.symm ▸ bareType
      exact (refers_iff_of_bare bareItem).mp refers
  rcases clientType_item type with scalar | same
  · exact absurd (item ▸ scalar) unlike
  · exact same.symm.trans item

end Types

section Members

variable {relationships : List Relationship} {properties : List Design.Property}
  {member : DataMember} {declared : List String}

theorem type_of_mem_propertyMembers {related : List String}
    (listed : member ∈ propertyMembers related declared properties) :
    ∃ property ∈ properties, member.type = typeOf property.type := by
  induction properties generalizing declared with
  | nil => cases listed
  | cons property properties ih =>
    rw [propertyMembers] at listed
    split at listed
    · obtain ⟨other, later, found⟩ := ih listed
      exact ⟨other, List.mem_cons_of_mem _ later, found⟩
    · rcases List.mem_cons.mp listed with rfl | later
      · exact ⟨property, List.mem_cons_self, rfl⟩
      · obtain ⟨other, later, found⟩ := ih later
        exact ⟨other, List.mem_cons_of_mem _ later, found⟩

/-- A member for an association is a key, or it has the type of the target or an array of it. -/
theorem type_of_mem_relationshipMembers
    (listed : member ∈ relationshipMembers declared relationships) :
    (∃ type : IdentityType, member.type = type.name) ∨ ∃ relationship ∈ relationships,
      member.type = relationship.target ∨ member.type = relationship.target ++ "[]" := by
  induction relationships generalizing declared with
  | nil => cases listed
  | cons relationship relationships ih =>
    rw [relationshipMembers] at listed
    rcases List.mem_append.mp listed with key | rest
    · left
      split at key
      · rw [List.mem_singleton.mp key]
        exact ⟨relationship.foreignKeyType, rfl⟩
      · cases key
    · rcases List.mem_cons.mp rest with rfl | later
      · right
        refine ⟨relationship, List.mem_cons_self, ?_⟩
        simp only
        split
        · exact Or.inr rfl
        · exact Or.inl (String.append_empty)
      · rcases ih later with key | ⟨other, listed, typed⟩
        · exact Or.inl key
        · exact Or.inr ⟨other, List.mem_cons_of_mem _ listed, typed⟩

theorem type_of_mem_dataMembers {identity : Identity}
    (listed : member ∈ dataMembers identity properties relationships) :
    (∃ type : IdentityType, member.type = type.name) ∨
      (∃ property ∈ properties, member.type = typeOf property.type) ∨
      ∃ relationship ∈ relationships,
        member.type = relationship.target ∨ member.type = relationship.target ++ "[]" := by
  simp only [dataMembers] at listed
  rcases List.mem_append.mp listed with front | linked
  · rcases List.mem_cons.mp front with rfl | scalar
    · exact Or.inl ⟨identity.type, rfl⟩
    · exact Or.inr (Or.inl (type_of_mem_propertyMembers scalar))
  · rcases type_of_mem_relationshipMembers linked with key | target
    · exact Or.inl key
    · exact Or.inr (Or.inr target)

end Members

/-- A file imports an entity from the module of its business object. -/
def ImportsEntity (source : Source) (entity : String) : Prop :=
  source.ImportsFrom ("./" ++ kebabCase entity) entity

/-- Another entity of the registry, one that has a name. -/
structure IsOther (registry : Registry) (entity : Entity) (name : String) : Prop where
  declared : ∃ found, registry.findEntity? name = some found
  apart : name ≠ entity.name
  named : name ≠ ""

theorem imports_businessObjectSource (entity : String) (identity : Identity)
    (members : List DataMember) (relationships : List Relationship) (stubs : List Stub) :
    (businessObjectSource entity identity members relationships stubs).imports =
      ((relationships.filter (·.target != entity)).foldl
        (fun source relationship =>
          source.addImport ("./" ++ kebabCase relationship.target) [relationship.target])
        (Source.addImport { name := entity } "./base"
          ["BusinessObjectBase", "QueryFilter"])).imports := by
  simp only [businessObjectSource, Source.imports_addStatement]

/-- A business object imports its base, and the targets of associations other than itself. -/
theorem importsFrom_businessObjectSource {entity module name : String} {identity : Identity}
    {members : List DataMember} {relationships : List Relationship} {stubs : List Stub} :
    (businessObjectSource entity identity members relationships stubs).ImportsFrom module name ↔
      module = "./base" ∧ name ∈ ["BusinessObjectBase", "QueryFilter"] ∨
        ∃ relationship ∈ relationships, relationship.target ≠ entity ∧
          module = "./" ++ kebabCase relationship.target ∧ name = relationship.target ∧
          name ≠ "" := by
  have empty : ¬ Source.ImportsFrom { name := entity } module name := by
    simp [Source.ImportsFrom]
  have base : name ∈ ["BusinessObjectBase", "QueryFilter"] → name ≠ "" := by
    rintro listed rfl
    revert listed
    decide
  rw [Source.ImportsFrom, imports_businessObjectSource, ← Source.ImportsFrom,
    Source.importsFrom_foldl (fun relationship => "./" ++ kebabCase relationship.target)
      Relationship.target, Source.importsFrom_addImport, or_iff_right empty]
  simp only [List.mem_filter, bne_iff_ne, ne_eq, and_assoc]
  rw [and_iff_left_of_imp base]

section Business

variable {registry : Registry} {entity : Entity} {properties : List Design.Property}
  {relationships : List Relationship} {members : List DataMember} {stubs : List Stub}
  {name : String}

theorem exists_target_iff (resolved : Resolved registry entity properties relationships)
    (declared : ∃ found, registry.findEntity? name = some found) :
    (∃ relationship ∈ relationships, relationship.target = name) ↔
      ∃ property ∈ properties, property.type.name = name := by
  rw [resolve_eq_ok resolved.linked]
  constructor
  · rintro ⟨relationship, listed, rfl⟩
    obtain ⟨property, member, made⟩ := List.mem_filterMap.mp listed
    exact ⟨property, member, (target_of_association? made).symm⟩
  · rintro ⟨property, member, rfl⟩
    obtain ⟨found, success⟩ := declared
    have made : association? registry entity property =
        some (ofProperty entity property found.unit).2 := by
      rw [association?, success, Option.map_some]
    exact ⟨_, List.mem_filterMap.mpr ⟨property, member, made⟩, target_of_association? made⟩

theorem importsEntity_iff (resolved : Resolved registry entity properties relationships)
    (other : IsOther registry entity name) :
    ImportsEntity (businessObjectSource entity.name (Identity.of entity) members relationships
        stubs) name ↔ ∃ property ∈ properties, property.type.name = name := by
  rw [← exists_target_iff resolved other.declared, ImportsEntity, importsFrom_businessObjectSource]
  constructor
  · rintro (⟨base, reserved⟩ | ⟨relationship, listed, _, _, rfl, _⟩)
    · have apart : ∀ name ∈ ["BusinessObjectBase", "QueryFilter"],
          "./" ++ kebabCase name ≠ "./base" := by decide
      exact absurd base (apart name reserved)
    · exact ⟨relationship, listed, rfl⟩
  · rintro ⟨relationship, listed, rfl⟩
    exact Or.inr ⟨relationship, listed, other.apart, rfl, rfl, other.named⟩

/-- Another entity that the data interface mentions is the type of a property, unless it is called
like a scalar. -/
theorem exists_property_of_refers (resolved : Resolved registry entity properties relationships)
    (other : IsOther registry entity name) (bare : IsBare name) (unlike : name ∉ scalarTypes)
    (bareTypes : ∀ property ∈ properties, IsBare property.type.name) {member : DataMember}
    (listed : member ∈ dataMembers (Identity.of entity) properties relationships)
    (refers : Refers member.type name) : ∃ property ∈ properties, property.type.name = name := by
  rcases type_of_mem_dataMembers listed with ⟨type, key⟩ | ⟨property, mine, typed⟩ |
    ⟨relationship, linked, typed⟩
  · have scalar := identityType_mem_scalarTypes type
    rw [key, refers_iff_of_bare (isBare_of_mem_scalarTypes scalar)] at refers
    exact absurd (refers ▸ scalar) unlike
  · rw [typed] at refers
    exact ⟨property, mine, eq_of_refers_clientType (bareTypes property mine) bare unlike refers⟩
  · rw [← exists_target_iff resolved other.declared]
    have known := findEntity?_target (resolve_eq_ok resolved.linked ▸ linked)
    obtain ⟨property, mine, same⟩ :=
      (exists_target_iff resolved known).mp ⟨relationship, linked, rfl⟩
    have bareTarget : IsBare relationship.target := same ▸ bareTypes property mine
    refine ⟨relationship, linked, ?_⟩
    rcases typed with one | many
    · exact (refers_iff_of_bare bareTarget).mp (one ▸ refers)
    · exact (refers_array_iff_of_bare bare).mp (many ▸ refers)

/-- The stubs of behaviors. -/
def stubsOf (behaviors : List ActiveBehavior) : List Stub :=
  (behaviors.filter (·.type.isMethod)).map Stub.of

/-- The business object that is generated for an entity is made from its properties, its associations
and its behaviors. -/
theorem exists_source_of_generateBusinessObject {declared : Declared Entity} {client : Produced}
    (success : (generateBusinessObject declared registry).outcome = .ok client) :
    ∃ properties relationships behaviors,
      Resolved registry declared.unit properties relationships ∧
      (ActiveBehavior.ofEntity registry declared.unit).outcome = .ok behaviors ∧
      client = .text (businessObjectSource declared.unit.name (Identity.of declared.unit)
        (dataMembers (Identity.of declared.unit) properties relationships) relationships
        (stubsOf behaviors)).render := by
  simp only [generateBusinessObject, Step.outcome_bind, Identity.resolve_outcome, ok_bind] at success
  obtain ⟨properties, found, linking⟩ := bind_eq_ok_iff.mp success
  obtain ⟨relationships, linked, attaching⟩ := bind_eq_ok_iff.mp linking
  obtain ⟨behaviors, attached, given⟩ := bind_eq_ok_iff.mp attaching
  exact ⟨properties, relationships, behaviors, ⟨found, linked⟩, attached,
    (Except.ok.inj given).symm⟩

/-- The business object of an entity imports another entity exactly if one of the entity's properties
has its type. So an entity that is not called like a scalar is imported wherever it is mentioned
exactly if it is the type of a property or no stub mentions it. -/
theorem imports_mentioned_iff {declared : Declared Entity} {client : Produced}
    (success : (generateBusinessObject declared registry).outcome = .ok client) :
    ∃ properties relationships behaviors members stubs source,
      Resolved registry declared.unit properties relationships ∧
      (ActiveBehavior.ofEntity registry declared.unit).outcome = .ok behaviors ∧
      members = dataMembers (Identity.of declared.unit) properties relationships ∧
      stubs = stubsOf behaviors ∧
      source = businessObjectSource declared.unit.name (Identity.of declared.unit) members
        relationships stubs ∧
      client = .text source.render ∧
      ∀ name, IsOther registry declared.unit name →
        (ImportsEntity source name ↔ ∃ property ∈ properties, property.type.name = name) ∧
        (IsBare name → name ∉ scalarTypes →
          (∀ property ∈ properties, IsBare property.type.name) →
          ((∀ type ∈ mentioned members stubs, Refers type name → ImportsEntity source name) ↔
            ((∃ stub ∈ stubs, ∃ type ∈ stub.types, Refers type name) →
              ∃ property ∈ properties, property.type.name = name))) := by
  obtain ⟨properties, relationships, behaviors, resolved, attached, given⟩ :=
    exists_source_of_generateBusinessObject success
  refine ⟨properties, relationships, behaviors, _, _, _, resolved, attached, rfl, rfl, rfl, given,
    fun name other => ⟨importsEntity_iff resolved other, fun bare unlike bareTypes => ?_⟩⟩
  rw [importsEntity_iff resolved other]
  constructor
  · rintro all ⟨stub, listed, type, member, refers⟩
    exact all type (List.mem_append_right _ (List.mem_flatMap.mpr ⟨stub, listed, member⟩)) refers
  · intro typed type listed refers
    rcases List.mem_append.mp listed with field | call
    · obtain ⟨member, shown, rfl⟩ := List.mem_map.mp field
      exact exists_property_of_refers resolved other bare unlike bareTypes shown refers
    · obtain ⟨stub, among, written⟩ := List.mem_flatMap.mp call
      exact typed ⟨stub, among, type, written, refers⟩

end Business

/-- An entity whose records belong to a customer. -/
def parcel : Entity :=
  { offset := 0, name := "Parcel", properties := [plain "sender" ⟨"Customer", false⟩] }

/-- A parcel is forwarded to a customer by a courier. -/
def forward : Function where
  name := "forward"
  async := true
  params := [⟨"parcel", false, none⟩, ⟨"recipient", false, some ⟨"Customer", false⟩⟩,
    ⟨"couriers", true, some ⟨"Courier", true⟩⟩]
  returns := some ⟨"boolean", false⟩
  body := "return True"

def parcels : Registry where
  units := Registry.declare none false 0
    (stored ++ [.entity { offset := 0, name := "Customer" }, .entity { offset := 0, name := "Courier" },
      .entity parcel,
      .behavior
        { offset := 0, name := "forward", owner := "Parcel", type := some "Instance"
          function := some forward }])
  distinct := by decide

theorem imports_mentioned_iff_parcels : ∃ client source,
    (generateBusinessObject ⟨parcel, false, none, 4⟩ parcels).outcome = .ok client ∧
    client = .text source.render ∧ ImportsEntity source "Customer" := by
  obtain ⟨client, success⟩ : ∃ client,
      (generateBusinessObject ⟨parcel, false, none, 4⟩ parcels).outcome = .ok client := ⟨_, rfl⟩
  obtain ⟨properties, _, _, _, _, source, resolved, _, _, _, _, given, exactly⟩ :=
    imports_mentioned_iff success
  have other : IsOther parcels parcel "Customer" := ⟨⟨_, rfl⟩, by decide, by decide⟩
  have own : properties = parcel.properties := (Except.ok.inj resolved.found).symm
  refine ⟨client, source, success, given, (exactly "Customer" other).1.mpr ?_⟩
  exact ⟨plain "sender" ⟨"Customer", false⟩, own ▸ List.mem_cons_self, rfl⟩

/-- A stub mentions another entity of the registry, an array of which it takes, and the business
object that is generated does not import it from any module. -/
theorem stub_type_not_imported_parcels :
    IsOther parcels parcel "Courier" ∧ IsBare "Courier" ∧ "Courier" ∉ scalarTypes ∧
    ∃ behaviors relationships,
      (ActiveBehavior.ofEntity parcels parcel).outcome = .ok behaviors ∧
      (∃ stub ∈ stubsOf behaviors, ∃ type ∈ stub.types, Refers type "Courier") ∧
      (generateBusinessObject ⟨parcel, false, none, 4⟩ parcels).outcome =
        .ok (.text (businessObjectSource "Parcel" (Identity.of parcel)
          (dataMembers (Identity.of parcel) parcel.properties relationships) relationships
          (stubsOf behaviors)).render) ∧
      ∀ module, ¬ (businessObjectSource "Parcel" (Identity.of parcel)
        (dataMembers (Identity.of parcel) parcel.properties relationships) relationships
        (stubsOf behaviors)).ImportsFrom module "Courier" := by
  refine ⟨⟨⟨_, rfl⟩, by decide, by decide⟩, by decide, by decide, _, _, rfl, ?_, rfl, ?_⟩
  · exact ⟨_, List.mem_cons_self, "Courier[]", by decide, Or.inr rfl⟩
  · intro module imported
    rcases importsFrom_businessObjectSource.mp imported with ⟨_, reserved⟩ | ⟨other, linked, _, _, same, _⟩
    · revert reserved
      decide
    · rw [List.mem_singleton.mp linked] at same
      revert same
      decide

end Blueprint.Client
