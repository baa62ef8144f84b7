import Blueprint.Client.BusinessObject

namespace Blueprint.Client

open Design ClientCode Generation

/-- The module of the base classes. -/
def formBaseModule : String := "./persisted-form-group"

/-- The module of an entity's forms. -/
def formModule (entity : String) : String := kebabCase entity ++ "-form-group"

/-- A control of a form. -/
structure Control where
  name : String
  type : String
  required : Bool := false
  deriving DecidableEq, Repr

/-- The expression that makes a control. -/
def Control.initial (control : Control) : String :=
  "new FormControl<" ++ control.type ++ " | null>(null" ++
    (if control.required then ", [Validators.required]" else "") ++ ")"

/-- The class of the form of an association. -/
def relationClass (relationship : Relationship) : String :=
  relationship.target ++ (if relationship.kind == .hasMany then "FormArray" else "FormGroup")

/-- The type of the control of a property. -/
def controlType (property : Design.Property) : String :=
  if isScalar property.type.name then typeOf property.type else "any"

/-- The controls of properties; those that are declared or skipped are left out. -/
def propertyControls (skipped declared : List String) : List Design.Property → List Control
  | [] => []
  | property :: rest =>
    if declared.contains property.name || skipped.contains property.name then
      propertyControls skipped declared rest
    else
      ⟨property.name, controlType property,
        property.options.required.getD false && !property.optional⟩ ::
        propertyControls skipped (property.name :: declared) rest

/-- The controls of the entity's own foreign keys; those that are declared are left out. -/
def keyControls (declared : List String) : List Relationship → List Control
  | [] => []
  | relationship :: rest =>
    let key := relationship.foreignKey
    if !relationship.kind.isOwnerSide || declared.contains key then keyControls declared rest
    else ⟨key, relationship.foreignKeyType.name, false⟩ :: keyControls (key :: declared) rest

/-- The controls of an entity's form: the identity, scalar properties and own foreign keys. -/
def controlsOf (identity : Identity) (properties : List Design.Property)
    (relationships : List Relationship) : List Control :=
  let skipped := relationships.map Relationship.name ++
    (relationships.filter (·.kind.isOwnerSide)).map Relationship.foreignKey
  let first : Control := ⟨identity.name, identity.type.name, false⟩
  let scalars := propertyControls skipped [identity.name] properties
  first :: scalars ++ keyControls (identity.name :: scalars.map Control.name) relationships

/-- The controls and the associations of an entity's form. -/
def formControls (registry : Registry) (entity : Entity) :
    Step (List Control × List Relationship) := do
  let identity ← Identity.resolve entity
  let properties ← effectiveProperties registry (.entity entity)
  let relationships ← Relationship.resolve registry entity properties
  return (controlsOf identity properties relationships, relationships)

/-- A class with a constructor that takes options. -/
def formClass (name base options : String) (fields : List Member) (body : List String) :
    ClassDecl :=
  { name, base := some base
    members := fields ++ [.method { name := "constructor", params := ["options?: " ++ options]
                                    body := Text.unlines body }] }

/-- The group for one record. -/
def groupClass (entity idField : String) (controls : List Control)
    (relationships : List Relationship) : ClassDecl :=
  let declared := (controls.map fun control => "  " ++ control.name ++ ": FormControl;") ++
    relationships.map fun relationship =>
      "  " ++ relationship.name ++ "?: " ++ relationClass relationship ++ ";"
  let makers := controls.map fun control => (control.name, control.initial)
  let factories := relationships.map fun relationship =>
    (relationship.name, "() => new " ++ relationClass relationship ++ "()")
  formClass (entity ++ "FormGroup") "PersistedFormGroup" "PersistedFormGroupOptions"
    [.property { name := "controls", type := some (Text.unlines ("\x7b" :: declared ++ ["\x7d"]))
                 modifiers := ["declare"] },
      .property { name := "value", type := some ("Partial<" ++ entity ++ ">")
                  modifiers := ["declare"] }]
    ["super(",
      "  " ++ objectText 1 makers ++ ",",
      "  " ++ entity ++ ",",
      "  " ++ objectText 1 factories ++ ",",
      "  options,",
      "  " ++ idField ++ ",",
      ");"]

/-- The array of records that can be edited. -/
def formArrayClass (entity idField : String) : ClassDecl :=
  formClass (entity ++ "FormArray") ("PersistedFormArray<" ++ entity ++ "FormGroup>")
    "PersistedFormArrayOptions" []
    ["super(() => new " ++ entity ++ "FormGroup(), " ++ entity ++ ", options, " ++ idField ++ ");"]

/-- The array of records that are only shown. -/
def persistedArrayClass (entity idField : String) : ClassDecl :=
  formClass (entity ++ "PersistedArray") ("PersistedArray<" ++ entity ++ ">")
    "PersistedArrayOptions" [] ["super(" ++ entity ++ ", options, " ++ idField ++ ");"]

/-- The source file of an entity's forms. -/
def formSource (entity : String) (identity : Identity) (controls : List Control)
    (relationships : List Relationship) : Source :=
  let idField := quoted identity.name
  let validators := if controls.any (·.required) then ["Validators"] else []
  let start := Source.addImport { name := entity ++ "FormGroup" } "@angular/forms"
    ("FormControl" :: validators)
  let based := start.addImport formBaseModule
    ["PersistedArray", "PersistedArrayOptions", "PersistedFormArray", "PersistedFormArrayOptions",
      "PersistedFormGroup", "PersistedFormGroupOptions"]
  let own := based.addImport ("./" ++ kebabCase entity) [entity]
  let sorted := relationships.mergeSort fun a b => decide (a.target ≤ b.target)
  let imported := (sorted.filter (·.target != entity)).foldl
    (fun source relationship =>
      source.addImport ("./" ++ formModule relationship.target) [relationClass relationship]) own
  { imported with classes := [groupClass entity idField controls relationships,
      formArrayClass entity idField, persistedArrayClass entity idField] }

def formGroupPath (name : String) : String :=
  businessObjectsDirectory ++ "/" ++ formModule name ++ ".ts"

/-- The file of an entity's forms. -/
def generateFormGroup (declared : Declared Entity) (registry : Registry) : Step Produced := do
  let entity := declared.unit
  let identity ← Identity.resolve entity
  let (controls, relationships) ← formControls registry entity
  Step.debug (toString controls.length ++ " control(s), " ++ toString relationships.length ++
    " nested relation(s)")
  return .text (formSource entity.name identity controls relationships).render

def formGroupGenerator : Generator where
  name := "business-object-form-group"
  target := "client"
  triggers := [⟨.entity, notLibrary⟩]
  outputs := byName fun name => [formGroupPath name]
  generate := onUnit Unit.entity? generateFormGroup

end Blueprint.Client
