import Blueprint.Resolve.Behavior
import Blueprint.ServerCode.Module

namespace Blueprint.Server

open Design ServerCode

/-- The first line of generated code. -/
def generatedHeader : String := "# Generated by ddsl. Changes will be overwritten."

/-- The package from which authors import business objects. -/
def businessObjectsPackage : String := "business_objects"

/-- Parameters of a function; one that may be left out is none by default, and none that is required
follows it. -/
def behaviorParams (behavior : String) (entities : List String) :
    Bool → List Parameter → Except Failure (List Param)
  | _, [] => .ok []
  | seenOptional, param :: rest => do
    if seenOptional && !param.optional then
      throw (.requiredAfterOptional behavior param.name)
    let type := param.type.map fun type =>
      Expr.ofType (ServerType.ofName entities type.name type.array)
    let default := if param.optional then some Expr.nothing else none
    let others ← behaviorParams behavior entities (seenOptional || param.optional) rest
    return .mk (identifier param.name) type default :: others

/-- The result type of a behavior in code. -/
def returnsOf (behavior : ActiveBehavior) (entities : List String) : Option Expr :=
  behavior.returnType?.map fun type =>
    Expr.ofType (ServerType.ofName entities type.name type.array)

/-- The statements of an imports block. -/
def importStatements (imports : String) : Except Failure (List Statement) :=
  if Text.isBlankString imports then .ok [] else readBlock imports

/-- An import from the package of business objects. -/
def importsBusinessObjects : Statement → Bool
  | .importFrom (some module) _ _ => module == businessObjectsPackage
  | _ => false

/-- The names that a statement imports from the package of business objects. -/
def businessObjectNames : Statement → List String
  | .importFrom (some module) names _ =>
    if module == businessObjectsPackage then names.map Alias.name else []
  | _ => []

/-- The business objects that an imports block imports. -/
def importedBusinessObjects (imports : String) : Except Failure (List String) :=
  (importStatements imports).map (·.flatMap businessObjectNames)

/-- The statements of an imports block that do not import business objects. -/
def otherImports (imports : String) : Except Failure (List Statement) :=
  (importStatements imports).map (·.filter fun statement => !importsBusinessObjects statement)

/-- An imports block without its imports of business objects. -/
def serverImports (imports : String) : Except Failure String :=
  (otherImports imports).map fun statements => Text.unlines (statements.map Statement.text)

/-- The module of a business object. -/
def businessObjectModule (name : String) : String :=
  "app.business_objects." ++ identifier (snakeCase name)

/-- The text of an import of a business object. -/
def businessObjectImport (name : String) : String :=
  "from app.business_objects." ++ snakeCase name ++ " import " ++ name

/-- The import of a business object; its module and its name have to be names. -/
def importBusinessObject (name : String) : Except Failure Statement := do
  checkNames [snakeCase name, name]
  return .importing (businessObjectModule name) [identifier name]

/-- The business objects that a behavior uses, apart from its owner. -/
def usedBusinessObjects (behavior : ActiveBehavior) (owner : Option String) :
    Except Failure (List String) := do
  let imported ← importedBusinessObjects behavior.imports
  return (behavior.uses ++ imported).eraseDups.filter fun name => some name != owner

end Blueprint.Server
