import Blueprint.Generation.Generator
import Blueprint.Resolve.Relationship
import Blueprint.Server.Behavior
import Blueprint.ServerCode.Literal

namespace Blueprint.Server

open Design ServerCode Generation

/-- The ways to keep records. -/
def persistenceTypes : List String := ["Memory", "Sql", "Sqlite", "Postgres", "MySql"]

/-- The address of a data source that gives none, by the way it keeps records. -/
def defaultUrl (persistenceType database : String) : String :=
  match persistenceType with
  | "Sql" | "Sqlite" => "sqlite:///" ++ database ++ ".db"
  | "Postgres" => "postgresql://localhost/" ++ database
  | "MySql" => "mysql+pymysql://localhost/" ++ database
  | _ => ""

/-- A data source gets a module unless it comes from a library and only libraries use it. -/
def usedByServer (source : Declared DataSource) (registry : Registry) : Bool :=
  !source.isLibrary || (registry.entitiesFor source.unit.name).any (!·.isLibrary)

/-- The data sources that get a module, whatever they say about how they keep records. -/
def usedDataSources (registry : Registry) : List (Declared DataSource) :=
  registry.dataSources.filter fun source => usedByServer source registry

/-- The entities of the main design that are stored in a data source. -/
def storedEntities (registry : Registry) (source : DataSource) : List Entity :=
  ((registry.entitiesFor source.name).filter (!·.isLibrary)).map (·.unit)

/-- The address of a data source. -/
def urlOf (source : DataSource) : String :=
  if source.url.isEmpty then defaultUrl source.persistenceType (snakeCase source.name)
  else source.url

/-- The settings of a data source as a dictionary. -/
def settingsLiteral (source : DataSource) : Literal :=
  .dict ((OrderedMap.ofList (source.settings.map fun setting => (setting.key, setting.value))).map
    fun setting => (.text setting.1, .ofJson setting.2))

/-- The lines of a data source's module, below its header. -/
def dataSourceLines (source : DataSource) (entities : List Entity) : List String :=
  let name := Text.quoted source.name
  let address :=
    "settings.DATA_SOURCE_URLS.get(" ++ name ++ ", " ++ Text.quoted (urlOf source) ++ ")"
  let entry (entity : Entity) (value : String) : String :=
    "        " ++ Text.quoted entity.name ++ ": " ++ value ++ ","
  ["\"\"\"" ++ source.name ++ " data source (" ++ source.persistenceType ++ ").\"\"\"",
    "",
    "from app.core.config import settings",
    "from app.core.persistence import create_data_source"] ++
  (entities.map fun entity =>
    "from app.schemas." ++ snakeCase entity.name ++ " import " ++ entity.name) ++
  ["",
    "data_source = create_data_source(",
    "    " ++ name ++ ",",
    "    " ++ Text.quoted source.persistenceType ++ ",",
    "    url=" ++ address ++ ",",
    "    models=\x7b"] ++
  (entities.map fun entity => entry entity entity.name) ++
  ["    \x7d,",
    "    id_fields=\x7b"] ++
  (entities.map fun entity => entry entity (Text.quoted (Identity.of entity).name)) ++
  ["    \x7d,",
    "    options=" ++ (settingsLiteral source).print ++ ",",
    ")",
    ""]

def dataSourcePath (name : String) : String := "server/app/data_sources/" ++ snakeCase name ++ ".py"

/-- The file of a data source. -/
def generateDataSource (declared : Declared DataSource) (registry : Registry) : Step Produced := do
  let source := declared.unit
  if source.persistenceType.isEmpty then
    Step.fail (.skipped ("data source " ++ source.name ++ " has no persistenceType"))
  if !persistenceTypes.contains source.persistenceType then
    Step.warning ("unknown persistenceType '" ++ source.persistenceType ++ "', expected one of " ++
      ", ".intercalate persistenceTypes)
  let entities := storedEntities registry source
  let _ ← entities.mapM Identity.resolve
  if entities.isEmpty then
    Step.warning ("no entity is stored in data source " ++ source.name)
  Step.debug (toString entities.length ++ " entity table(s)")
  return .text (generatedHeader ++ "\n" ++ Text.unlines (dataSourceLines source entities))

/-- Whether a unit is a data source that gets a module. -/
def isUsedDataSource (unit : Declared Design.Unit) (registry : Registry) : Except Failure Bool :=
  match unit.unit.dataSource? with
  | some source => .ok (usedByServer (unit.withUnit source) registry)
  | none => .ok false

def dataSourceGenerator : Generator where
  name := "data-source"
  target := "server"
  triggers := [⟨.dataSource, isUsedDataSource⟩]
  outputs := byName fun name => [dataSourcePath name]
  generate := onUnit Unit.dataSource? generateDataSource

end Blueprint.Server
