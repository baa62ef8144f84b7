import Blueprint.Client.Application
import Blueprint.Client.FormGroup
import Blueprint.Generation.Engine
import Blueprint.Server.Package
import Blueprint.Server.Schema
import Blueprint.Server.Startup

namespace Blueprint

open Generation

/-- The generators of the server. -/
def serverGenerators : List Generator :=
  [Server.schemaGenerator, Server.businessObjectGenerator, Server.routeGenerator,
    Server.dataSourceGenerator, Server.appBehaviorGenerator, Server.routesIndexGenerator,
    Server.startupGenerator, Server.scaffoldGenerator, Server.packageGenerator]

/-- The generators of the client. -/
def clientGenerators : List Generator :=
  [Client.businessObjectBaseGenerator, Client.businessObjectGenerator, Client.formBaseGenerator,
    Client.formGroupGenerator, Client.componentGenerator, Client.pageGenerator,
    Client.pagesIndexGenerator, Client.routesGenerator, Client.configGenerator,
    Client.stylesGenerator, Client.packageGenerator]

/-- All generators in the order in which they run. -/
def allGenerators : List Generator := serverGenerators ++ clientGenerators

end Blueprint
