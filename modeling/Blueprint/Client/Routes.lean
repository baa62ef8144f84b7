import Blueprint.Client.Page
import Blueprint.Text.Lines

namespace Blueprint.Client

open Design ClientCode Generation

/-- The generator runs for a project that is no library. -/
def mainProjectTrigger : Trigger := ⟨.project, notLibrary⟩

/-- Whether a page's route is listed ahead of another's: by more segments, then by its path. -/
def routesBefore (first second : Page) : Bool :=
  segmentCount second.path < segmentCount first.path ||
    (segmentCount first.path == segmentCount second.path && decide (first.path ≤ second.path))

/-- The pages that have a path, in the order of their routes. -/
def routedPages (registry : Registry) : List Page :=
  ((registry.pages.map (·.unit)).filter fun page => !page.path.isEmpty).mergeSort routesBefore

/-- A page is the one that a project names. -/
def isNamed (wanted : String) (page : Page) : Bool :=
  page.name == wanted || page.name == wanted ++ "Page" ||
    ViewName.pageClass page.name == ViewName.pageClass wanted

/-- The path of the page that the main project opens with; empty if there is none. -/
def defaultPath (registry : Registry) (pages : List Page) : String :=
  match registry.mainProject? with
  | none => ""
  | some project =>
    let wanted := project.unit.defaultPage
    if wanted.isEmpty then ""
    else ((pages.find? (isNamed wanted)).map (·.path)).getD ""

/-- The route of a page. -/
def pageRoute (page : Page) : String :=
  let stem := ViewName.pageStem page.name
  objectText 1 [
    ("path", quoted (normalizeRoutePath page.path)),
    ("loadComponent", "() => import('./pages/" ++ stem ++ "/" ++ stem ++ ".page').then((m) => m." ++
      ViewName.pageClass page.name ++ ")"),
    ("pathMatch", quoted "full")]

/-- The route from the empty path to another. -/
def redirect (path : String) : String :=
  objectText 1 [("path", quoted ""), ("redirectTo", quoted (normalizeRoutePath path)),
    ("pathMatch", quoted "full")]

/-- The routes of some pages, after the route to the first page. -/
def routeTexts (default : String) (pages : List Page) : List String :=
  (if default.isEmpty || default == "/" then [] else [redirect default]) ++ pages.map pageRoute

/-- The statement that lists routes. -/
def routesStatement (routes : List String) : String :=
  if routes.isEmpty then "export const routes: Routes = [];"
  else "export const routes: Routes = [\n" ++ ",\n".intercalate (routes.map ("  " ++ ·)) ++ "\n];"

/-- The file of the routes. -/
def generateRoutes (registry : Registry) : Step Produced := do
  let pages := routedPages registry
  let source := Source.addImport { name := "app.routes" } "@angular/router" ["Routes"]
  Step.debug (toString pages.length ++ " route(s)")
  return .text (source.addStatement
    (routesStatement (routeTexts (defaultPath registry pages) pages))).render

def routesGenerator : Generator where
  name := "client-routes"
  target := "client"
  isAggregate := true
  triggers := [⟨.page, always⟩, mainProjectTrigger]
  outputs := fun _ => .ok ["client/src/app/app.routes.ts"]
  generate := fun _ registry => generateRoutes registry

/-- The line of the index that gives a page on. -/
def pageExport (page : Page) : String :=
  let stem := ViewName.pageStem page.name
  "export \x7b " ++ ViewName.pageClass page.name ++ " \x7d from './" ++ stem ++ "/" ++ stem ++
    ".page';"

/-- The file of the index of pages. -/
def generatePagesIndex (registry : Registry) : Step Produced := do
  let pages := (registry.pages.map (·.unit)).mergeSort fun a b =>
    decide (ViewName.pageClass a.name ≤ ViewName.pageClass b.name)
  Step.debug (toString pages.length ++ " page(s)")
  return .text (
    if pages.isEmpty then "export \x7b\x7d;\n" else Text.unlines (pages.map pageExport) ++ "\n")

def pagesIndexGenerator : Generator where
  name := "pages-index"
  target := "client"
  isAggregate := true
  triggers := [⟨.page, always⟩]
  outputs := fun _ => .ok ["client/src/app/pages/index.ts"]
  generate := fun _ registry => generatePagesIndex registry

end Blueprint.Client
