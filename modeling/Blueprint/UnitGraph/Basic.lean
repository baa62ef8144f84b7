import Blueprint.Markup.Scanner
import Blueprint.Naming
import Blueprint.Resolve.Relationship

/-!
The graph of a registry: its units and the ways in which they refer to each other. There is at most
one edge from a node to another; a later one takes the place of an earlier one. The graph can be
written in the DOT language.
-/

namespace Blueprint

open Design

/-- Why a unit refers to another. -/
inductive EdgeKind where
  | relationship | mixin | behavior | uses | dataSource
  deriving DecidableEq, Repr

/-- The name of a kind of edge. -/
def EdgeKind.name : EdgeKind → String
  | .relationship => "relationship"
  | .mixin => "mixin"
  | .behavior => "behavior"
  | .uses => "uses"
  | .dataSource => "data-source"

namespace UnitGraph

/-- The kind and the name of a unit. -/
abbrev Key := UnitKind × String

/-- A key as it is shown. -/
def idOf (key : Key) : String := key.1.name ++ "." ++ key.2

/-- A unit, or a name that units refer to and nobody declares. -/
structure Node where
  key : Key
  library : Bool
  missing : Bool := false
  deriving DecidableEq, Repr

/-- A reference from one unit to another. -/
structure Edge where
  source : Key
  target : Key
  kind : EdgeKind
  label : String := ""
  deriving DecidableEq, Repr

end UnitGraph

open UnitGraph in
/-- Nodes and edges in the order in which they came first, and the problems met on the way. -/
structure UnitGraph where
  nodes : List Node := []
  edges : List Edge := []
  problems : List String := []

namespace UnitGraph

/-- The graph has a node of this key. -/
def hasNode (graph : UnitGraph) (key : Key) : Bool := graph.nodes.any (·.key == key)

/-- An edge, in the place of one between the same nodes or behind the others. -/
def putEdge (edge : Edge) : List Edge → List Edge
  | [] => [edge]
  | other :: rest =>
    if other.source == edge.source && other.target == edge.target then edge :: rest
    else other :: putEdge edge rest

/-- Adds an edge; a target that nobody declares becomes a missing node. -/
def addEdge (graph : UnitGraph) (edge : Edge) : UnitGraph :=
  { graph with
    nodes := if graph.hasNode edge.target then graph.nodes
      else graph.nodes ++ [⟨edge.target, false, true⟩]
    edges := putEdge edge graph.edges }

/-- Adds edges in order. -/
def addEdges (graph : UnitGraph) (edges : List Edge) : UnitGraph := edges.foldl addEdge graph

/-- The edges of an entity: to its data source, if it names a declared one, and to the targets of
its relationships. -/
def addEntity (registry : Registry) (graph : UnitGraph) (entity : Entity) : UnitGraph :=
  let source : Key := (.entity, entity.name)
  let graph :=
    if !entity.dataSource.isEmpty && registry.has .dataSource entity.dataSource then
      graph.addEdge { source, target := (.dataSource, entity.dataSource), kind := .dataSource }
    else graph
  match (Relationship.resolveOwn registry entity).outcome with
  | .error failure => { graph with problems := graph.problems ++ [failure.message] }
  | .ok relationships => graph.addEdges (relationships.map fun relationship =>
      { source, target := (.entity, relationship.target), kind := .relationship
        label := relationship.name })

/-- The edges of the units that apply mixins. -/
def mixinEdges (units : List (Declared Design.Unit)) : List Edge :=
  units.flatMap fun declared => declared.unit.mixins.map fun name =>
    { source := declared.key, target := (.mixin, name), kind := .mixin }

/-- The edge of a behavior to its owner: the first kind of unit that has the owner's name. -/
def behaviorEdges (registry : Registry) : List Edge :=
  registry.behaviors.filterMap fun behavior =>
    ([UnitKind.entity, .mixin, .project].find? fun kind =>
      registry.has kind behavior.unit.owner).map fun kind =>
        { source := (.behavior, behavior.unit.name), target := (kind, behavior.unit.owner)
          kind := .behavior }

/-- The element by which templates use a component. -/
def componentSelector (component : Component) : String :=
  if component.selector.isEmpty then ViewName.componentStem component.name else component.selector

/-- The element by which templates use a page. -/
def pageSelector (page : Page) : String :=
  if page.selector.isEmpty then ViewName.pageStem page.name else page.selector

/-- The views by their elements. Of views with the same element the last one counts, pages after
components. -/
def selectors (registry : Registry) : List (String × Key) :=
  OrderedMap.ofList
    ((registry.components.map fun component =>
      (componentSelector component.unit, (UnitKind.component, component.unit.name))) ++
    (registry.pages.map fun page => (pageSelector page.unit, (UnitKind.page, page.unit.name))))

/-- The views with their templates, pages before components. -/
def views (registry : Registry) : List (Key × String) :=
  (registry.pages.map fun page => ((UnitKind.page, page.unit.name), page.unit.template)) ++
    (registry.components.map fun component =>
      ((UnitKind.component, component.unit.name), component.unit.template))

/-- The edges of views to the views that their templates use. -/
def viewEdges (registry : Registry) : List Edge :=
  let selectors := selectors registry
  (views registry).flatMap fun view =>
    (Markup.elementSelectors view.2).filterMap fun element =>
      match selectors.lookup element with
      | some used => if used == view.1 then none
          else some { source := view.1, target := used, kind := .uses }
      | none => none

/-- The graph of a registry. -/
def ofRegistry (registry : Registry) : UnitGraph :=
  let nodes := registry.units.map fun declared => (⟨declared.key, declared.isLibrary, false⟩ : Node)
  let graph : UnitGraph := { nodes }
  let graph :=
    registry.entities.foldl (fun graph entity => addEntity registry graph entity.unit) graph
  let graph := graph.addEdges (mixinEdges (registry.ofKind .entity ++ registry.ofKind .component))
  let graph := graph.addEdges (behaviorEdges registry)
  graph.addEdges (viewEdges registry)

/-- The edges from node to node, in the order of the nodes. -/
def orderedEdges (graph : UnitGraph) : List Edge :=
  graph.nodes.flatMap fun node => graph.edges.filter (·.source == node.key)

/-- The edges of some kinds. -/
def edgesOf (graph : UnitGraph) (kinds : List EdgeKind) : List Edge :=
  graph.orderedEdges.filter fun edge => kinds.contains edge.kind

/-- The names of missing nodes, sorted. -/
def missing (graph : UnitGraph) : List String :=
  Text.sorted ((graph.nodes.filter (·.missing)).map fun node => idOf node.key)

/-- The nodes from which an edge leads to one of `found`, those in `found` left out. -/
def referrers (edges : List Edge) (found : List Key) : List Key :=
  ((edges.filter fun edge => found.contains edge.target && !found.contains edge.source).map
    (·.source)).eraseDups

/-- Adds referrers of referrers, at most `rounds` times. -/
def reach (edges : List Edge) : Nat → List Key → List Key
  | 0, found => found
  | rounds + 1, found =>
    match referrers edges found with
    | [] => found
    | more => reach edges rounds (found ++ more)

/-- The units that refer to a unit, directly or not, sorted. -/
def dependents (graph : UnitGraph) (key : Key) : List String :=
  if graph.hasNode key then
    Text.sorted (((reach graph.edges graph.nodes.length [key]).filter (· != key)).map idOf)
  else []

/-- The cycles through `start` that continue the path from it, given in reverse, over `edges`. -/
def cyclesFrom (edges : List Edge) (start : Key) : Nat → List Key → Key → List (List Key)
  | 0, _, _ => []
  | fuel + 1, path, current =>
    (edges.filter (·.source == current)).flatMap fun edge =>
      if edge.target == start then [path]
      else if path.contains edge.target then []
      else cyclesFrom edges start fuel (edge.target :: path) edge.target

/-- The elementary cycles whose first node, in the order of the given nodes, is found first. -/
def cyclesOver (edges : List Edge) : List Key → List (List Key)
  | [] => []
  | start :: rest =>
    let inside := edges.filter fun edge =>
      (start :: rest).contains edge.source && (start :: rest).contains edge.target
    cyclesFrom inside start (rest.length + 1) [start] start ++ cyclesOver edges rest

/-- Lists of texts in lexicographic order. -/
def listLe : List String → List String → Bool
  | [], _ => true
  | _ :: _, [] => false
  | a :: as, b :: bs => if a = b then listLe as bs else decide (a < b)

/-- The elementary cycles of some edges, each sorted, in lexicographic order. -/
def cyclesOf (graph : UnitGraph) (edges : List Edge) : List (List String) :=
  ((cyclesOver edges (graph.nodes.map (·.key))).map fun cycle =>
    Text.sorted (cycle.map idOf)).mergeSort listLe

/-- All elementary cycles. -/
def cycles (graph : UnitGraph) : List (List String) := graph.cyclesOf graph.edges

/-- The cycles of mixins. -/
def mixinCycles (graph : UnitGraph) : List (List String) :=
  graph.cyclesOf (graph.edgesOf [.mixin])

/-- The cycles of views: pages and components that end up in themselves. -/
def viewCycles (graph : UnitGraph) : List (List String) := graph.cyclesOf (graph.edgesOf [.uses])

end UnitGraph

end Blueprint

namespace Blueprint.UnitGraph

open Design

/-- The words of the DOT language. -/
def dotWords : List String := ["node", "edge", "graph", "digraph", "subgraph", "strict"]

/-- A number: digits with at most one point, maybe negative. -/
def isDotNumber (text : List Char) : Bool :=
  let text := match text with
    | '-' :: rest => rest
    | rest => rest
  match text.takeWhile Char.isDigit, text.dropWhile Char.isDigit with
  | [], '.' :: rest => !rest.isEmpty && rest.all Char.isDigit
  | _ :: _, [] => true
  | _ :: _, '.' :: rest => rest.all Char.isDigit
  | _, _ => false

/-- A name or a number that needs no quotes. -/
def isDotName (text : List Char) : Bool :=
  match text with
  | c :: rest =>
    ((c.isAlpha || c == '_') && rest.all fun c => c.isAlphanum || c == '_') || isDotNumber text
  | [] => false

/-- Puts a backslash before every quote that has none. -/
def escapeDotQuotes : List Char → List Char
  | '\\' :: '\\' :: rest => '\\' :: '\\' :: escapeDotQuotes rest
  | '\\' :: '"' :: rest => '\\' :: '"' :: escapeDotQuotes rest
  | '"' :: rest => '\\' :: '"' :: escapeDotQuotes rest
  | c :: rest => c :: escapeDotQuotes rest
  | [] => []

/-- A text as a DOT identifier. -/
def dotId (text : String) : String :=
  let cs := text.toList
  if isDotName cs && !dotWords.contains (Text.lower text) then text
  else "\"" ++ String.ofList (escapeDotQuotes cs) ++ "\""

/-- The attributes of a node or an edge between brackets, the label first. -/
def dotAttributes (label : String) (others : List (String × String)) : String :=
  let parts := ("label", label) :: others
  "[" ++ " ".intercalate (parts.map fun part => part.1 ++ "=" ++ dotId part.2) ++ "]"

/-- The shape and the colour of a kind of unit. -/
def nodeStyle : UnitKind → String × String
  | .project => ("folder", "lightgrey")
  | .dataSource => ("cylinder", "lightyellow")
  | .entity => ("box", "lightblue")
  | .mixin => ("box", "lavender")
  | .behavior => ("note", "mistyrose")
  | .page => ("component", "palegreen")
  | .component => ("component", "honeydew")
  | .selectorInterface => ("ellipse", "white")

/-- The colour and the line of a kind of edge. -/
def edgeStyle : EdgeKind → List (String × String)
  | .relationship => [("color", "blue")]
  | .mixin => [("color", "purple"), ("style", "dashed")]
  | .behavior => [("color", "red"), ("style", "dotted")]
  | .uses => [("color", "darkgreen")]
  | .dataSource => [("color", "orange"), ("style", "dashed")]

/-- The line of a node. -/
def dotNode (node : Node) : String :=
  let label := "[" ++ Text.upper node.key.1.name ++ "]\\n" ++ node.key.2 ++
    (if node.library then "\\n(library)" else "") ++ (if node.missing then "\\n(missing)" else "")
  let (shape, fill) := nodeStyle node.key.1
  let attributes := if node.missing then
      [("color", "red"), ("fillcolor", fill), ("fontcolor", "red"), ("shape", shape),
        ("style", "filled")]
    else [("fillcolor", fill), ("shape", shape), ("style", "filled")]
  "\t" ++ dotId (idOf node.key) ++ " " ++ dotAttributes label attributes ++ "\n"

/-- The line of an edge. -/
def dotEdge (edge : Edge) : String :=
  "\t" ++ dotId (idOf edge.source) ++ " -> " ++ dotId (idOf edge.target) ++ " " ++
    dotAttributes edge.label (edgeStyle edge.kind) ++ "\n"

/-- The graph under a comment, if there is one: nodes sorted, edges in order. -/
def toDot (graph : UnitGraph) (comment : String) : String :=
  let nodes := graph.nodes.mergeSort fun a b => decide (idOf a.key ≤ idOf b.key)
  (if comment.isEmpty then "" else "// " ++ comment ++ "\n") ++ "digraph \x7b\n" ++
    "\tfontname=Arial fontsize=10 rankdir=LR\n\tnodesep=0.5 ranksep=1.0\n\tedge [fontsize=9]\n" ++
    String.join (nodes.map dotNode) ++ String.join (graph.orderedEdges.map dotEdge) ++ "\x7d\n"

end Blueprint.UnitGraph
