import SourceIndex.Order
import SourceIndex.Record
import SourceIndex.Text.Basic

/-!
# Call graph

The nodes of a call graph are the node names of records. There is an edge from `a` to `b` if a
record with node name `a` makes a call that resolves to `b`.
-/

namespace SourceIndex

/-- Distinct nodes in order of first occurrence, and distinct edges in the order in which calls
first give rise to them. -/
structure CallGraph where
  nodes : List String
  edges : List (String × String)

namespace CallGraph

/-- The text after the last `.`, `:` or `>` of a call. -/
def lastSegment (call : String) : String :=
  String.ofList (Text.afterLast (fun c => c == '.' || c == ':' || c == '>') call.toList)

/-- The node that a call leads to: the one it names, or else the one its last segment names. -/
def resolve (nodes : List String) (call : String) : Option String :=
  if nodes.contains call then some call
  else
    let segment := lastSegment call
    if segment ≠ "" ∧ segment ≠ call ∧ nodes.contains segment then some segment else none

/-- The edges that the calls of a record give rise to, in order. -/
def edgesOf (nodes : List String) (record : Record) : List (String × String) :=
  (record.calls.filterMap (resolve nodes)).map fun callee => (record.nodeName, callee)

/-- The call graph of records. -/
def build (records : List Record) : CallGraph :=
  let nodes := Text.firstOccurrences (records.map Record.nodeName)
  ⟨nodes, Text.firstOccurrences (records.flatMap (edgesOf nodes))⟩

variable (graph : CallGraph)

/-- Whether a name is a node. -/
def contains (name : String) : Bool := graph.nodes.contains name

/-- The nodes that a node calls. -/
def dependencies (name : String) : List String :=
  graph.edges.filterMap fun edge => if edge.1 = name then some edge.2 else none

/-- The nodes that call a node. -/
def dependents (name : String) : List String :=
  graph.edges.filterMap fun edge => if edge.2 = name then some edge.1 else none

/-- Who is affected by a change of a unit, by distance. -/
structure Impact where
  target : String
  maxDepth : Nat
  /-- All affected nodes in byte order. -/
  affected : List String
  /-- The nodes whose shortest call path to the target has one step, two steps and so on. -/
  byDepth : List (List String)

/-- A search for callers that looks up the nodes in a queue one after the other. -/
structure Wave where
  visited : List String
  /-- The nodes whose callers are still to be looked up, with their distances from the target. -/
  queue : List (String × Nat)
  affected : List String
  byDepth : List (List String)

/-- The layers, with a new one behind them unless there are more of them than `depth`. -/
def grow (layers : List (List String)) (depth : Nat) : List (List String) :=
  if layers.length ≤ depth then layers ++ [[]] else layers

/-- A name at the end of the layer at a position, if there is such a layer. -/
def addAt? (layers : List (List String)) (position : Nat) (name : String) :
    Option (List (List String)) :=
  if position < layers.length then some (layers.modify position (· ++ [name])) else none

/-- Takes note of a caller of a node at distance `depth`, unless it has been visited. The first one
at its distance begins a layer. -/
def Wave.meet? (depth : Nat) (wave : Wave) (caller : String) : Option Wave :=
  if wave.visited.contains caller then some wave
  else
    (addAt? (grow wave.byDepth depth) depth caller).map fun byDepth => {
      visited := wave.visited ++ [caller]
      queue := wave.queue ++ [(caller, depth + 1)]
      affected := Order.insertText caller wave.affected
      byDepth }

/-- Looks up the callers of the nodes in the queue that are nearer than `maxDepth`. The fuel bounds
the number of nodes. -/
def spread? (maxDepth : Nat) : (fuel : Nat) → Wave → Option Wave
  | 0, wave => some wave
  | fuel + 1, wave =>
    match wave.queue with
    | [] => some wave
    | (node, depth) :: queue =>
      if maxDepth ≤ depth then spread? maxDepth fuel { wave with queue }
      else
        ((graph.dependents node).foldlM (Wave.meet? depth) { wave with queue }).bind
          (spread? maxDepth fuel)

/-- The nodes that call `name` over at most `depth` steps. There is no report if a caller has no
layer to go to. -/
def impact? (name : String) (depth : Nat) : Option Impact :=
  if graph.contains name then
    (graph.spread? depth (graph.edges.length + 1) ⟨[name], [(name, 0)], [], []⟩).map fun wave =>
      ⟨name, depth, wave.affected, wave.byDepth⟩
  else some ⟨name, depth, [], []⟩

/-- The nodes that call `name` over at most `depth` steps. -/
def impact (name : String) (depth : Nat) : Impact :=
  (graph.impact? name depth).getD ⟨name, depth, [], []⟩

/-- The nodes that call `name` over at most `depth` steps, in byte order. -/
def impactSet (name : String) (depth : Nat) : List String := (graph.impact name depth).affected

/-- Names that mark the entry of a program or module. -/
def entryMarkers : List String := ["main", "init", "start"]

/-- The nodes with few callers, and those whose name marks an entry. -/
def entryPoints (maxCallers : Nat) : List String :=
  graph.nodes.filter fun name =>
    entryMarkers.contains name || (graph.dependents name).length ≤ maxCallers

/-- The nodes that call no node. -/
def leaves : List String := graph.nodes.filter fun name => (graph.dependencies name).isEmpty

/-- The nodes visited by a depth-first search, and the cycles it closed. -/
structure Search where
  visited : List String
  cycles : List (List String)

/-- The part of the path, given from its end, that starts at `name`, closed by `name`. -/
def closing (path : List String) (name : String) : List String :=
  name :: ((path.takeWhile (· ≠ name)).reverse ++ [name])

/-- Follows the successors left at the end of the path in order. A successor on the path closes a
cycle, and a new one is searched before the next. The fuel bounds the steps. -/
def explore : (fuel : Nat) → (path successors : List String) → Search → Search
  | 0, _, _, search => search
  | _ + 1, _, [], search => search
  | fuel + 1, path, next :: rest, search =>
    if path.contains next then
      explore fuel path rest { search with cycles := search.cycles ++ [closing path next] }
    else if search.visited.contains next then explore fuel path rest search
    else
      explore fuel path rest
        (explore fuel (next :: path) (graph.dependencies next)
          { search with visited := next :: search.visited })

/-- Searches from a node that has not been visited. -/
def searchFrom (search : Search) (root : String) : Search :=
  if search.visited.contains root then search
  else
    graph.explore (graph.edges.length + 1) [root] (graph.dependencies root)
      { search with visited := root :: search.visited }

/-- The cycles that a depth-first search closes, each from its first node on the path back to it. -/
def cycles : List (List String) := (graph.nodes.foldl graph.searchFrom ⟨[], []⟩).cycles

/-- The new names that one step from the frontier leads to, each once and in order. -/
def advance (step : String → List String) (seen frontier : List String) : List String :=
  Text.firstOccurrences ((frontier.flatMap step).filter fun name => !seen.contains name)

/-- The layers of names first reached after one, two and up to `depth` steps from the frontier. -/
def layers (step : String → List String) : (depth : Nat) → (seen frontier : List String) →
    List (List String)
  | 0, _, _ => []
  | depth + 1, seen, frontier =>
    match advance step seen frontier with
    | [] => []
    | next => next :: layers step depth (seen ++ next) next

/-- The nodes that a node leads to over at least one step. -/
def descendants (name : String) : List String :=
  let first := Text.firstOccurrences (graph.dependencies name)
  first ++ (layers graph.dependencies graph.nodes.length first first).flatten

/-- The nodes on cycles, grouped: two are in one group if each leads to the other. The names of a
group and the groups are in byte order; groups have no name in common, so that their first names
decide. -/
def components : List (List String) :=
  let below := graph.nodes.map fun name => (name, graph.descendants name)
  let cyclic := below.filter fun entry => entry.2.contains entry.1
  let groups := cyclic.map fun entry =>
    Order.sortTexts ((cyclic.filter fun other =>
      entry.2.contains other.1 && other.2.contains entry.1).map (·.1))
  Text.firstOccurrences
    (Order.sortBy (fun a b => decide (a.headD "" ≤ b.headD "")) groups)

/-- A one-line description of the size of the graph. -/
def summary : String :=
  s!"DependencyGraph \x7b node_count: {graph.nodes.length}, edge_count: {graph.edges.length} \x7d"

end CallGraph

end SourceIndex
