import InkWorkspace.Include.Load

/- Which file includes which. The graph has a node for every indexed file and every file that one
   of them includes, and one edge for every include line. -/
namespace InkWorkspace

/-- An include line: the file it stands in, the file it names, and its number. -/
structure IncludeEdge where
  source : Path
  target : Path
  line : Nat
  deriving Repr, DecidableEq

/-- The include lines between files. Edges of one file stand in the order of its lines. -/
structure IncludeGraph where
  nodes : List Path
  edges : List IncludeEdge
  deriving Repr, DecidableEq

namespace IncludeGraph

/-- The graph of no files. -/
def empty : IncludeGraph := ⟨[], []⟩

/-- The edges that start at a file. -/
def edgesOf (file : InkFile) (root : Path) : List IncludeEdge :=
  file.includes.map fun inclusion =>
    ⟨file.path, root.resolve (.ofString inclusion.path), inclusion.line⟩

/-- A list of nodes with one more, if it is new. -/
def addNode (nodes : List Path) (path : Path) : List Path :=
  if path ∈ nodes then nodes else nodes ++ [path]

/-- The graph of some files. -/
def build (files : List InkFile) (root : Path) : IncludeGraph where
  nodes := (files.flatMap fun file => file.path :: file.targets root).foldl addNode []
  edges := files.flatMap fun file => edgesOf file root

/-- Number of files in the graph. -/
def fileCount (graph : IncludeGraph) : Nat :=
  graph.nodes.length

/-- The include lines of a file, in order. -/
def edgesFrom (graph : IncludeGraph) (path : Path) : List IncludeEdge :=
  graph.edges.filter (·.source = path)

/-- Order of edges by line, then by target. -/
def edgeBefore (a b : IncludeEdge) : Bool :=
  a.line < b.line || (a.line = b.line && !b.target.before a.target)

/-- The files that a file includes directly, by line. -/
def includesOf (graph : IncludeGraph) (path : Path) : List Path :=
  ((graph.edgesFrom path).mergeSort edgeBefore).map (·.target)

/-- The pending files and everything reachable from them, depth first in the order of the include
    lines, leaving out what has been seen. -/
def reachFrom (graph : IncludeGraph) (pending seen : List Path) : List Path :=
  match pending with
  | [] => []
  | path :: rest =>
    if _hs : path ∈ seen then reachFrom graph rest seen
    else if _hb : path ∈ graph.nodes then
      path :: reachFrom graph ((graph.edgesFrom path).map (·.target) ++ rest) (path :: seen)
    else reachFrom graph rest seen
termination_by (Include.fresh graph.nodes seen, pending.length)
decreasing_by
  · exact Prod.Lex.right _ (Nat.lt_succ_self _)
  · exact Prod.Lex.left _ _ (Include.fresh_cons_lt _hb _hs)
  · exact Prod.Lex.right _ (Nat.lt_succ_self _)

/-- Every file reachable from a file, starting with the file itself; none if it is unknown. -/
def reachableFrom (graph : IncludeGraph) (path : Path) : List Path :=
  graph.reachFrom [path] []

/-- The graph with every include line turned around. -/
def reversed (graph : IncludeGraph) : IncludeGraph where
  nodes := graph.nodes
  edges := graph.edges.map fun edge => ⟨edge.target, edge.source, edge.line⟩

/-- Every file from which a file can be reached, starting with the file itself. -/
def reaching (graph : IncludeGraph) (path : Path) : List Path :=
  graph.reversed.reachableFrom path

/-- Order of paths in which equal paths may stand either way. -/
def notAfter (a b : Path) : Bool :=
  !b.before a

/-- The files that a file reaches and that reach it, in path order. -/
def classOf (graph : IncludeGraph) (path : Path) : List Path :=
  let back := graph.reaching path
  ((graph.reachableFrom path).filter (· ∈ back)).mergeSort notAfter

/-- Whether a file includes itself directly. -/
def includesItself (graph : IncludeGraph) (path : Path) : Bool :=
  graph.edges.any fun edge => edge.source = path && edge.target = path

/-- The cycle that a file lies on: its class, if that has more members or the file includes
    itself. -/
def cycleOf? (graph : IncludeGraph) (path : Path) : Option (List Path) :=
  let members := graph.classOf path
  if members.length > 1 || (members.length = 1 && graph.includesItself path) then some members
  else none

/-- The groups of files that include each other, each once and in path order. -/
def cycles (graph : IncludeGraph) : List (List Path) :=
  (graph.nodes.mergeSort notAfter).filterMap fun path =>
    (graph.cycleOf? path).filter fun members => members.head? = some path

/-- The include lines of a file that lead back to it, from the last one up, each with the cycle. -/
def cyclicIncludes (graph : IncludeGraph) (path : Path) : List (Nat × List Path) :=
  match graph.cycleOf? path with
  | none => []
  | some cycle =>
    ((graph.edgesFrom path).reverse.filter fun edge => edge.target ∈ cycle).map fun edge =>
      (edge.line, cycle)

end IncludeGraph

end InkWorkspace
