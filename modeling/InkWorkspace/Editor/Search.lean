import InkWorkspace.Editor.Answer
import InkWorkspace.Editor.Outline
import InkWorkspace.Fuzzy.Score

/- Searching the project for knots, stitches and variables by name. -/
namespace InkWorkspace

/-- A symbol of the project: its name, where it stands, and what it belongs to. -/
structure ProjectSymbol where
  name : String
  kind : SymbolKind
  location : Location
  container : String
  deriving Repr, DecidableEq

namespace Story

/-- All symbols of the project: knots, stitches by their qualified names, and variables. -/
def projectSymbols (story : Story) : List ProjectSymbol :=
  let symbol (name : String) (kind : SymbolKind) (path : Path) (range : Range)
      (container : String) : Option ProjectSymbol :=
    (Location.at? path range).map fun location => ⟨name, kind, location, container⟩
  story.knots.filterMap (fun (path, knot) =>
    symbol knot.name knot.kind.symbol path knot.range (story.display path)) ++
  story.stitches.filterMap (fun (path, knot, stitch) =>
    symbol stitch.qualifiedName .stitch path stitch.range knot.name) ++
  story.globals.filterMap fun (path, v) =>
    symbol v.name v.kind.symbol path v.range (story.display path)

/-- The symbols that match a query, the best first. -/
def search (story : Story) (query : String) : List ProjectSymbol :=
  Fuzzy.rank query (·.name) story.projectSymbols

end Story

end InkWorkspace
