import InkWorkspace.Story.Query

/- Outlines: the symbols of one document, nested, and the whole project as plain data. -/
namespace InkWorkspace

/-- What kind of symbol an outline shows. -/
inductive SymbolKind where
  | knot
  | function
  | stitch
  | var
  | const
  | list
  deriving Repr, DecidableEq

namespace KnotKind

/-- The symbol of a top-level header. -/
def symbol : KnotKind → SymbolKind
  | knot => .knot
  | function => .function

end KnotKind

namespace VariableKind

/-- The symbol of a declaration. -/
def symbol : VariableKind → SymbolKind
  | var => .var
  | const => .const
  | list => .list

end VariableKind

/-- A symbol without symbols below it: the range of its block and that of its name. -/
structure LeafSymbol where
  name : String
  detail : String
  kind : SymbolKind
  range : Range
  selection : Range
  deriving Repr, DecidableEq

/-- A symbol of a document with the symbols below it. -/
structure DocumentSymbol extends LeafSymbol where
  children : List LeafSymbol
  deriving Repr, DecidableEq

namespace InkFile

/-- From the start of one line to the end of another. -/
def block (file : InkFile) (start stop : Nat) : Range :=
  ⟨⟨start, 0⟩, ⟨stop, (file.line? stop).elim 0 List.length⟩⟩

/-- The last line of a block that ends in front of the next header, or with the file. -/
def blockEnd (file : InkFile) (next : Option Nat) : Nat :=
  (next.getD file.lineCount) - 1

/-- The symbols of stitches, the last of which ends at line `stop`. -/
def stitchSymbols (file : InkFile) (stop : Nat) : List Stitch → List LeafSymbol
  | [] => []
  | stitch :: rest =>
    let last := match rest with
      | next :: _ => next.line - 1
      | [] => stop
    ⟨stitch.name, stitch.signature, .stitch, file.block stitch.line (max last stitch.line),
      stitch.range⟩ :: file.stitchSymbols stop rest

/-- The symbols of knots, each with its line and its stitches below it. -/
def knotSymbols (file : InkFile) : List Knot → List (Nat × DocumentSymbol)
  | [] => []
  | knot :: rest =>
    let stop := max (file.blockEnd (rest.head?.map (·.line))) knot.line
    (knot.line, ⟨⟨knot.name, knot.signature, knot.kind.symbol, file.block knot.line stop,
      knot.range⟩, file.stitchSymbols stop knot.stitches⟩) :: file.knotSymbols rest

/-- The symbols of stitches outside any knot, the last of which ends in front of `next`. -/
def looseSymbols (file : InkFile) (next : Option Nat) : List Header → List (Nat × DocumentSymbol)
  | [] => []
  | header :: rest =>
    let next' := match rest with
      | other :: _ => some other.line
      | [] => next
    let stop := max (file.blockEnd next') header.line
    (header.line, ⟨⟨header.name, "stitch outside any knot", .stitch, file.block header.line stop,
      header.range⟩, []⟩) :: file.looseSymbols next rest

/-- The symbol of a declaration. -/
def variableSymbol (v : Variable) : Nat × DocumentSymbol :=
  (v.line, ⟨⟨v.name, v.kind.keyword, v.kind.symbol, v.range, v.range⟩, []⟩)

/-- The symbols of a file in the order of their lines. -/
def symbols (file : InkFile) : List DocumentSymbol :=
  let all := file.knotSymbols file.knots ++
    file.looseSymbols (file.knots.head?.map (·.line)) file.loose ++
    file.globals.map variableSymbol
  (all.mergeSort fun a b => a.1 ≤ b.1).map Prod.snd

end InkFile

/-- One file of a project outline. -/
structure FileOutline where
  path : String
  includes : List String
  knots : List Knot
  globals : List Variable
  deriving Repr, DecidableEq

namespace Story

/-- The symbols of a document; nothing for an unknown file or one without symbols. -/
def symbols? (story : Story) (path : Path) : Option (List DocumentSymbol) := do
  let symbols := (← story.file? path).symbols
  if symbols.isEmpty then none else return symbols

/-- The project as plain data, in path order. -/
def outline (story : Story) : List FileOutline :=
  story.files.values.map fun file =>
    ⟨story.display file.path, file.includes.map (·.path), file.knots, file.globals⟩

end Story

end InkWorkspace
