import InkWorkspace.Json.Basic
import InkWorkspace.Source.Item

/- JSON forms of source items. The members stand in the order in which an outline prints them. -/
namespace InkWorkspace.Wire

/-- A natural number. -/
def nat (n : Nat) : Json := .int n

/-- An optional value, `null` if there is none. -/
def option {α : Type} (encode : α → Json) : Option α → Json
  | none => .null
  | some a => encode a

/-- A list of values. -/
def list {α : Type} (encode : α → Json) (items : List α) : Json :=
  .arr (items.map encode)

/-- A list of strings. -/
def strings (items : List String) : Json :=
  list .str items

/-- A place. -/
def position (p : Position) : Json :=
  .obj [("line", nat p.line), ("character", nat p.character)]

/-- A stretch of text. -/
def range (r : Range) : Json :=
  .obj [("start", position r.start), ("end", position r.stop)]

/-- A header outside any knot. -/
def header (h : Header) : Json :=
  .obj [("name", .str h.name), ("parameters", strings h.parameters), ("line", nat h.line),
    ("range", range h.range)]

/-- A stitch with the name of its knot. -/
def stitch (s : Stitch) : Json :=
  .obj [("name", .str s.name), ("knot", .str s.knot), ("parameters", strings s.parameters),
    ("line", nat s.line), ("range", range s.range)]

/-- What a top-level header introduces. -/
def knotKind : KnotKind → Json
  | .knot => .str "Knot"
  | .function => .str "Function"

/-- A knot with its stitches. -/
def knot (k : Knot) : Json :=
  .obj [("name", .str k.name), ("kind", knotKind k.kind), ("parameters", strings k.parameters),
    ("line", nat k.line), ("range", range k.range), ("stitches", list stitch k.stitches)]

/-- How a global is declared. -/
def variableKind : VariableKind → Json
  | .var => .str "Var"
  | .const => .str "Const"
  | .list => .str "List"

/-- A global declaration. -/
def globalVariable (v : Variable) : Json :=
  .obj [("name", .str v.name), ("kind", variableKind v.kind), ("line", nat v.line),
    ("range", range v.range)]

/-- A divert. -/
def divert (d : Divert) : Json :=
  .obj [("target", .str d.target), ("line", nat d.line), ("range", range d.range)]

/-- An include line. -/
def inclusion (i : Inclusion) : Json :=
  .obj [("path", .str i.path), ("line", nat i.line), ("range", range i.range)]

end InkWorkspace.Wire
