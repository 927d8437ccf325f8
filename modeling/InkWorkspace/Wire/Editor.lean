import InkWorkspace.Wire.Source
import InkWorkspace.Editor.Search
import InkWorkspace.Diagnostic

/- JSON forms of answers to an editor. Absent parts are left out. -/
namespace InkWorkspace.Wire

/-- A member that is left out if there is no value. -/
def member? {α : Type} (name : String) (encode : α → Json) (value : Option α) :
    List (String × Json) :=
  value.toList.map fun a => (name, encode a)

/-- A range in a document. -/
def location (l : Location) : Json :=
  .obj [("uri", .str l.uri.render), ("range", range l.range)]

/-- The number of a severity. -/
def severity : Severity → Json
  | .error => .int 1
  | .warning => .int 2
  | .information => .int 3

/-- A diagnostic. -/
def diagnostic (d : Diagnostic) : Json :=
  .obj [("range", range d.range), ("severity", severity d.severity),
    ("source", .str Diagnostic.source), ("message", .str d.message)]

/-- A text with its markup. -/
def markupText (m : MarkupText) : Json :=
  .obj [("kind", .str (match m.markup with
    | .markdown => "markdown"
    | .plain => "plaintext")), ("value", .str m.text)]

/-- A hover text. -/
def hover (m : MarkupText) : Json :=
  .obj [("contents", markupText m)]

/-- The number of a kind of completion. -/
def completionKind : CompletionKind → Json
  | .knot => .int 9
  | .function => .int 3
  | .stitch => .int 5

/-- A completion. Its label is also what the editor filters by. -/
def completion (c : Completion) : Json :=
  .obj ([("label", .str c.label), ("kind", completionKind c.kind), ("detail", .str c.detail),
    ("filterText", .str c.label)] ++ member? "documentation" markupText c.documentation)

/-- A complete list of completions. -/
def completions (items : List Completion) : Json :=
  .obj [("isIncomplete", .bool false), ("items", list completion items)]

/-- The number of a kind of symbol. -/
def symbolKind : SymbolKind → Json
  | .knot => .int 2
  | .function => .int 12
  | .stitch => .int 8
  | .var => .int 13
  | .const => .int 14
  | .list => .int 10

/-- The members of a symbol without those below it. -/
def leafMembers (s : LeafSymbol) : List (String × Json) :=
  [("name", .str s.name), ("detail", .str s.detail), ("kind", symbolKind s.kind),
    ("range", range s.range), ("selectionRange", range s.selection)]

/-- A symbol of a document. -/
def documentSymbol (s : DocumentSymbol) : Json :=
  .obj (leafMembers s.toLeafSymbol ++ if s.children.isEmpty then [] else
    [("children", list (fun leaf => .obj (leafMembers leaf)) s.children)])

/-- A symbol of the project. -/
def projectSymbol (s : ProjectSymbol) : Json :=
  .obj [("name", .str s.name), ("kind", symbolKind s.kind), ("location", location s.location),
    ("containerName", .str s.container)]

/-- The outline of one file. -/
def fileOutline (o : FileOutline) : Json :=
  .obj [("path", .str o.path), ("includes", strings o.includes), ("knots", list knot o.knots),
    ("variables", list globalVariable o.globals)]

/-- The names that repairs have added. -/
def patches (p : Patches) : Json :=
  .obj [("knots", strings p.knots), ("variables", strings p.globals)]

end InkWorkspace.Wire
