import InkWorkspace.Editor.Markup
import InkWorkspace.Story.Navigate
import InkWorkspace.Uri

/- Answers to an editor's questions about a place in a document: hover texts, definitions,
   references and completions. -/
namespace InkWorkspace

open Text

/-- A range in a document. -/
structure Location where
  uri : Uri
  range : Range
  deriving Repr, DecidableEq

namespace Location

/-- A range in the file at a path, if the path has an address. -/
def at? (path : Path) (range : Range) : Option Location :=
  (Uri.ofPath? path).map fun uri => ⟨uri, range⟩

end Location

/-- What a completion stands for. -/
inductive CompletionKind where
  | knot
  | function
  | stitch
  deriving Repr, DecidableEq

/-- A divert target that is offered to be written. -/
structure Completion where
  label : String
  kind : CompletionKind
  detail : String
  documentation : Option MarkupText
  deriving Repr, DecidableEq

namespace Story

/-- The hover text at a position, if hovering is on. -/
def hover? (story : Story) (settings : Settings) (path : Path) (position : Position) :
    Option MarkupText := do
  if !settings.hover then none
  let definition ← story.definitionAt? path position
  return .ofSignature settings.markup (story.signature definition)
    (story.documentation? definition)

/-- Where the divert or variable at a position is defined. -/
def gotoDefinition? (story : Story) (path : Path) (position : Position) :
    Option (List Location) := do
  let definition ← story.goto? path position
  return [← Location.at? definition.path definition.range]

/-- Every divert that leads to the knot or stitch at a position, in front of them the definition
    itself if it is wanted. -/
def references? (story : Story) (path : Path) (position : Position) (withDeclaration : Bool) :
    Option (List Location) := do
  let definition ← story.subject? path position
  let declaration := if withDeclaration then
      (Location.at? definition.path definition.range).toList else []
  return declaration ++ (story.usesOf definition).filterMap fun (path, divert) =>
    Location.at? path divert.range

/-- The completion that offers a knot or stitch. -/
def completionOf (story : Story) (markup : Markup) (definition : Definition) (label : String)
    (kind : CompletionKind) (detail : String) : Completion where
  label := label
  kind := kind
  detail := detail
  documentation := (story.documentation? definition).map fun text =>
    .ofSignature markup detail (some text)

/-- The completion that offers a knot. -/
def knotCompletion (story : Story) (markup : Markup) (path : Path) (knot : Knot) : Completion :=
  let kind : CompletionKind := match knot.kind with
    | .knot => .knot
    | .function => .function
  story.completionOf markup (.knot path knot) knot.name kind knot.signature

/-- The completion that offers a stitch. -/
def stitchCompletion (story : Story) (markup : Markup) (path : Path) (knot : Knot)
    (stitch : Stitch) : Completion :=
  story.completionOf markup (.stitch path knot stitch) stitch.qualifiedName .stitch
    stitch.qualifiedSignature

/-- Every knot and then every stitch, if the text in front of the position asks for a divert
    target. -/
def completions? (story : Story) (settings : Settings) (path : Path) (position : Position) :
    Option (List Completion) := do
  let line ← story.line? path position.line
  if Cursor.asksForTarget (line.take position.character) then
    return story.knots.map (fun (path, knot) => story.knotCompletion settings.markup path knot) ++
      story.stitches.map fun (path, knot, stitch) =>
        story.stitchCompletion settings.markup path knot stitch
  else none

end Story

end InkWorkspace
