import InkWorkspace.Story.Query
import InkWorkspace.Line.Cursor

/- From a place in a text to what it refers to: the definition under the cursor, its documentation,
   the target of a divert, and all diverts that lead to a definition. -/
namespace InkWorkspace

open Text

namespace Story

/-- The documentation comment above a definition. -/
def documentation? (story : Story) (definition : Definition) : Option String := do
  (← story.file? definition.path).comment? definition.line

/-- How a definition is written. A variable shows its line. -/
def signature (story : Story) : Definition → String
  | .knot _ knot => knot.signature
  | .stitch _ _ stitch => stitch.qualifiedSignature
  | .global path v =>
    match story.line? path v.line with
    | some line => String.ofList (trim line)
    | none => v.kind.keyword ++ " " ++ v.name

/-- What the word under the cursor refers to. A header names itself; any other word is read as a
    divert target and then as a variable, dots at its end left out. -/
def definitionAt? (story : Story) (path : Path) (position : Position) : Option Definition :=
  story.headerAt? path position <|> do
    let line ← story.line? path position.line
    let token ← Cursor.wordAt? line position.character
    let word := (token.text.toList.reverse.dropWhile (· == '.')).reverse
    if word.isEmpty then none
    let word := String.ofList word
    story.resolve? path position.line word <|>
      (story.global? word).map fun (path, v) => .global path v

/-- Where the divert or variable under the cursor is defined. Only the first segment of a divert
    target counts, so `Knot.Stitch` leads to the knot. -/
def goto? (story : Story) (path : Path) (position : Position) : Option Definition := do
  let line ← story.line? path position.line
  match Cursor.divertKey? line position.character with
  | some key => story.resolve? path position.line key
  | none =>
    let token ← Cursor.wordAt? line position.character
    let (path, v) ← story.global? token.text
    return .global path v

/-- The definition whose uses are wanted at a position: the target of the divert there, or what the
    word there refers to. -/
def subject? (story : Story) (path : Path) (position : Position) : Option Definition :=
  match story.divertAt? path position with
  | some divert => story.resolve? path divert.line divert.target
  | none => story.definitionAt? path position

/-- The diverts that lead to a definition, each resolved on its own line. -/
def usesOf (story : Story) (definition : Definition) : List (Path × Divert) :=
  story.diverts.filter fun (path, divert) =>
    (story.resolve? path divert.line divert.target).any (·.sameSite definition)

end Story

end InkWorkspace
