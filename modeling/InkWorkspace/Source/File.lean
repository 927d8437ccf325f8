import InkWorkspace.Source.Item
import InkWorkspace.Line.Divert
import InkWorkspace.Line.Comment
import InkWorkspace.Path

/- One ink file and what it declares. Reading never fails: a text that is no proper ink gives a
   shorter index. Items are numbered by compiler lines; a line fetched by number is the editor's. -/
namespace InkWorkspace

open Text

/-- What the lines of a text declare, each kind in the order of the lines. `loose` holds the stitch
    headers that stand in front of the first knot header. -/
structure Contents where
  includes : List Inclusion
  knots : List Knot
  loose : List Header
  globals : List Variable
  diverts : List Divert
  deriving Repr, DecidableEq

namespace Contents

/-- What no lines declare. -/
def empty : Contents := ⟨[], [], [], [], []⟩

/-- The header that a name and its parameters make on a line. -/
def headerOn (number : Nat) (line : List Char) (name : Token) (parameters : List String) :
    Header where
  name := name.text
  parameters := parameters
  line := number
  range := Range.onLine number line name.start name.stop

/-- The diverts of one line. -/
def divertsOn (number : Nat) (line : List Char) : List Divert :=
  (Divert.targets line).map fun token =>
    ⟨token.text, number, Range.onLine number line token.start token.stop⟩

/-- Puts a line in front of the lines that `rest` describes. A knot header takes the loose stitches
    of `rest` as its own. -/
def addLine (number : Nat) (line : List Char) (rest : Contents) : Contents :=
  let rest := { rest with diverts := divertsOn number line ++ rest.diverts }
  match LineShape.classify line with
  | .knot kind name parameters =>
    let header := headerOn number line name parameters
    let stitches := rest.loose.map fun stitch => { stitch with knot := header.name }
    { rest with
      loose := []
      knots := { header with kind := kind, stitches := stitches } :: rest.knots }
  | .stitch name parameters =>
    { rest with loose := headerOn number line name parameters :: rest.loose }
  | .inclusion path =>
    { rest with includes := ⟨path, number, Range.wholeLine number line⟩ :: rest.includes }
  | .declaration kind name =>
    { rest with
      globals :=
        ⟨name.text, kind, number, Range.onLine number line name.start name.stop⟩ ::
          rest.globals }
  | .other => rest

/-- What a list of lines declares, the first of which has the given number. -/
def ofLines : (number : Nat) → List (List Char) → Contents
  | _, [] => empty
  | number, line :: rest => addLine number line (ofLines (number + 1) rest)

end Contents

/-- An ink file: where it lies, its text, and what the text declares. -/
structure InkFile extends Contents where
  path : Path
  text : String
  deriving Repr, DecidableEq

namespace InkFile

/-- Reads a text as the file at `path`. -/
def read (path : Path) (text : String) : InkFile :=
  { Contents.ofLines 0 (lines text.toList) with path := path, text := text }

/-- The knot whose body contains the line: the last knot header at or above it. -/
def enclosingKnot? (file : InkFile) (line : Nat) : Option Knot :=
  file.knots.reverse.find? (·.line ≤ line)

/-- How many lines an editor shows. -/
def lineCount (file : InkFile) : Nat :=
  (editorLines file.text.toList).length

/-- The text of an editor line without its line ending. -/
def line? (file : InkFile) (line : Nat) : Option (List Char) :=
  (editorLines file.text.toList)[line]?.map dropLineEnd

/-- Whether a line holds nothing but blanks. -/
def isBlankLine (line : List Char) : Bool :=
  (trim line).isEmpty

/-- The comment lines directly in front of some line, from the last one up. Blank lines between
    them are passed over, and the first other line ends the block. -/
def commentLines (above : List (List Char)) : List (List Char) :=
  ((above.filter fun line => !isBlankLine line).takeWhile Comment.isCommentLine).map Comment.strip

/-- The documentation comment above a line, without its delimiters. -/
def comment? (file : InkFile) (line : Nat) : Option String :=
  let above := ((editorLines file.text.toList).take line).reverse.map dropLineEnd
  let block := (commentLines above).reverse
  let text := trim ("\n".toList.intercalate block)
  if text.isEmpty then none else some (String.ofList text)

end InkFile

end InkWorkspace
