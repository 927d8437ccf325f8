import InkWorkspace.Text.Lines
import InkWorkspace.Text.Column

/- Places in a text: a zero-based line and a column counted in characters. Lines and columns are
   unbounded, here and in everything that is found on a line. An editor has 32 bits for each of them, so
   the two agree on texts with fewer than 2^32 lines and on lines with fewer than 2^32 characters. -/
namespace InkWorkspace

open Text

/-- A place between two characters of a text. -/
structure Position where
  line : Nat
  character : Nat
  deriving Repr, DecidableEq

/-- A stretch of text from `start` to `stop`. -/
structure Range where
  start : Position
  stop : Position
  deriving Repr, DecidableEq

namespace Range

/-- The range on line `line` that the bytes `start` to `stop` of the line's text cover. -/
def onLine (line : Nat) (text : List Char) (start stop : Nat) : Range where
  start := ⟨line, columnOfByte text start⟩
  stop := ⟨line, columnOfByte text stop⟩

/-- The range of a whole line, its line ending not counted. -/
def wholeLine (line : Nat) (text : List Char) : Range :=
  let text := dropLineEnd text
  onLine line text 0 (utf8Length text)

/-- Whether the position lies in the range. Both ends count. -/
def contains (range : Range) (position : Position) : Bool :=
  (range.start.line < position.line ||
      (range.start.line == position.line && range.start.character ≤ position.character)) &&
    (range.stop.line > position.line ||
      (range.stop.line == position.line && range.stop.character ≥ position.character))

end Range

end InkWorkspace
