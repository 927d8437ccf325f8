import InkWorkspace.Text.Scan

/- Two ways to cut a text into lines.

   `lines` is the compiler's view: a line ends at a line feed, a carriage return directly before
   the line feed belongs to the ending, and a final line feed opens no further line. Line numbers
   of indexed items count these lines.

   `editorLines` is the editor's view: a line also ends at a lone carriage return, a vertical tab,
   a form feed, U+0085, U+2028 and U+2029, and after a final break there is one more, empty, line.
   Lines are fetched by number in this view. The two agree on texts that hold none of the rarer
   breaks. -/
namespace InkWorkspace.Text

/-- A line without the carriage return of its ending. -/
def dropReturn (line : List Char) : List Char :=
  if line.getLast? = some '\r' then line.dropLast else line

/-- Every piece that a line feed ends gives a line; what follows the last line feed is one if it
    is not empty. -/
def endLines : List (List Char) → List (List Char)
  | [] => []
  | [last] => if last.isEmpty then [] else [last]
  | s :: ss => dropReturn s :: endLines ss

/-- The lines of a text, without their endings. -/
def lines (cs : List Char) : List (List Char) :=
  endLines (splitOn '\n' cs)

/-- Characters that end a line in the editor's view. -/
def isLineBreak (c : Char) : Bool :=
  c == '\n' || c == '\r' || c.toNat == 0x0B || c.toNat == 0x0C || c.toNat == 0x85 ||
    c.toNat == 0x2028 || c.toNat == 0x2029

/-- The editor's lines, each with its break. A line feed right after a carriage return belongs to
    the same break. -/
def editorLines : List Char → List (List Char)
  | [] => [[]]
  | '\r' :: '\n' :: cs => ['\r', '\n'] :: editorLines cs
  | c :: cs =>
    if isLineBreak c then [c] :: editorLines cs
    else match editorLines cs with
      | [] => [[c]]
      | l :: ls => (c :: l) :: ls

/-- The line without the carriage returns and line feeds at its end. Other breaks stay. -/
def dropLineEnd (line : List Char) : List Char :=
  (line.reverse.dropWhile fun c => c == '\r' || c == '\n').reverse

end InkWorkspace.Text
