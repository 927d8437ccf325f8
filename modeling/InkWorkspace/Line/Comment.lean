import InkWorkspace.Text.Scan

/- Documentation comments: blocks of lines that start with `/**`, `*` or `*/`. -/
namespace InkWorkspace.Comment

open Text

/-- Whether a line can be part of a documentation comment. -/
def isCommentLine (line : List Char) : Bool :=
  let text := trimLeft line
  text.head? == some '*' || (dropWord? "/**".toList text).isSome

/-- The text of a documentation comment line without its delimiters. -/
def strip (line : List Char) : List Char :=
  let text := trim line
  let text := (dropWord? "/**".toList text).getD text
  let text := (dropEnd? "*/".toList text).getD text
  trim (text.dropWhile (· == '*'))

end InkWorkspace.Comment
