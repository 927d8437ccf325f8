/- Columns of a line: counted in characters for editors, in UTF-8 bytes for spans. -/
namespace InkWorkspace.Text

/-- Number of bytes of the UTF-8 form. -/
def utf8Length (cs : List Char) : Nat :=
  cs.foldr (fun c total => c.utf8Size + total) 0

/-- The byte offset at which the character of column `column` starts, or the end of the line. -/
def byteOfColumn (line : List Char) (column : Nat) : Nat :=
  utf8Length (line.take column)

/-- How many characters of the line start before byte `offset`. -/
def columnOfByte : List Char → Nat → Nat
  | [], _ => 0
  | c :: cs, offset => if offset = 0 then 0 else columnOfByte cs (offset - c.utf8Size) + 1

end InkWorkspace.Text
