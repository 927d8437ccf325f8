import InkWorkspace.Text.WordTable
import InkWorkspace.Text.NumberTable

/- Character classes of ink source text. A word is a run of word characters, blanks are the
   White_Space characters, and a digit is any decimal digit, so `٣` is one. The ASCII part of
   each class is spelled out; the tables cover the rest. -/
namespace InkWorkspace.Text

/-- Whether `n` lies in one of the inclusive ranges, which stand in increasing order. -/
def covers (n : Nat) : List (Nat × Nat) → Bool
  | [] => false
  | (lo, hi) :: rest => if n < lo then false else n ≤ hi || covers n rest

/-- White space: the blanks that trimming removes and that separate the parts of a line. -/
def isBlank (c : Char) : Bool :=
  let n := c.toNat
  (9 ≤ n && n ≤ 13) || n == 0x20 || n == 0x85 || n == 0xA0 || n == 0x1680 ||
    (0x2000 ≤ n && n ≤ 0x200A) || n == 0x2028 || n == 0x2029 || n == 0x202F || n == 0x205F ||
    n == 0x3000

/-- A character that may stand in the name of a knot, stitch or variable. -/
def isWord (c : Char) : Bool :=
  if c.toNat < 128 then c.isAlphanum || c == '_' else covers c.toNat wordRanges

/-- A character of a dotted name. -/
def isWordOrDot (c : Char) : Bool :=
  isWord c || c == '.'

/-- A decimal digit of any script. -/
def isDigit (c : Char) : Bool :=
  if c.toNat < 128 then c.isDigit else covers c.toNat digitRanges

end InkWorkspace.Text
