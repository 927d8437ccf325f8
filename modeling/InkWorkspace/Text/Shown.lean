import InkWorkspace.Text.Class
import InkWorkspace.Text.GraphemeTable
import InkWorkspace.Text.PrintTable

/- Texts as error messages show them: in quotes, with everything escaped that a reader could not
   see. -/
namespace InkWorkspace.Text

/-- Hexadecimal digits of a code point. -/
def hexDigits (n : Nat) : List Char :=
  Nat.toDigits 16 n

/-- Whether a character cannot be seen on its own: it cannot be printed, or it combines with what
    stands before it. The skin tones of pictographs can be seen. -/
def isUnseen (c : Char) : Bool :=
  let n := c.toNat
  n < 32 || n = 127 || covers n unprintableRanges ||
    (covers n extendRanges && !(0x1F3FB ≤ n && n ≤ 0x1F3FF))

/-- A character inside a quoted text of an error message: quotes, backslashes and characters that
    cannot be seen are escaped. -/
def escapeShown (c : Char) : List Char :=
  if c = '"' then ['\\', '"']
  else if c = '\\' then ['\\', '\\']
  else if c = '\n' then ['\\', 'n']
  else if c = '\r' then ['\\', 'r']
  else if c = '\t' then ['\\', 't']
  else if c.toNat = 0 then ['\\', '0']
  else if isUnseen c then
    ['\\', 'u', '\x7b'] ++ hexDigits c.toNat ++ ['\x7d']
  else [c]

/-- A text in quotes, as error messages have it. -/
def quoted (text : String) : String :=
  String.ofList ('"' :: (text.toList.flatMap escapeShown ++ ['"']))

/-- What an error message calls a text. -/
def shown (text : String) : String :=
  "string " ++ quoted text

end InkWorkspace.Text
