import InkWorkspace.Text.Class
import InkWorkspace.Text.FoldTable
import InkWorkspace.Text.LatinTable
import InkWorkspace.Text.LetterTable

/- Letters compared without regard to case or diacritics. -/
namespace InkWorkspace.Text

/-- The code point that a code point folds to, if it has a simple case folding. -/
def foldIn? (n : Nat) : List FoldRun → Option Nat
  | [] => none
  | run :: rest =>
    if n < run.first then none
    else if n ≤ run.last && (n - run.first) % run.step = 0 then some (n + run.delta).toNat
    else foldIn? n rest

/-- The simple case folding of a character that has one. -/
def caseFold? (c : Char) : Option Char :=
  if c.toNat < 128 then (if c.isUpper then some c.toLower else none)
  else (foldIn? c.toNat foldRuns).map Char.ofNat

/-- The simple case folding of a character. -/
def caseFold (c : Char) : Char :=
  (caseFold? c).getD c

/-- The base letter of a letter of the later groups: the one that belongs to the same place. -/
def laterBase? (n : Nat) : Option Char :=
  laterLetters.findSome? fun group =>
    (group.idxOf? n).bind fun place => latinLetters[place]?.map (·.2)

/-- The base letter of a Latin letter with a diacritic; other characters stand for themselves. -/
def latinBase (c : Char) : Char :=
  if c.toNat < 128 then c
  else ((latinLetters.lookup c.toNat).or (laterBase? c.toNat)).getD c

/-- Whether a character outside ASCII is lower case. -/
def isLowercase (c : Char) : Bool :=
  covers c.toNat lowercaseRanges

/-- Whether a character outside ASCII is alphabetic. -/
def isAlphabetic (c : Char) : Bool :=
  covers c.toNat alphabeticRanges

/-- Whether a character outside ASCII is a number. -/
def isNumeric (c : Char) : Bool :=
  covers c.toNat numericRanges

end InkWorkspace.Text
