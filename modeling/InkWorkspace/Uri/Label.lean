import InkWorkspace.Text.Compose
import InkWorkspace.Text.GraphemeTable
import InkWorkspace.Uri.LabelTable

/- The labels between the dots of a domain name. A label does not start with a mark, invisible
   joiners stand only where they change how letters are written, and a label of a domain with
   letters from right to left has one clear direction. -/
namespace InkWorkspace.Uri

open Text

/-- How a character takes part in the direction of a text. -/
inductive Direction where
  | left
  | right
  | number
  | arabicNumber
  | neutral
  | mark
  deriving Repr, DecidableEq

/-- The direction of a character that a label may have. -/
def directionOf (c : Char) : Direction :=
  let n := c.toNat
  if n < 128 then (if c.isAlpha then .left else if c.isDigit then .number else .neutral)
  else if covers n extendRanges && !covers n directedExtenders then .mark
  else if covers n rightRanges then .right
  else if covers n arabicNumberRanges then .arabicNumber
  else if covers n numberRanges then .number
  else if covers n neutralRanges then .neutral
  else .left

/-- Whether a label makes its domain one with letters from right to left. -/
def runsRight (label : List Char) : Bool :=
  label.any fun c => directionOf c = .right || directionOf c = .arabicNumber

/-- Whether a label has one clear direction. It starts with a letter, which gives the direction, and
    ends with a letter of this direction or a digit, apart from marks. From right to left it has
    digits of one kind only. -/
def hasOneDirection (label : List Char) : Bool :=
  let directions := label.map directionOf
  let last := (directions.reverse.dropWhile (· = .mark)).head?
  match directions with
  | [] => true
  | .left :: _ =>
    directions.all (fun d => d ≠ .right && d ≠ .arabicNumber) &&
      (last = some .left || last = some .number)
  | .right :: _ =>
    directions.all (· ≠ .left) && last ≠ some .neutral &&
      !(directions.contains .number && directions.contains .arabicNumber)
  | _ => false

/-- Whether a character is a mark of any kind. -/
def isMark (c : Char) : Bool :=
  let n := c.toNat
  directionOf c = .mark || (covers n directedExtenders && directionOf c = .left) ||
    covers n spacingMarkRanges || covers n detachedMarks

/-- Whether letters join over a character as if it were not there. -/
def isPassedInJoining (c : Char) : Bool :=
  directionOf c = .mark || covers c.toNat passedInJoining

/-- Whether a character leaves out the vowel of the consonant in front of it. -/
def isVirama (c : Char) : Bool :=
  markClass c = 9

/-- Whether the nearest letter of a text joins towards its start. -/
def joins (oneSided : List (Nat × Nat)) (cs : List Char) : Bool :=
  (cs.dropWhile isPassedInJoining).head?.any fun c =>
    covers c.toNat oneSided || covers c.toNat dualJoining

/-- Whether every joiner and every non-joiner of a text has its reason; `before` holds the
    characters in front, the nearest first. Both may follow a virama, and a non-joiner may keep two
    letters apart that join. -/
def joinersFit : (before : List Char) → List Char → Bool
  | _, [] => true
  | before, c :: rest =>
    let fits :=
      if c.toNat = 0x200D then before.head?.any isVirama
      else if c.toNat = 0x200C then
        before.head?.any isVirama || (joins leftJoining before && joins rightJoining rest)
      else true
    fits && joinersFit (c :: before) rest

/-- Whether a label in normal form may stand in a domain, whatever its direction. -/
def isLabel (label : List Char) : Bool :=
  !label.head?.any isMark && joinersFit [] label

end InkWorkspace.Uri
