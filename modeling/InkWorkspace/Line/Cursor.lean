import InkWorkspace.Line.Divert

/- What stands under the cursor: the dotted word that touches it, the key of the divert it is in,
   and whether a divert target is about to be written there. Columns count characters. -/
namespace InkWorkspace.Cursor

open Text

/-- The maximal runs of word characters and dots of a text, each with the text in front of it.
    `before` is what has been read and `word` the current run, both in reverse. -/
def dottedWords : (before word : List Char) → List Char → List Token
  | before, word, [] =>
    if word.isEmpty then [] else [Token.after before.reverse word.reverse]
  | before, word, c :: cs =>
    if isWordOrDot c then dottedWords before (c :: word) cs
    else if word.isEmpty then dottedWords (c :: before) [] cs
    else Token.after before.reverse word.reverse :: dottedWords (c :: (word ++ before)) [] cs

/-- The dotted word that contains the column or ends there. -/
def wordAt? (line : List Char) (column : Nat) : Option Token :=
  let offset := byteOfColumn line column
  (dottedWords [] [] line).find? fun token => token.start ≤ offset && offset ≤ token.stop

/-- Whether the text is an arrow, blanks and then only word characters and dots. -/
def isOpenDivert (cs : List Char) : Bool :=
  match Divert.dropArrow? cs with
  | some rest => (trimLeft rest).all isWordOrDot
  | none => false

/-- The longest suffix of the text before the cursor that is a divert still being written. -/
def openDivert? : List Char → Option (List Char)
  | [] => none
  | c :: cs => if isOpenDivert (c :: cs) then some (c :: cs) else openDivert? cs

/-- The first dotted segment of a divert target. A leading dot stays in front of it, and then the
    segment must not be empty. -/
def keyOfTarget? : List Char → Option String
  | [] => none
  | '.' :: rest =>
    let stitch := rest.takeWhile (· ≠ '.')
    if stitch.isEmpty then none else some (String.ofList ('.' :: stitch))
  | target => some (String.ofList (target.takeWhile (· ≠ '.')))

/-- The look-up key of the divert under the cursor, if the cursor is in the target of one or right
    behind its arrow. -/
def divertKey? (line : List Char) (column : Nat) : Option String := do
  let opened ← openDivert? (line.take column)
  let rest ← Divert.dropArrow? opened
  keyOfTarget? (trimLeft rest ++ (line.drop column).takeWhile isWordOrDot)

/-- Whether the text ends with `word`. -/
def endsWith (word cs : List Char) : Bool :=
  (dropEnd? word cs).isSome

/-- The text without one space at its end. -/
def dropSpace (cs : List Char) : List Char :=
  (dropEnd? [' '] cs).getD cs

/-- Whether the text before the cursor asks for a divert target: it ends in an arrow and at most
    one space. A second arrow is a tunnel return and asks for nothing. -/
def asksForTarget (before : List Char) : Bool :=
  let head := dropSpace before
  match dropEnd? "->".toList head with
  | some outer => !endsWith "->".toList (dropSpace outer)
  | none => endsWith "<-".toList head

end InkWorkspace.Cursor
