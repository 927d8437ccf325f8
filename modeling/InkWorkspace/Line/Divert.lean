import InkWorkspace.Line.Token
import InkWorkspace.Text.Scan

/- Diverts on a line: an arrow `->` or `<-`, blanks and a target. A target is a word, or several
   joined by dots, and may start with a dot. -/
namespace InkWorkspace.Divert

open Text

/-- The rest of the text after a leading arrow. -/
def dropArrow? : List Char → Option (List Char)
  | '-' :: '>' :: rest => some rest
  | '<' :: '-' :: rest => some rest
  | _ => none

/-- The longest prefix made of word characters and of dots directly before a word character. -/
def dottedRun : List Char → List Char
  | [] => []
  | [c] => if isWord c then [c] else []
  | c :: d :: cs =>
    if isWord c || (c == '.' && isWord d) then c :: dottedRun (d :: cs) else []

/-- The longest target at the start of the text: an optional dot, a word and `.word` groups. -/
def target? (cs : List Char) : Option (List Char) :=
  match dottedRun cs with
  | [] => none
  | target => some target

/-- A divert at the start of the text: the arrow with its blanks, and the target. -/
def at? (cs : List Char) : Option (List Char × List Char) := do
  let rest ← dropArrow? cs
  let target ← target? (trimLeft rest)
  return (cs.take 2 ++ rest.takeWhile isBlank, target)

/-- All diverts of a text from left to right. `before` is what has been read, in reverse, and
    `skip` counts the characters of the last divert that are still to be passed over. -/
def scan : (before : List Char) → (skip : Nat) → List Char → List Token
  | _, _, [] => []
  | before, skip + 1, c :: cs => scan (c :: before) skip cs
  | before, 0, c :: cs =>
    match at? (c :: cs) with
    | some (arrow, target) =>
      Token.after (before.reverse ++ arrow) target ::
        scan (c :: before) (arrow.length + target.length - 1) cs
    | none => scan (c :: before) 0 cs

/-- The part of a line in front of its `//` comment. -/
def codeOf (line : List Char) : List Char :=
  match cutAt? "//".toList line with
  | some (code, _) => code
  | none => line

/-- The divert targets on a line, in order, not counting those in a line comment. -/
def targets (line : List Char) : List Token :=
  scan [] 0 (codeOf line)

end InkWorkspace.Divert
