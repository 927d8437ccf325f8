import InkWorkspace.Text.CaseTable
import InkWorkspace.Text.Fold
import InkWorkspace.Text.LowerTable

/- Lower case of whole texts. Every letter has a lower case of its own, except that a capital
   sigma at the end of a word becomes a final sigma. -/
namespace InkWorkspace.Text

/-- The lower case of a character by itself. The capital I with a dot keeps the dot as a mark. -/
def lowerChar (c : Char) : List Char :=
  if c.toNat < 128 then [c.toLower]
  else if c.toNat = 0x130 then ['i', Char.ofNat 0x307]
  else [((foldIn? c.toNat lowerRuns).map Char.ofNat).getD c]

/-- Whether a character has a case. -/
def isCased (c : Char) : Bool :=
  if c.toNat < 128 then c.isAlpha else covers c.toNat casedRanges

/-- Whether a character is passed over when a letter with a case is looked for. -/
def isCaseIgnorable (c : Char) : Bool :=
  if c.toNat < 128 then "'.:^`".toList.contains c else covers c.toNat caseIgnorableRanges

/-- Whether the first character that counts has a case. -/
def startsCased (cs : List Char) : Bool :=
  (cs.dropWhile isCaseIgnorable).head?.any isCased

/-- The lower case of the rest of a text; `before` holds the characters in front of it, the nearest
    first. -/
def lowerFrom (before : List Char) : List Char → List Char
  | [] => []
  | c :: cs =>
    let low := if c = 'Σ' then
        if startsCased before && !startsCased cs then ['ς'] else ['σ']
      else lowerChar c
    low ++ lowerFrom (c :: before) cs

/-- A text in lower case. -/
def lower (text : String) : String :=
  String.ofList (lowerFrom [] text.toList)

end InkWorkspace.Text
