import InkWorkspace.Text.Class
import InkWorkspace.Text.MarkTable

/- Letters and marks in one spelling. A letter with marks can be written as one character or as
   several, and marks that do not touch each other in any order. The composed form of a text takes
   all its characters apart, puts the marks behind each letter in the order of their classes, and
   joins letters and marks again as far as there are characters for them. -/
namespace InkWorkspace.Text

/-- The first of the pairs that a text consists of which satisfies `p`. -/
def findPair? (p : Char → Char → Bool) : List Char → Option (Char × Char)
  | a :: b :: rest => if p a b then some (a, b) else findPair? p rest
  | _ => none

/-- The class of a mark; letters have class 0. -/
def markClass (c : Char) : Nat :=
  ((markClasses.find? fun (_, ranges) => covers c.toNat ranges).map (·.1)).getD 0

/-- The numbers of leading consonants, vowels and closing consonants of Korean syllables. The first
    closing consonant is none at all. -/
def leadCount : Nat := 19

@[inherit_doc leadCount]
def vowelCount : Nat := 21

@[inherit_doc leadCount]
def closeCount : Nat := 28

/-- The first syllable, leading consonant, vowel and place of a closing consonant. -/
def syllableBase : Nat := 0xAC00

@[inherit_doc syllableBase]
def leadBase : Nat := 0x1100

@[inherit_doc syllableBase]
def vowelBase : Nat := 0x1161

@[inherit_doc syllableBase]
def closeBase : Nat := 0x11A7

/-- The last part of a character that consists of two parts, and the character without it. -/
def split? (c : Char) : Option (Char × Char) :=
  let n := c.toNat
  if syllableBase ≤ n && n < syllableBase + leadCount * vowelCount * closeCount then
    let index := n - syllableBase
    let close := index % closeCount
    if close = 0 then
      some (Char.ofNat (leadBase + index / (vowelCount * closeCount)),
        Char.ofNat (vowelBase + index / closeCount % vowelCount))
    else some (Char.ofNat (n - close), Char.ofNat (closeBase + close))
  else
    compositions.findSome? fun (mark, lines) =>
      (lines.findSome? fun line => findPair? (fun whole _ => whole = c) line.toList).map
        fun (_, letter) => (letter, Char.ofNat mark)

/-- The character that a letter and a mark make, if there is one. -/
def join? (letter mark : Char) : Option Char :=
  let l := letter.toNat
  let m := mark.toNat
  if leadBase ≤ l && l < leadBase + leadCount && vowelBase ≤ m && m < vowelBase + vowelCount then
    some (Char.ofNat
      (syllableBase + ((l - leadBase) * vowelCount + (m - vowelBase)) * closeCount))
  else if syllableBase ≤ l && l < syllableBase + leadCount * vowelCount * closeCount &&
      (l - syllableBase) % closeCount = 0 && closeBase < m && m < closeBase + closeCount then
    some (Char.ofNat (l + (m - closeBase)))
  else do
    let (_, lines) ← compositions.find? (·.1 = m)
    let (whole, _) ← lines.findSome? fun line => findPair? (fun _ base => base = letter) line.toList
    return whole

/-- The parts of a character, which has at most `depth` behind the first one. -/
def partsOf : (depth : Nat) → Char → List Char
  | 0, c => [c]
  | depth + 1, c =>
    match split? c with
    | some (letter, mark) => partsOf depth letter ++ [mark]
    | none => [c]

/-- Puts a character behind a text, which is given from its end: a mark goes in front of the marks
    of higher classes. -/
def settle (c : Char) : List Char → List Char
  | [] => [c]
  | d :: rest =>
    if 0 < markClass c && markClass c < markClass d then d :: settle c rest else c :: d :: rest

/-- Joins a letter with the characters that follow it. `marks` are those between them that could not
    be joined, from the last on. A mark is kept away from the letter by a mark of its own class, and
    by any letter. -/
def joinFrom (letter : Char) (marks : List Char) : List Char → List Char
  | [] => letter :: marks.reverse
  | c :: rest =>
    let isFree := marks.head?.all fun mark => markClass mark < markClass c
    match if isFree then join? letter c else none with
    | some whole => joinFrom whole marks rest
    | none =>
      if markClass c = 0 then letter :: (marks.reverse ++ joinFrom c [] rest)
      else joinFrom letter (c :: marks) rest

/-- The marks at the start of a text are joined with nothing. -/
def joinAll : List Char → List Char
  | [] => []
  | c :: rest => if markClass c = 0 then joinFrom c [] rest else c :: joinAll rest

/-- The composed form of a text. -/
def compose (cs : List Char) : List Char :=
  if cs.all (·.toNat < 128) then cs
  else joinAll (((cs.flatMap (partsOf 4)).foldl (fun done c => settle c done) []).reverse)

end InkWorkspace.Text
