import InkWorkspace.Text.Class

/- Trimming, cutting and searching of character lists. -/
namespace InkWorkspace.Text

/-- The text without leading blanks. -/
def trimLeft (cs : List Char) : List Char :=
  cs.dropWhile isBlank

/-- The text without trailing blanks. -/
def trimRight (cs : List Char) : List Char :=
  (cs.reverse.dropWhile isBlank).reverse

/-- The text without leading and trailing blanks. -/
def trim (cs : List Char) : List Char :=
  trimRight (trimLeft cs)

/-- The rest of `cs` after the leading `word`, if `cs` starts with it. -/
def dropWord? : (word cs : List Char) → Option (List Char)
  | [], cs => some cs
  | _ :: _, [] => none
  | w :: ws, c :: cs => if w = c then dropWord? ws cs else none

/-- The part of `cs` before the trailing `word`, if `cs` ends with it. -/
def dropEnd? (word cs : List Char) : Option (List Char) :=
  (dropWord? word.reverse cs.reverse).map List.reverse

/-- Cuts at the first occurrence of `word`: what stands before it and what follows it. -/
def cutAt? (word : List Char) : List Char → Option (List Char × List Char)
  | [] => if word.isEmpty then some ([], []) else none
  | c :: cs =>
    match dropWord? word (c :: cs) with
    | some rest => some ([], rest)
    | none => (cutAt? word cs).map fun (before, rest) => (c :: before, rest)

/-- Whether `word` occurs in the text. -/
def occursIn (word cs : List Char) : Bool :=
  (cutAt? word cs).isSome

/-- The text with the first occurrence of `word` replaced. -/
def replaceFirst (word new cs : List Char) : List Char :=
  match cutAt? word cs with
  | some (before, rest) => before ++ new ++ rest
  | none => cs

/-- Replacement from left to right; `skip` counts the characters of the current occurrence that
    are still to be passed over. -/
def replaceFrom (word new : List Char) : Nat → List Char → List Char
  | _, [] => []
  | skip + 1, _ :: cs => replaceFrom word new skip cs
  | 0, c :: cs =>
    if (dropWord? word (c :: cs)).isSome then new ++ replaceFrom word new (word.length - 1) cs
    else c :: replaceFrom word new 0 cs

/-- The text with every occurrence of the non-empty `word` replaced, from left to right and
    without overlaps. -/
def replaceAll (word new cs : List Char) : List Char :=
  if word.isEmpty then cs else replaceFrom word new 0 cs

/-- The pieces between the occurrences of the separator `sep`. There is always at least one. -/
def splitOn (sep : Char) : List Char → List (List Char)
  | [] => [[]]
  | c :: cs =>
    if c = sep then [] :: splitOn sep cs
    else match splitOn sep cs with
      | [] => [[c]]
      | s :: ss => (c :: s) :: ss

/-- The decimal value of a non-empty run of ASCII digits. -/
def natOfDigits? (cs : List Char) : Option Nat :=
  if cs.isEmpty || cs.any (fun c => !c.isDigit) then none
  else some (cs.foldl (fun n c => 10 * n + (c.toNat - '0'.toNat)) 0)

end InkWorkspace.Text
