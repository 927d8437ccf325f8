import InkWorkspace.Text.Fold
import InkWorkspace.Text.PrintTable
import InkWorkspace.Text.Scan
import InkWorkspace.Uri.FormTable
import InkWorkspace.Uri.Label

/- Domain names in their ASCII form. Letters are folded to lower case, special forms to plain ones,
   letters and marks are composed, and a label that still has other letters is written as `xn--`
   with its ASCII characters and a code for the rest: the distances between the other characters,
   in increasing order, as numbers of base 36 with thresholds that adapt to the distances so far.
   Many characters have no place in a domain name, which then has no such form. -/
namespace InkWorkspace.Uri

open Text

/-- A digit of base 36: the letters, then the figures. -/
def codeDigit (n : Nat) : Char :=
  if n < 26 then Char.ofNat ('a'.toNat + n) else Char.ofNat ('0'.toNat + (n - 26))

/-- Divides a distance by 35 until it is at most 455, and counts 36 for every time. -/
def dampen (distance steps : Nat) : Nat × Nat :=
  if 455 < distance then dampen (distance / 35) (steps + 36) else (distance, steps)
termination_by distance
decreasing_by omega

/-- The bias behind a distance, of which `count` have been written. -/
def adapt (distance count : Nat) (isFirst : Bool) : Nat :=
  let distance := if isFirst then distance / 700 else distance / 2
  let (distance, steps) := dampen (distance + distance / count) 0
  steps + 36 * distance / (distance + 38)

/-- The threshold of a digit at a position, which counts in steps of 36. -/
def threshold (bias position : Nat) : Nat :=
  max 1 (min 26 (position - bias))

/-- The digits of a distance. -/
def codeDigits (bias position distance : Nat) : List Char :=
  let t := threshold bias position
  if h : distance < t then [codeDigit distance]
  else
    codeDigit (t + (distance - t) % (36 - t)) ::
      codeDigits bias (position + 36) ((distance - t) / (36 - t))
termination_by distance
decreasing_by
  have := Nat.div_le_self (distance - threshold bias position) (36 - threshold bias position)
  have : 1 ≤ threshold bias position := by unfold threshold; omega
  omega

/-- The state of writing a label: the code so far, the distance to be written next, the bias, and
    how many characters have been handled, of which `plain` are ASCII. -/
structure LabelCode where
  code : List Char
  distance : Nat
  bias : Nat
  handled : Nat
  plain : Nat
  deriving Repr, DecidableEq

namespace LabelCode

/-- Passes over a character of the label while `point` is being written. -/
def pass (point : Nat) (state : LabelCode) (c : Char) : LabelCode :=
  if c.toNat < point then { state with distance := state.distance + 1 }
  else if c.toNat = point then
    { state with
      code := state.code ++ codeDigits state.bias 36 state.distance
      bias := adapt state.distance (state.handled + 1) (state.handled = state.plain)
      distance := 0
      handled := state.handled + 1 }
  else state

/-- Writes the characters with the given numbers, which increase; `next` is the least number that
    has not been handled. -/
def writeAll (label : List Char) : (points : List Nat) → (next : Nat) → LabelCode → LabelCode
  | [], _, state => state
  | point :: rest, next, state =>
    let state := { state with
      distance := state.distance + (point - next) * (state.handled + 1) }
    let state := label.foldl (pass point) state
    writeAll label rest (point + 1) { state with distance := state.distance + 1 }

end LabelCode

/-- A label in its ASCII form. -/
def encodeLabel (label : List Char) : List Char :=
  let plain := label.filter (·.toNat < 128)
  if plain.length = label.length then label
  else
    let points := ((label.filter (·.toNat ≥ 128)).map Char.toNat).eraseDups.mergeSort (· ≤ ·)
    let start : LabelCode := ⟨[], 0, 72, plain.length, plain.length⟩
    "xn--".toList ++ plain ++ (if plain.isEmpty then [] else ['-']) ++
      (LabelCode.writeAll label points 128 start).code

/-- The value of a digit of base 36. -/
def digitValue? (c : Char) : Option Nat :=
  if c.isLower then some (c.toNat - 'a'.toNat)
  else if c.isDigit then some (c.toNat - '0'.toNat + 26)
  else none

/-- Reads the digits of a distance; gives it with the text behind them. `weight` is what the next
    digit counts. -/
def readDistance? (bias position weight : Nat) : List Char → Option (Nat × List Char)
  | [] => none
  | c :: rest => do
    let digit ← digitValue? c
    let t := threshold bias position
    if digit < t then return (digit * weight, rest)
    else
      let (more, rest) ← readDistance? bias (position + 36) (weight * (36 - t)) rest
      return (digit * weight + more, rest)

/-- Reads the code of a label: `point` and `place` are the number and the place of the last
    character put into `label`. `fuel` bounds the number of characters. -/
def readCode? : (fuel : Nat) → (bias point place : Nat) → (label code : List Char) →
    (isFirst : Bool) → Option (List Char)
  | _, _, _, _, label, [], _ => some label
  | 0, _, _, _, _, _, _ => none
  | fuel + 1, bias, point, place, label, code, isFirst => do
    let (distance, rest) ← readDistance? bias 36 1 code
    let count := label.length + 1
    let point := point + (place + distance) / count
    let place := (place + distance) % count
    if 0x10FFFF < point || (0xD800 ≤ point && point < 0xE000) then none
    let label := label.take place ++ Char.ofNat point :: label.drop place
    readCode? fuel (adapt distance count isFirst) point (place + 1) label rest false

/-- The label that is written as `xn--` and a code. The last hyphen, unless it stands in front of
    all, divides the ASCII characters from the rest. -/
def decodeLabel? (code : List Char) : Option (List Char) :=
  let tail := (code.reverse.takeWhile (· ≠ '-')).reverse
  let plain := code.take (code.length - tail.length - 1)
  if plain.isEmpty && tail.length < code.length then none
  else readCode? (tail.length + 1) 72 128 0 plain tail true

/-- What a special form of other characters stands for. -/
def plainOf? (c : Char) : Option (List Char) :=
  let sole := soleForms.findSome? fun line => findPair? (fun form _ => form = c) line.toList
  let joint := jointForms.findSome? fun line =>
    (splitOn ' ' line.toList).find? fun word => word.head? = some c
  (sole.map fun (_, plain) => [plain]) <|> joint.map (·.drop 1)

/-- Whether a character that is no special form may not stand in a domain name. Joiners may, where
    they fit. -/
def isBarred (c : Char) : Bool :=
  let n := c.toNat
  n ≠ 0x200C && n ≠ 0x200D && (covers n unprintableRanges || covers n barredSymbols)

/-- A character as it stands in a domain name, if it may stand there. The sharp s and the final
    sigma are letters of their own. -/
def mapDomainChar? (c : Char) : Option (List Char) :=
  let n := c.toNat
  if n < 128 then some [c.toLower]
  else if covers n ignoredInDomain then some []
  else if n = 0x3002 || n = 0xFF61 then some ['.']
  else if 0xFF01 ≤ n && n ≤ 0xFF5E then some [(Char.ofNat (n - 0xFEE0)).toLower]
  else if n = 0x1E9E then some [Char.ofNat 0xDF]
  else if n = 0x130 then some ['i', Char.ofNat 0x307]
  else if n = 0x3C2 then some [c]
  else if covers n barredForms then none
  else
    let plain := (plainOf? c).getD [caseFold c]
    if plain = [c] && isBarred c then none else some plain

/-- A domain name in its normal form, if all its characters have one. -/
def normalizeDomain? (name : List Char) : Option (List Char) :=
  (name.mapM mapDomainChar?).map fun pieces => compose pieces.flatten

/-- How many characters a label may have that needs a code, and how many a code. -/
def longestLabel : Nat := 1000

@[inherit_doc longestLabel]
def longestCode : Nat := 2000

/-- The label that a label in normal form stands for, if it may be one: behind `xn--` stands the
    code of a label in normal form that needs one. -/
def openLabel? (label : List Char) : Option (List Char) := do
  let opened ← match dropWord? "xn--".toList label with
    | none => some label
    | some code => do
      let opened ← decodeLabel? code
      if label.any (·.toNat ≥ 128) || opened.all (·.toNat < 128) ||
        normalizeDomain? opened ≠ some opened || longestCode < code.length then none
      else some opened
  if isLabel opened && (opened.all (·.toNat < 128) || opened.length ≤ longestLabel) then some opened
  else none

/-- A domain name in its ASCII form, if it has one. If one label has letters from right to left, all
    labels have to have one clear direction. -/
def domainToAscii? (name : List Char) : Option (List Char) := do
  let labels := splitOn '.' (← normalizeDomain? name)
  let opened ← labels.mapM openLabel?
  if opened.any runsRight && !opened.all hasOneDirection then none
  else return ['.'].intercalate (labels.map encodeLabel)

end InkWorkspace.Uri
