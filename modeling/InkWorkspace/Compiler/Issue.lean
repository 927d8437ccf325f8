import InkWorkspace.Text.Scan

/- Compiler messages and the issues they stand for. A message such as
   `ERROR: 'main.ink' line 4: Divert target not found` becomes an issue on line 4 whose text has
   lost everything up to the colon behind the line number. -/
namespace InkWorkspace

open Text

/-- How the compiler tags a message. -/
inductive MessageKind where
  /-- A note of the author, such as a `TODO:` line. -/
  | author
  | warning
  | error
  deriving Repr, DecidableEq

/-- How grave an issue is. -/
inductive Severity where
  | error
  | warning
  | information
  deriving Repr, DecidableEq

namespace MessageKind

/-- The severity of an issue of that kind. -/
def severity : MessageKind → Severity
  | error => .error
  | warning => .warning
  | author => .information

end MessageKind

/-- A message as the compiler reports it. -/
structure Message where
  kind : MessageKind
  text : String
  deriving Repr, DecidableEq

/-- A problem reported by the compiler. The line counts from one; without a line the issue is about
    the file as a whole. -/
structure Issue where
  severity : Severity
  message : String
  line : Option Nat
  deriving Repr, DecidableEq

namespace Issue

/-- An ASCII capital. -/
def isCapital (c : Char) : Bool :=
  'A' ≤ c && c ≤ 'Z'

/-- The text behind leading capitalised words, which single spaces separate. `inside` tells that a
    capital stands directly in front. -/
def dropCapitals : (inside : Bool) → List Char → Option (List Char)
  | inside, [] => if inside then some [] else none
  | inside, c :: cs =>
    if isCapital c then dropCapitals true cs
    else if c = ' ' && inside && (cs.head?.any isCapital) then dropCapitals false cs
    else if inside then some (c :: cs) else none

/-- The text behind a quoted file name and blanks, or the text itself if it starts with none. -/
def dropQuoted (cs : List Char) : List Char :=
  match cs with
  | '\'' :: rest => if '\'' ∈ rest then trimLeft ((rest.dropWhile (· ≠ '\'')).drop 1) else cs
  | _ => cs

/-- The digits of a leading `line N`, and the text behind them. -/
def lineNumber? (cs : List Char) : Option (List Char × List Char) := do
  let rest ← dropWord? "line ".toList cs
  let digits := rest.takeWhile isDigit
  if digits.isEmpty then none else return (digits, rest.dropWhile isDigit)

/-- The text behind a leading tag with a line number: capitalised words and a colon, perhaps a
    quoted file, `line N:` and at most one blank. -/
def dropTag? (cs : List Char) : Option (List Char) := do
  match ← dropCapitals false cs with
  | ':' :: rest =>
    match ← lineNumber? (dropQuoted (trimLeft rest)) with
    | (_, ':' :: text) =>
      match text with
      | c :: more => return if isBlank c then more else text
      | [] => return []
    | _ => none
  | _ => none

/-- The digits of the first `line N` of a text. -/
def firstLineNumber? : List Char → Option (List Char)
  | [] => none
  | c :: cs =>
    match lineNumber? (c :: cs) with
    | some (digits, _) => some digits
    | none => firstLineNumber? cs

/-- A line number that fits 32 bits, in ASCII digits. -/
def lineOf? (digits : List Char) : Option Nat := do
  let n ← natOfDigits? digits
  if n < Nat.pow 2 32 then return n else none

/-- The issue that a message stands for. -/
def ofMessage (message : Message) : Issue where
  severity := message.kind.severity
  message := (dropTag? message.text.toList).elim message.text String.ofList
  line := (firstLineNumber? message.text.toList).bind lineOf?

end Issue

end InkWorkspace
