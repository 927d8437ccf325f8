import InkWorkspace.Text.Fold
import InkWorkspace.Text.Grapheme
import InkWorkspace.Text.Scan

/- Search patterns. A query is a list of atoms between spaces, all of which must match: `foo`
   matches fuzzily, `^foo` at the start, `foo$` at the end, `'foo` anywhere in one piece, `^foo$`
   as a whole, and `!foo` must not occur. A backslash takes the meaning from a mark or a space. -/
namespace InkWorkspace.Fuzzy

open Text

/-- How an atom matches. -/
inductive AtomKind where
  | fuzzy
  | substring
  | start
  | finish
  | exact
  deriving Repr, DecidableEq

/-- One part of a pattern. -/
structure Atom where
  kind : AtomKind
  negative : Bool
  needle : List Char
  /-- Whether the needle is plain ASCII text. -/
  ascii : Bool
  /-- Case does not count. It counts as soon as the needle has an upper case letter. -/
  ignoreCase : Bool
  /-- Diacritics of Latin letters do not count. They count as soon as the needle has one. -/
  ignoreMarks : Bool
  deriving Repr, DecidableEq

/-- Whether a text is plain ASCII. -/
def isAscii (cs : List Char) : Bool :=
  cs.all (·.toNat < 128)

/-- The text with every `\ ` read as a space. -/
def unescapeSpaces : List Char → List Char
  | '\\' :: ' ' :: rest => ' ' :: unescapeSpaces rest
  | c :: rest => c :: unescapeSpaces rest
  | [] => []

/-- The query cut at its spaces; a space behind a backslash does not cut. -/
def pieces : (escaped : Bool) → List Char → List (List Char)
  | _, [] => [[]]
  | escaped, c :: cs =>
    if c = ' ' && !escaped then [] :: pieces false cs
    else match pieces (c = '\\') cs with
      | [] => [[c]]
      | s :: ss => (c :: s) :: ss

/-- The needle of an atom, of which `dollar` tells that a literal dollar sign follows. -/
def atomOf (kind : AtomKind) (negative dollar : Bool) (text : List Char) : Atom :=
  let ascii := isAscii text
  let body := if ascii then unescapeSpaces text else unescapeSpaces (clusterHeads text)
  { kind := kind
    negative := negative
    needle := if dollar then body ++ ['$'] else body
    ascii := ascii
    ignoreCase := body.all fun c => (caseFold? c).isNone
    ignoreMarks := ascii || body.all fun c => latinBase c = c }

/-- Splits off the mark of a negative atom. -/
def negation : List Char → Bool × List Char
  | '!' :: rest => (true, rest)
  | '\\' :: '!' :: rest => (false, '!' :: rest)
  | text => (false, text)

/-- Splits off the mark at the start of an atom. -/
def startMark : List Char → AtomKind × List Char
  | '^' :: rest => (.start, rest)
  | '\'' :: rest => (.substring, rest)
  | '\\' :: '^' :: rest => (.fuzzy, '^' :: rest)
  | '\\' :: '\'' :: rest => (.fuzzy, '\'' :: rest)
  | text => (.fuzzy, text)

/-- Splits off the mark at the end of an atom, and tells whether it was a literal dollar sign. -/
def endMark (kind : AtomKind) (text : List Char) : AtomKind × Bool × List Char :=
  match dropEnd? ['\\', '$'] text, dropEnd? ['$'] text with
  | some rest, _ => (kind, true, rest)
  | none, some rest => (if kind = .fuzzy then .finish else .exact, false, rest)
  | none, none => (kind, false, text)

/-- Reads one atom. -/
def parseAtom (text : List Char) : Atom :=
  let (negative, text) := negation text
  let (kind, text) := startMark text
  let (kind, dollar, text) := endMark kind text
  atomOf (if negative && kind = .fuzzy then .substring else kind) negative dollar text

/-- Reads a query. Atoms without a needle have no meaning and are left out. -/
def parse (query : String) : List Atom :=
  ((pieces false query.toList).map parseAtom).filter fun atom => !atom.needle.isEmpty

end InkWorkspace.Fuzzy
