import InkWorkspace.Line.Token
import InkWorkspace.Text.Scan

/- The shape of a single line of ink, as far as an index needs it: knot headers (`== name`),
   stitch headers (`= name`), include lines and declarations. Everything else is `other`; the
   grammar of ink itself belongs to the compiler. -/
namespace InkWorkspace

open Text

/-- Which declaration introduces a global. -/
inductive VariableKind where
  | var
  | const
  | list
  deriving Repr, DecidableEq

namespace VariableKind

/-- The keyword as it is written. -/
def keyword : VariableKind → String
  | var => "VAR"
  | const => "CONST"
  | list => "LIST"

end VariableKind

/-- Whether a top-level header introduces a knot or a function. -/
inductive KnotKind where
  | knot
  | function
  deriving Repr, DecidableEq

/-- What one line of ink declares. -/
inductive LineShape where
  | knot (kind : KnotKind) (name : Token) (parameters : List String)
  | stitch (name : Token) (parameters : List String)
  | inclusion (path : String)
  | declaration (kind : VariableKind) (name : Token)
  | other
  deriving Repr, DecidableEq

namespace LineShape

/-- Splits off the longest leading run of characters that satisfy `p`. -/
def run (p : Char → Bool) (cs : List Char) : List Char × List Char :=
  (cs.takeWhile p, cs.dropWhile p)

/-- The parameters of a header: the trimmed, non-empty pieces between commas. -/
def parametersOf (inside : List Char) : List String :=
  (((splitOn ',' inside).map trim).filter fun piece => !piece.isEmpty).map String.ofList

/-- The parameter list behind a header's name, if one is opened and closed there. -/
def parametersAfter (rest : List Char) : List String :=
  match trimLeft rest with
  | '(' :: inside => if ')' ∈ inside then parametersOf (inside.takeWhile (· ≠ ')')) else []
  | _ => []

/-- The word at the start of `rest`, and what follows it; `before` stands in front of it. -/
def nameAt? (before rest : List Char) : Option (Token × List Char) :=
  let (word, tail) := run isWord rest
  if word.isEmpty then none else some (Token.after before word, tail)

/-- The keyword that turns a knot header into a function header. -/
def functionWord : List Char :=
  "function".toList

/-- Kind and name of a knot header whose equals signs and blanks are `before`. The word `function`
    is the kind only if blanks and another word follow it. -/
def knotName? (before rest : List Char) : Option (KnotKind × Token × List Char) :=
  let asFunction : Option (KnotKind × Token × List Char) := do
    let tail ← dropWord? functionWord rest
    let (gap, tail) := run isBlank tail
    if gap.isEmpty then none
    let (name, tail) ← nameAt? (before ++ functionWord ++ gap) tail
    return (.function, name, tail)
  asFunction <|> (nameAt? before rest).map fun (name, tail) => (.knot, name, tail)

/-- A header: blanks, equals signs, blanks and a name. Two or more equals signs introduce a knot,
    a single one a stitch. -/
def header? (line : List Char) : Option LineShape := do
  let (indent, rest) := run isBlank line
  let (marks, rest) := run (· == '=') rest
  let (gap, rest) := run isBlank rest
  let before := indent ++ marks ++ gap
  match marks.length with
  | 0 => none
  | 1 =>
    let (name, tail) ← nameAt? before rest
    return .stitch name (parametersAfter tail)
  | _ =>
    let (kind, name, tail) ← knotName? before rest
    return .knot kind name (parametersAfter tail)

/-- The trimmed path of an include line, if the line is one: blanks, `INCLUDE`, at least one blank
    and a path on the same line. -/
def includePath? (line : List Char) : Option String := do
  let rest ← dropWord? "INCLUDE".toList (trimLeft line)
  let (gap, path) := run isBlank rest
  if gap.isEmpty || path.isEmpty || '\n' ∈ path then none
  else return String.ofList (trimRight path)

/-- A declaration of the given kind: the keyword, blanks, a name, blanks and an equals sign. -/
def declaration? (kind : VariableKind) (line : List Char) : Option LineShape := do
  let (indent, rest) := run isBlank line
  let rest ← dropWord? kind.keyword.toList rest
  let (gap, rest) := run isBlank rest
  if gap.isEmpty then none
  let (name, tail) ← nameAt? (indent ++ kind.keyword.toList ++ gap) rest
  match trimLeft tail with
  | '=' :: _ => return .declaration kind name
  | _ => none

/-- The shape of a line: a header, an include, a declaration or none of them. -/
def classify (line : List Char) : LineShape :=
  (header? line <|> (includePath? line).map LineShape.inclusion <|> declaration? .var line <|>
    declaration? .const line <|> declaration? .list line).getD .other

end LineShape

end InkWorkspace
