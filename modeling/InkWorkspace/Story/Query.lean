import InkWorkspace.Story.Basic

/- Looking things up in the index. Items of several files come in the order of the paths and, within
   a file, in the order of the lines; of several definitions of one name the last in that order
   wins. -/
namespace InkWorkspace

open Text

/-- Where a name leads: a knot, a stitch of a knot, or a variable, and the file it stands in. -/
inductive Definition where
  | knot (path : Path) (knot : Knot)
  | stitch (path : Path) (knot : Knot) (stitch : Stitch)
  | global (path : Path) (declared : Variable)
  deriving Repr, DecidableEq

namespace Definition

/-- The file of the definition. -/
def path : Definition → Path
  | knot path _ => path
  | stitch path _ _ => path
  | global path _ => path

/-- The line of the definition. -/
def line : Definition → Nat
  | knot _ k => k.line
  | stitch _ _ s => s.line
  | global _ v => v.line

/-- The range of the defined name. -/
def range : Definition → Range
  | knot _ k => k.range
  | stitch _ _ s => s.range
  | global _ v => v.range

/-- `Knot`, `Knot.Stitch` or the name of the variable. -/
def qualifiedName : Definition → String
  | knot _ k => k.name
  | stitch _ _ s => s.qualifiedName
  | global _ v => v.name

/-- Whether two definitions stand on the same line of the same file. -/
def sameSite (a b : Definition) : Bool :=
  a.path = b.path && a.line = b.line

/-- Whether the first definition stands in front of the second, by path and then by line. -/
def before (a b : Definition) : Bool :=
  a.path.before b.path || (a.path = b.path && a.line < b.line)

end Definition

namespace Story

/-- The items that `items` finds in all files, each with its file. -/
def collect {α : Type} (story : Story) (items : InkFile → List α) : List (Path × α) :=
  story.files.values.flatMap fun file => (items file).map fun item => (file.path, item)

/-- The items that `items` finds in one file. -/
def collectIn {α : Type} (story : Story) (items : InkFile → List α) (path : Path) : List α :=
  (story.file? path).elim [] items

/-- All knots. -/
def knots (story : Story) : List (Path × Knot) :=
  story.collect (·.knots)

/-- The stitches of a knot, each with its knot. -/
def stitchesOf (knot : Knot) : List (Knot × Stitch) :=
  knot.stitches.map fun stitch => (knot, stitch)

/-- All stitches of knots, each with its knot. -/
def stitches (story : Story) : List (Path × Knot × Stitch) :=
  story.collect fun file => file.knots.flatMap stitchesOf

/-- All variables. -/
def globals (story : Story) : List (Path × Variable) :=
  story.collect (·.globals)

/-- All diverts. -/
def diverts (story : Story) : List (Path × Divert) :=
  story.collect (·.diverts)

/-- The knot that a name stands for: the last definition of that name. -/
def knot? (story : Story) (name : String) : Option (Path × Knot) :=
  (story.knots.filter fun (_, knot) => knot.name == name).getLast?

/-- The variable that a name stands for: the last definition of that name. -/
def global? (story : Story) (name : String) : Option (Path × Variable) :=
  (story.globals.filter fun (_, v) => v.name == name).getLast?

/-- The knots of the project in groups of one name each. -/
def knotsByName (story : Story) : List (List (Path × Knot)) :=
  (story.knots.map fun (_, knot) => knot.name).eraseDups.map fun name =>
    story.knots.filter fun (_, knot) => knot.name == name

/-- The knots of a group that its last one hides, each with that one. -/
def hiddenIn (group : List (Path × Knot)) : List (Definition × Definition) :=
  match group.getLast? with
  | none => []
  | some (winnerPath, winner) =>
    group.dropLast.map fun (path, knot) => (.knot path knot, .knot winnerPath winner)

/-- The knots that the last ones of their groups hide, in the order of their places. -/
def shadowedAmong (groups : List (List (Path × Knot))) : List (Definition × Definition) :=
  ((groups.filter (·.length > 1)).flatMap hiddenIn).mergeSort fun a b => !b.1.before a.1

/-- The knots that a later definition of the same name hides, each with the one that wins. -/
def shadowedKnots (story : Story) : List (Definition × Definition) :=
  shadowedAmong story.knotsByName

/-- The knot whose body contains a line of a file. -/
def enclosingKnot? (story : Story) (path : Path) (line : Nat) : Option (Path × Knot) := do
  let file ← story.file? path
  return (path, ← file.enclosingKnot? line)

/-- The stitch of that name in the knot around a line. -/
def localStitch? (story : Story) (path : Path) (line : Nat) (name : String) :
    Option Definition := do
  let (path, knot) ← story.enclosingKnot? path line
  return .stitch path knot (← knot.stitch? name)

/-- Where a divert target written on a line leads. `Knot.Stitch` names a stitch of a knot, `.Stitch`
    a stitch of the surrounding knot, and `Name` a stitch of the surrounding knot or else a knot. -/
def resolve? (story : Story) (path : Path) (line : Nat) (target : String) : Option Definition :=
  match (splitOn '.' target.toList).map String.ofList with
  | [name] =>
    story.localStitch? path line name <|>
      (story.knot? name).map fun (path, knot) => .knot path knot
  | [knotName, stitchName] =>
    if knotName.isEmpty then story.localStitch? path line stitchName
    else do
      let (path, knot) ← story.knot? knotName
      return .stitch path knot (← knot.stitch? stitchName)
  | _ => none

/-- The header of a knot, or of one of its stitches, at a position. -/
def headerIn? (path : Path) (position : Position) (knot : Knot) : Option Definition :=
  if knot.range.contains position then some (.knot path knot)
  else (knot.stitches.find? (·.range.contains position)).map fun stitch =>
    .stitch path knot stitch

/-- The knot or stitch whose header is at a position. -/
def headerAt? (story : Story) (path : Path) (position : Position) : Option Definition := do
  let file ← story.file? path
  file.knots.findSome? (headerIn? path position)

/-- The divert at a position. -/
def divertAt? (story : Story) (path : Path) (position : Position) : Option Divert := do
  let file ← story.file? path
  file.diverts.find? (·.range.contains position)

end Story

end InkWorkspace
