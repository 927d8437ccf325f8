import InkWorkspace.Line.Shape
import InkWorkspace.Position

/- What an ink file declares and refers to: knots and their stitches, variables, diverts and
   includes. Lines are counted from zero, and every item carries the range of its name. -/
namespace InkWorkspace

/-- A knot or stitch header. -/
structure Header where
  name : String
  parameters : List String
  line : Nat
  range : Range
  deriving Repr, DecidableEq

/-- A stitch (`= name`) of a knot. -/
structure Stitch extends Header where
  /-- Name of the knot that owns the stitch. -/
  knot : String
  deriving Repr, DecidableEq

/-- A named top-level unit of a story (`=== name ===`) with its stitches in file order. -/
structure Knot extends Header where
  kind : KnotKind
  stitches : List Stitch
  deriving Repr, DecidableEq

/-- A global declaration: `VAR`, `CONST` or `LIST`. -/
structure Variable where
  name : String
  kind : VariableKind
  line : Nat
  range : Range
  deriving Repr, DecidableEq

/-- A divert, with its target as written: `Knot`, `Knot.Stitch` or `.Stitch`. -/
structure Divert where
  target : String
  line : Nat
  range : Range
  deriving Repr, DecidableEq

/-- An `INCLUDE` line, with the path as written and the range of the whole line. -/
structure Inclusion where
  path : String
  line : Nat
  range : Range
  deriving Repr, DecidableEq

namespace Header

/-- The parameters in parentheses, or nothing if there are none. -/
def parameterList (h : Header) : String :=
  if h.parameters.isEmpty then "" else "(" ++ ", ".intercalate h.parameters ++ ")"

end Header

namespace Stitch

/-- `Knot.Stitch`. -/
def qualifiedName (s : Stitch) : String :=
  s.knot ++ "." ++ s.name

/-- The header as it would be written, such as `= intro(x)`. -/
def signature (s : Stitch) : String :=
  "= " ++ s.name ++ s.parameterList

/-- The header with the name of the knot, such as `= Start.intro(x)`. -/
def qualifiedSignature (s : Stitch) : String :=
  "= " ++ s.qualifiedName ++ s.parameterList

end Stitch

namespace Knot

/-- The first stitch of that name. -/
def stitch? (k : Knot) (name : String) : Option Stitch :=
  k.stitches.find? (·.name == name)

/-- The header as it would be written, such as `=== function greet(name) ===`. -/
def signature (k : Knot) : String :=
  let kind := match k.kind with
    | .knot => ""
    | .function => "function "
  "=== " ++ kind ++ k.name ++ k.parameterList ++ " ==="

end Knot

end InkWorkspace
