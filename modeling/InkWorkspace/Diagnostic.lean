import InkWorkspace.Compiler.Heal
import InkWorkspace.Story.Query
import InkWorkspace.Include.Check

/- Diagnostics of a document, from three sources: the compiler's issues, each on its whole line;
   include lines that name no ink file; and what only the index knows, duplicate knots and include
   cycles. Issues without a line are not shown. -/
namespace InkWorkspace

open Text

/-- A problem shown in a document. -/
structure Diagnostic where
  range : Range
  severity : Severity
  message : String
  deriving Repr, DecidableEq

namespace Diagnostic

/-- Names the program that diagnostics come from. -/
def source : String := "inkline"

/-- The diagnostic of an issue, on its line of the text. -/
def ofIssue? (text : String) (issue : Issue) : Option Diagnostic := do
  let number ← issue.line
  if number = 0 then none
  let line := (editorLines text.toList)[number - 1]?.getD []
  return ⟨Range.wholeLine (number - 1) line, issue.severity, issue.message⟩

/-- The diagnostics of the issues that have a line. -/
def ofIssues (text : String) (issues : List Issue) : List Diagnostic :=
  issues.filterMap (ofIssue? text)

/-- The diagnostic of an include problem. -/
def ofProblem (problem : Include.Problem) : Diagnostic where
  range := problem.inclusion.range
  severity := match problem.fault with
    | .missing => .error
    | .wrongExtension => .warning
  message := problem.message

end Diagnostic

namespace Story

/-- Warnings on the knot headers of a file that another definition hides. -/
def shadowDiagnostics (story : Story) (path : Path) : List Diagnostic :=
  (story.shadowedKnots.filter fun (shadowed, _) => shadowed.path = path).map
    fun (shadowed, winner) =>
      ⟨shadowed.range, .warning,
        "Duplicate knot '" ++ shadowed.qualifiedName ++ "': the definition in " ++
          story.display winner.path ++ " line " ++ toString (winner.line + 1) ++ " is used"⟩

/-- Notes on the include lines of a file that close a cycle. -/
def cycleDiagnostics (story : Story) (path : Path) : List Diagnostic :=
  (story.graph.cyclicIncludes path).filterMap fun (number, cycle) => do
    let line ← story.line? path number
    return ⟨Range.wholeLine number line, .information,
      "Include cycle: " ++ ", ".intercalate (cycle.map story.display)⟩

/-- The diagnostics that follow from the index of the project alone. -/
def graphDiagnostics (story : Story) (path : Path) : List Diagnostic :=
  story.shadowDiagnostics path ++ story.cycleDiagnostics path

/-- The diagnostics of a document that need no compiler. -/
def indexDiagnostics (disk : Disk) (story : Story) (settings : Settings) (path : Path)
    (text : String) : List Diagnostic :=
  (if settings.includeDiagnostics then
    (Include.problems disk story.root text).map Diagnostic.ofProblem else []) ++
    story.graphDiagnostics path

/-- What the compiler is given to find the files of the project. -/
def handler (disk : Disk) (story : Story) : FileHandler :=
  .ofFiles story.root story.texts disk

end Story

namespace Compiler

variable {σ : Type}

/-- The compiler's diagnostics of a text, if they are on. -/
def diagnostics (compiler : Compiler σ) (settings : Settings) (text : String)
    (handler : Option FileHandler) (s : σ) : List Diagnostic × σ :=
  if settings.compilerDiagnostics then
    let (issues, s) := compiler.issuesWith settings text handler s
    (Diagnostic.ofIssues text issues, s)
  else ([], s)

/-- All diagnostics of a text in one go: the compiler's, and then those of the index. -/
def allDiagnostics (compiler : Compiler σ) (disk : Disk) (story : Story) (settings : Settings)
    (handler : Option FileHandler) (path : Path) (text : String) (s : σ) : List Diagnostic × σ :=
  let (compiled, s) := compiler.diagnostics settings text handler s
  (compiled ++ story.indexDiagnostics disk settings path text, s)

end Compiler

end InkWorkspace
