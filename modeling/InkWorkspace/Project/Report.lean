import InkWorkspace.Project.Basic

/- The report on one file of a project: a line for each diagnostic, and whether any of them is an
   error. -/
namespace InkWorkspace

namespace Severity

/-- The severity in a report. -/
def word : Severity → String
  | error => "error"
  | warning => "warning"
  | information => "info"

end Severity

namespace Diagnostic

/-- The diagnostic as `path:line:column: severity: message`; lines and columns count from one. -/
def render (display : String) (diagnostic : Diagnostic) : String :=
  display ++ ":" ++ toString (diagnostic.range.start.line + 1) ++ ":" ++
    toString (diagnostic.range.start.character + 1) ++ ": " ++ diagnostic.severity.word ++ ": " ++
    diagnostic.message

end Diagnostic

/-- The report on a file. -/
structure Report where
  text : String
  failed : Bool
  deriving Repr, DecidableEq

namespace Report

/-- The report that shows the given diagnostics, each on a line of its own. -/
def ofDiagnostics (display : String) (diagnostics : List Diagnostic) : Report where
  text := String.join (diagnostics.map fun diagnostic => diagnostic.render display ++ "\n")
  failed := diagnostics.any (·.severity == .error)

end Report

namespace Project

variable {σ : Type}

/-- The diagnostics of a document of the project. Without a compiler they come from the index
    alone. -/
def diagnostics (disk : Disk) (project : Project) (compiler : Option (Compiler σ)) (path : Path)
    (text : String) (s : σ) : List Diagnostic × σ :=
  match compiler with
  | some compiler =>
    compiler.allDiagnostics disk project.story project.settings (some (project.story.handler disk))
      path text s
  | none => (project.story.indexDiagnostics disk project.settings path text, s)

/-- Checks a file as it is on disk. -/
def check (host : Host) (project : Project) (compiler : Option (Compiler σ)) (file : Path) (s : σ) :
    Except Failure Report × σ :=
  let path := host.workingFolder.resolve file
  match host.disk.readText path with
  | .error error => (.error (.unreadable path error), s)
  | .ok text =>
    let (diagnostics, s) := project.diagnostics host.disk compiler path text s
    (.ok (.ofDiagnostics (project.story.display path) diagnostics), s)

end Project

end InkWorkspace
