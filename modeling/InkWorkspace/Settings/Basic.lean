import InkWorkspace.Disk

/- One snapshot of a project's configuration, and the paths that follow from it. -/
namespace InkWorkspace

open Text

/-- Which front end drives diagnostics and compilation. -/
inductive Engine where
  /-- The compiler's errors are reported as they are. -/
  | ink
  /-- Unknown labels and variables are provided by the host application, so a failing compile is
      repaired and tried again. -/
  | pixiVn
  deriving Repr, DecidableEq

namespace Engine

/-- The engine's name. -/
def name : Engine → String
  | ink => "Ink"
  | pixiVn => "PixiVn"

end Engine

/-- How documentation is rendered. -/
inductive Markup where
  | markdown
  | plain
  deriving Repr, DecidableEq

namespace Markup

/-- The name of the markup. -/
def name : Markup → String
  | markdown => "Markdown"
  | plain => "Plain"

end Markup

/-- What a run sees of the machine it runs on. -/
structure Host where
  disk : Disk
  home : String
  deriving Repr

namespace Host

/-- The folder that relative paths are taken from. -/
def workingFolder (host : Host) : Path :=
  ⟨true, host.disk.workingFolder.map .name⟩

/-- A leading `~` stands for the home folder, alone or in front of a slash. -/
def expandHome (host : Host) (text : String) : String :=
  match text.toList with
  | ['~'] => host.home
  | '~' :: '/' :: rest => host.home ++ String.ofList ('/' :: rest)
  | _ => text

end Host

/-- A project's configuration. -/
structure Settings where
  engine : Engine := .ink
  markup : Markup := .markdown
  /-- Replaces the workspace folder as the project root. -/
  rootFolder : Option String := none
  /-- The file that is compiled when none is named. -/
  mainFile : Option String := none
  /-- The compiler's executable. -/
  compilerPath : String := "inklecate"
  /-- How many repairs a compile may make. -/
  maxRepairs : Nat := 32
  hover : Bool := true
  includeDiagnostics : Bool := true
  compilerDiagnostics : Bool := true
  deriving Repr, DecidableEq

namespace Settings

/-- A setting that names a path, trimmed; a blank one counts as absent. -/
def named (value : Option String) : Option String := do
  let text := trim (← value).toList
  if text.isEmpty then none else return String.ofList text

/-- The project root: the configured folder, or else the workspace folder. -/
def projectRoot (settings : Settings) (host : Host) (workspace : Path) : Path :=
  match named settings.rootFolder with
  | some folder => workspace.resolve (.ofString (host.expandHome folder))
  | none => workspace.normalize

/-- The configured main file, taken from the project root. -/
def mainPath? (settings : Settings) (root : Path) : Option Path :=
  (named settings.mainFile).map fun main => root.resolve (.ofString main)

end Settings

end InkWorkspace
