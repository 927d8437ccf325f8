import InkWorkspace.Project.Bundle
import InkWorkspace.Compiler.Program
import InkWorkspace.Settings.Load
import InkWorkspace.Editor.Outline

/- A project on disk: its settings and its index, loaded for one run over it. -/
namespace InkWorkspace

/-- A project's settings and its index. -/
structure Project where
  settings : Settings
  story : Story
  deriving Repr, DecidableEq

namespace Project

/-- Loads the settings of a workspace folder and indexes the project root that they name. Relative
    paths are taken from `base`. -/
def load (host : Host) (base workspace : Path) : Except Failure Project :=
  let workspace := base.resolve workspace
  match Settings.load host workspace none with
  | .error error => .error (.settings error)
  | .ok settings =>
    let root := settings.projectRoot host workspace
    if host.disk.isFolder root then .ok ⟨settings, .build host.disk settings root⟩
    else .error (.notAFolder root)

/-- Loads the project around a file: the workspace folder is the given one, or else the folder of
    the file. -/
def around (host : Host) (base file : Path) (workspace : Option Path) : Except Failure Project :=
  load host base (workspace.getD (((base.resolve file).parent?).getD base))

/-- The compiler that the settings name, started by a launcher. -/
def compiler {σ : Type} (host : Host) (launcher : Launcher σ) (settings : Settings) : Compiler σ :=
  Program.compiler (host.expandHome settings.compilerPath) launcher

/-- Compiles a file of the project. -/
def bundle {σ : Type} (host : Host) (project : Project) (compiler : Compiler σ) (file : Path)
    (s : σ) : Except Failure Bundle × σ :=
  compiler.bundle host.disk project.story project.settings (host.workingFolder.resolve file) s

end Project

end InkWorkspace
