import InkWorkspace.Diagnostic
import InkWorkspace.Json.Parser
import InkWorkspace.Settings.Value

/- Compiling one file of a project into a bundle: the story with the engine and the markup it is
   meant for and the names that repairs have added. -/
namespace InkWorkspace

/-- Why work on a project stopped. -/
inductive Failure where
  /-- The settings cannot be loaded. -/
  | settings (error : Settings.ValueError)
  /-- The project root is no folder. -/
  | notAFolder (path : Path)
  /-- A file cannot be read. -/
  | unreadable (path : Path) (error : FileError)
  /-- The compiler gave no story. -/
  | compile (error : CompileError)
  /-- The compiled story is no JSON. -/
  | malformed (error : Json.ParseError)
  /-- No file is named, and none is configured. -/
  | noEntry
  deriving Repr, DecidableEq

namespace Failure

/-- The failure in words, without what caused it. -/
def message : Failure → String
  | settings error => error.message
  | notAFolder path => path.render ++ " is not a directory"
  | unreadable path _ => "cannot read " ++ path.render
  | compile error => error.message
  | malformed error => error.message
  | noEntry => "no story to compile: pass a file or set main_file"

/-- The failure and what caused it, each in words. -/
def chain (failure : Failure) : List String :=
  match failure with
  | unreadable _ error => [failure.message, error.message]
  | compile error => error.chain
  | _ => [failure.message]

/-- The failure in one line. -/
def render (failure : Failure) : String :=
  ": ".intercalate failure.chain

end Failure

/-- A compiled story with what its player has to know about it. -/
structure Bundle where
  engine : Engine
  markup : Markup
  story : Json
  patches : Patches
  deriving Repr

namespace Bundle

/-- The bundle of a compiled story, if the story is well-formed JSON. -/
def ofStory (settings : Settings) (healed : HealedStory) : Except Failure Bundle :=
  match Json.parse healed.json with
  | .ok story => .ok ⟨settings.engine, settings.markup, story, healed.patches⟩
  | .error error => .error (.malformed error)

end Bundle

namespace Compiler

variable {σ : Type}

/-- Compiles the file at a path, given the index of its project. -/
def bundle (compiler : Compiler σ) (disk : Disk) (story : Story) (settings : Settings)
    (entry : Path) (s : σ) : Except Failure Bundle × σ :=
  match story.contents disk entry with
  | .error error => (.error (.unreadable entry error), s)
  | .ok text =>
    match compiler.compileWith settings text (some (story.handler disk)) s with
    | (.ok healed, s) => (Bundle.ofStory settings healed, s)
    | (.error error, s) => (.error (.compile error), s)

end Compiler

end InkWorkspace
