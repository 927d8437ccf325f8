import InkWorkspace.Disk
import InkWorkspace.PathMap
import InkWorkspace.Text.Lines

/- What a compiler is given to find included files: a way from an include's name to the full name of a
   file, and from there to its text. Both may be any functions. The files of a project are one such
   handler (`FileHandler.ofFiles`). -/
namespace InkWorkspace

open Text

/-- How included files are found and loaded. Includes of new names that nest deeper than `depth` are
    not followed: they may nest without end, and then no compiler answers. -/
structure FileHandler where
  /-- The full name of an included file. -/
  resolve : String → String
  /-- The text of a file, given its full name. -/
  load : String → Except FileError String
  depth : Nat

namespace FileHandler

/-- The text that an include of this name brings in. -/
def included? (handler : FileHandler) (name : String) : Option String :=
  (handler.load (handler.resolve name)).toOption

/-! ## The files of a project -/

/-- The text of a file. Loaded texts hide what is on disk. -/
def loadFile (texts : PathMap String) (disk : Disk) (name : String) : Except FileError String :=
  let path := Path.ofString name
  match texts.find? path with
  | some text => .ok text
  | none => disk.readText path

/-- All texts that can be loaded. -/
def allTexts (texts : PathMap String) (disk : Disk) : List String :=
  texts.values ++ disk.entries.filterMap fun (_, entry) => entry.text?

/-- Number of lines of all texts that can be loaded. Behind its first name, no chain of includes of new
    names is longer. -/
def lineTotal (texts : PathMap String) (disk : Disk) : Nat :=
  (allTexts texts disk).foldr (fun text total => (lines text.toList).length + total) 0

/-- The handler of a project: names are taken from the root. -/
def ofFiles (root : Path) (texts : PathMap String) (disk : Disk) : FileHandler where
  resolve name := (root.resolve (.ofString name)).render
  load := loadFile texts disk
  depth := lineTotal texts disk + 1

end FileHandler

end InkWorkspace
