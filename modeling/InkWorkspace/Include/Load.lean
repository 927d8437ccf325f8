import InkWorkspace.Disk
import InkWorkspace.Source.File
import InkWorkspace.Include.Fresh

/- Following includes. The path of an include is taken from the project root, never from the folder
   of the including file. Files are read depth first in the order of the include lines, each at
   most once, so cycles end; a file that cannot be read is passed over. -/
namespace InkWorkspace

/-- The extension of ink files. -/
def inkExtension : String := "ink"

namespace InkFile

/-- The files that the include lines name, in order. -/
def targets (file : InkFile) (root : Path) : List Path :=
  file.includes.map fun inclusion => root.resolve (.ofString inclusion.path)

end InkFile

namespace Include

/-- Reads the pending files and what they include, leaving out what has been seen. Gives the files
    in the order in which they were read, and all paths seen. Pending paths are normalized. -/
def loadFrom (disk : Disk) (root : Path) (pending seen : List Path) : List InkFile × List Path :=
  match pending with
  | [] => ([], seen)
  | path :: rest =>
    if _hs : path ∈ seen then loadFrom disk root rest seen
    else if _hb : path ∈ disk.spellings then
      match disk.text? path with
      | none => loadFrom disk root rest (path :: seen)
      | some text =>
        let file := InkFile.read path text
        let (files, seen) := loadFrom disk root (file.targets root ++ rest) (path :: seen)
        (file :: files, seen)
    else loadFrom disk root rest (path :: seen)
termination_by (fresh disk.spellings seen, pending.length)
decreasing_by
  · exact Prod.Lex.right _ (Nat.lt_succ_self _)
  · exact Prod.Lex.left _ _ (fresh_cons_lt _hb _hs)
  · exact Prod.Lex.left _ _ (fresh_cons_lt _hb _hs)
  · exact Prod.Lex.right' _ (fresh_cons_le _ _ _) (Nat.lt_succ_self _)

/-- An entry file and everything it includes, the entry first. -/
def load (disk : Disk) (root entry : Path) : List InkFile :=
  (loadFrom disk root [root.resolve entry] []).1

/-- A file whose text is known and everything it includes, unless it has been seen. -/
def loadWith (disk : Disk) (root entry : Path) (text : String) (seen : List Path) :
    List InkFile × List Path :=
  let path := entry.normalize
  if path ∈ seen then ([], seen)
  else
    let file := InkFile.read path text
    let (files, seen) := loadFrom disk root (file.targets root) (path :: seen)
    (file :: files, seen)

/-- The paths of all ink files below a folder, hidden files and folders left out. -/
def inkPaths (disk : Disk) (folder : Path) : List Path :=
  match disk.locate folder with
  | .error _ => []
  | .ok place =>
    let paths := (disk.filesBelow place).map fun rest => folder.resolve ⟨false, rest.map .name⟩
    paths.filter fun path => path.extension? == some inkExtension

/-- All ink files below a folder that can be read. -/
def loadFolder (disk : Disk) (root folder : Path) : List InkFile :=
  (inkPaths disk (root.resolve folder)).filterMap fun path =>
    (disk.text? path).map (InkFile.read path)

end Include

end InkWorkspace
