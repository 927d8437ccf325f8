import InkWorkspace.Include.Graph
import InkWorkspace.PathMap
import InkWorkspace.Settings.Basic

/- The index of an ink project: its files and which of them include which. It is built once from the
   project's folder and then kept up to date one document at a time: an edit replaces everything
   that the document contributed. -/
namespace InkWorkspace

/-- The index of a project. -/
structure Story where
  root : Path
  files : PathMap InkFile
  graph : IncludeGraph
  deriving Repr, DecidableEq

namespace Story

/-- The files of a map with more files added, those that are there already left alone. -/
def addFiles (files : PathMap InkFile) (more : List InkFile) : PathMap InkFile :=
  more.foldl (fun files file => files.insertNew file.path file) files

/-- The index without files. -/
def empty (root : Path) : Story :=
  ⟨root.normalize, .empty, .empty⟩

/-- The ink files below a folder, as far as they can be read. -/
def scan (disk : Disk) (root : Path) : PathMap InkFile :=
  addFiles .empty ((Include.inkPaths disk root).filterMap fun path =>
    (disk.text? path).map (InkFile.read path))

/-- The main file and everything it includes, unless the main file has been scanned. -/
def mainFiles (disk : Disk) (settings : Settings) (root : Path) (scanned : PathMap InkFile) :
    List InkFile :=
  match settings.mainPath? root with
  | some path => if scanned.contains path then [] else Include.load disk root path
  | none => []

/-- Completes the scanned files to the index of a project by the main file and everything that is
    included, wherever it lies. The include lines of the scanned files are followed in the order in
    which `order` lists the files. -/
def complete (disk : Disk) (settings : Settings) (root : Path) (scanned : PathMap InkFile)
    (order : List InkFile) : Story :=
  let main := mainFiles disk settings root scanned
  let targets := order.flatMap (·.targets root)
  let included := (Include.loadFrom disk root targets scanned.keys).1
  let files := addFiles scanned (main ++ included)
  ⟨root, files, .build files.values root⟩

/-- Indexes a project: every ink file below the root, the main file, and everything they include. -/
def build (disk : Disk) (settings : Settings) (root : Path) : Story :=
  let root := root.normalize
  let scanned := scan disk root
  complete disk settings root scanned scanned.values

/-- Replaces everything a document contributed by what its new text declares. If its include lines
    changed, files that are now included and not indexed yet are read from disk. -/
def update (disk : Disk) (story : Story) (path : Path) (text : String) : Story :=
  let path := path.normalize
  let file := InkFile.read path text
  let changed := (story.files.find? path).all fun old => old.includes ≠ file.includes
  let files := story.files.insert path file
  if changed then
    let files := addFiles files
      (Include.loadFrom disk story.root (file.targets story.root) files.keys).1
    ⟨story.root, files, .build files.values story.root⟩
  else { story with files := files }

/-- Drops a file from the index. -/
def remove (story : Story) (path : Path) : Option InkFile × Story :=
  let path := path.normalize
  match story.files.find? path with
  | none => (none, story)
  | some file =>
    let files := story.files.erase path
    (some file, ⟨story.root, files, .build files.values story.root⟩)

/-- Whether another indexed file includes the path. -/
def isIncluded (story : Story) (path : Path) : Bool :=
  story.files.values.any fun file => file.path ≠ path && path ∈ file.targets story.root

/-- Number of indexed files. -/
def fileCount (story : Story) : Nat :=
  story.files.size

/-- The indexed file at a path. -/
def file? (story : Story) (path : Path) : Option InkFile :=
  story.files.find? path

/-- A path relative to the project root, if there is a way from one to the other. -/
def relative? (story : Story) (path : Path) : Option Path :=
  path.relativeTo? story.root

/-- A path relative to the project root, for display. -/
def display (story : Story) (path : Path) : String :=
  path.display story.root

/-- The text of an editor line of an indexed file. -/
def line? (story : Story) (path : Path) (line : Nat) : Option (List Char) := do
  (← story.file? path).line? line

/-- The text of a file: the indexed one, or else what is on disk. -/
def contents (disk : Disk) (story : Story) (path : Path) : Except FileError String :=
  match story.file? path with
  | some file => .ok file.text
  | none => disk.readText path

/-- The text of a file that is spelled in some way: the indexed one, or else what is on disk. -/
def contentsAt (disk : Disk) (story : Story) (spelling : Spelling) : Except FileError String :=
  match story.file? spelling.path with
  | some file => .ok file.text
  | none => disk.readSpelled spelling

/-- The texts of all indexed files. -/
def texts (story : Story) : PathMap String :=
  story.files.mapValues (·.text)

end Story

end InkWorkspace
