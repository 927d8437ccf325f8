import InkWorkspace.Path
import InkWorkspace.Text.Column

/- The file system as a value: folders and files by location. Reading gives a text or the cause
   why there is none, and nothing here depends on the order in which entries were written. -/
namespace InkWorkspace

open Text

/-- Why the file system refused a request. -/
inductive FileError where
  | notFound
  | denied
  | alreadyThere
  | notAFolder
  | isAFolder
  | nameTooLong
  | invalidName
  | notText
  | other (text : String)
  deriving Repr, DecidableEq

namespace FileError

/-- The error in words. -/
def message : FileError → String
  | notFound => "No such file or directory (os error 2)"
  | denied => "Permission denied (os error 13)"
  | alreadyThere => "File exists (os error 17)"
  | notAFolder => "Not a directory (os error 20)"
  | isAFolder => "Is a directory (os error 21)"
  | nameTooLong => "File name too long (os error 36)"
  | invalidName => "file name contained an unexpected NUL byte"
  | notText => "stream did not contain valid UTF-8"
  | other text => text

end FileError

/-- What stands at a location. -/
inductive Entry where
  | folder
  | file (bytes : List UInt8)
  deriving Repr, DecidableEq

namespace Entry

/-- A file with a text. -/
def ofText (text : String) : Entry :=
  file (utf8 text.toList)

/-- The text of an entry. A folder has none, and neither has a file whose bytes are no UTF-8. -/
def text? : Entry → Option String
  | folder => none
  | file bytes => decode? bytes

end Entry

/-- A place in the folder tree: the names on the way down from the root. -/
abbrev Place := List FileName

/-- A folder tree, and the folder in it that relative paths are taken from. The root folder is
    always there. -/
structure Disk where
  entries : List (Place × Entry)
  workingFolder : Place
  deriving Repr, DecidableEq

namespace Disk

/-- A tree that holds nothing but its root. -/
def empty : Disk := ⟨[], []⟩

/-- What stands at a location. -/
def entry? (disk : Disk) (place : Place) : Option Entry :=
  if place.isEmpty then some .folder else disk.entries.lookup place

/-- Why a location cannot be entered as a folder, if it cannot. -/
def folderError? (disk : Disk) (place : Place) : Option FileError :=
  match disk.entry? place with
  | some .folder => none
  | some (.file _) => some .notAFolder
  | none => some .notFound

/-- The longest name a folder can hold, in bytes. -/
def nameLimit : Nat := 255

/-- The least length of a path that is too long to be followed, in bytes. -/
def pathLimit : Nat := 4096

/-- Follows path components from a folder. Every component but the last must lead to a folder. -/
def follow (disk : Disk) : List Component → Place → Except FileError Place
  | [], place => .ok place
  | component :: rest, place =>
    match disk.folderError? place with
    | some error => .error error
    | none =>
      match component with
      | .here => disk.follow rest place
      | .up => disk.follow rest place.dropLast
      | .name name =>
        if name.bytes.length > nameLimit then .error .nameTooLong
        else disk.follow rest (place ++ [name])

/-- Why a path cannot even be looked up, if it cannot. -/
def pathError? (path : Path) : Option FileError :=
  if path.parts.any fun part => part.bytes.contains 0 then some .invalidName
  else if path.length ≥ pathLimit then some .nameTooLong
  else none

/-- The location that a path leads to, whether or not anything stands there. The empty path leads
    nowhere. -/
def locate (disk : Disk) (path : Path) : Except FileError Place :=
  match pathError? path with
  | some error => .error error
  | none =>
    if path.absolute then disk.follow path.parts []
    else if path.parts.isEmpty then .error .notFound
    else disk.follow path.parts disk.workingFolder

/-- What stands at the end of a path. -/
def find? (disk : Disk) (path : Path) : Option Entry :=
  match disk.locate path with
  | .ok place => disk.entry? place
  | .error _ => none

/-- Whether anything stands at the end of a path. -/
def has (disk : Disk) (path : Path) : Bool :=
  (disk.find? path).isSome

/-- Whether a path leads to a file. -/
def isFile (disk : Disk) (path : Path) : Bool :=
  match disk.find? path with
  | some (.file _) => true
  | _ => false

/-- Whether a path leads to a folder. -/
def isFolder (disk : Disk) (path : Path) : Bool :=
  disk.find? path == some .folder

/-- The bytes of a file. -/
def readBytes (disk : Disk) (path : Path) : Except FileError (List UInt8) := do
  match disk.entry? (← disk.locate path) with
  | some (.file bytes) => return bytes
  | some .folder => throw .isAFolder
  | none => throw .notFound

/-- The text of a file. -/
def readText (disk : Disk) (path : Path) : Except FileError String := do
  match decode? (← disk.readBytes path) with
  | some text => return text
  | none => throw .notText

/-- The text of a file that is spelled in some way. A spelling that asks for a folder leads to no
    file. -/
def readSpelled (disk : Disk) (spelling : Spelling) : Except FileError String := do
  if spelling.asFolder && disk.isFile spelling.path then throw .notAFolder
  disk.readText spelling.path

/-- The text of a file, if it can be read. -/
def text? (disk : Disk) (path : Path) : Option String :=
  (disk.readText path).toOption

/-- The tree with an entry put at a location. -/
def put (disk : Disk) (place : Place) (entry : Entry) : Disk :=
  { disk with entries := disk.entries.filter (·.1 ≠ place) ++ [(place, entry)] }

/-- The tree with all missing folders on the way to a location. -/
def makeFolders (disk : Disk) (place : Place) : Disk :=
  (List.range place.length).foldl (fun disk n =>
    let folder := place.take (n + 1)
    if (disk.entry? folder).isSome then disk else disk.put folder .folder) disk

/-- The tree with an entry and all folders above it. -/
def write (disk : Disk) (place : Place) (entry : Entry) : Disk :=
  (disk.makeFolders place.dropLast).put place entry

/-- The tree that holds these texts, each at the end of a path. -/
def ofTexts (texts : List (String × String)) : Disk :=
  texts.foldl (fun disk (path, text) => disk.write (Path.ofString path).names (.ofText text)) empty

/-- The tree without a location and all below it. -/
def remove (disk : Disk) (place : Place) : Disk :=
  { disk with entries := disk.entries.filter fun (other, _) => !place.isPrefixOf other }

/-- Whether a name is hidden from folder walks. Only a text can be. -/
def isHidden (name : FileName) : Bool :=
  name.text?.any fun text => text.toList.head? == some '.'

/-- The names on the way from a folder to every file below it, hidden files and folders left out.
    A file is below itself. -/
def filesBelow (disk : Disk) (folder : Place) : List Place :=
  disk.entries.filterMap fun (place, entry) =>
    match entry with
    | .file _ =>
      let rest := place.drop folder.length
      if folder.isPrefixOf place && rest.all (fun name => !isHidden name) then some rest else none
    | .folder => none

/-- The normal paths that lead to a place, if a file stands there: spelled from the root, once more
    from above it, as the parent of the root is the root, and so far as they can be from the
    working folder and from the folder above it. -/
def spellingsOf (disk : Disk) (place : Place) : List Path :=
  let above := disk.workingFolder.dropLast
  [⟨true, place.map .name⟩, ⟨true, .up :: place.map .name⟩] ++
    (if disk.workingFolder.isPrefixOf place then
      [⟨false, (place.drop disk.workingFolder.length).map .name⟩] else []) ++
    if above.isPrefixOf place then [⟨false, .up :: (place.drop above.length).map .name⟩] else []

/-- The paths of all files. Every normal path that can be read is among them. -/
def spellings (disk : Disk) : List Path :=
  disk.entries.flatMap fun (place, entry) =>
    match entry with
    | .file _ => disk.spellingsOf place
    | .folder => []

end Disk

end InkWorkspace
