import InkWorkspace.Compiler.Handler
import InkWorkspace.Line.Shape

/- Staging: the external compiler reads included files from its working folder, so a text and all
   it includes are written into a scratch folder first. Plain relative names keep their place.
   Names that would leave the scratch folder are moved below `__external__` under a number of their
   own, and the lines that include them point there. -/
namespace InkWorkspace

open Text

/-- The scratch folder while includes are written to it: each include name met so far with its
    target, in order, and the files. -/
structure Staging where
  staged : List (String × String)
  scratch : Disk
  deriving Repr, DecidableEq

namespace Staging

/-- The folder for includes that live outside the root text's folder. -/
def externalFolder : String := "__external__"

/-- Whether a name stays inside the folder it is taken from. -/
def isContained (name : String) : Bool :=
  let path := Path.ofString name
  !path.absolute && path.parts.all (· ≠ .up)

/-- Where an include is written: under its own name if that is contained, otherwise under its file
    name with a number in front. -/
def targetOf (name : String) (index : Nat) : String :=
  if isContained name then name
  else
    externalFolder ++ "/" ++ toString index ++ "_" ++
      ((Path.ofString name).fileName?.getD "include.ink")

/-- The folders on the way to a location, made where they are missing. `above` is the part of the
    way that is there. -/
def makeWay (disk : Disk) (above : Place) : List FileName → Except FileError Disk
  | [] => .ok disk
  | name :: rest =>
    let folder := above ++ [name]
    match disk.entry? folder with
    | some .folder => makeWay disk folder rest
    | some (.file _) => .error (if rest.isEmpty then .alreadyThere else .notAFolder)
    | none =>
      if name.bytes.length > Disk.nameLimit then .error .nameTooLong
      else makeWay (disk.put folder .folder) folder rest

/-- The length of the path of a scratch folder with a slash behind it, in bytes. -/
def scratchLength : Nat := 16

/-- Why the text of a path in the scratch folder cannot even be looked up, if it cannot. -/
def textError? (text : List Char) : Option FileError :=
  if text.contains (Char.ofNat 0) then some .invalidName
  else if scratchLength + utf8Length text ≥ Disk.pathLimit then some .nameTooLong
  else none

/-- The pieces of a name without those at its end that say nothing. -/
def trimPieces (pieces : List (List Char)) : List (List Char) :=
  (pieces.reverse.dropWhile fun piece => piece.isEmpty || piece = ['.']).reverse

/-- The part of a name in front of its last component, as it is written. -/
def folderText (name : String) : List Char :=
  ['/'].intercalate (trimPieces (trimPieces (splitOn '/' name.toList)).dropLast)

/-- Why the file that a name spells cannot be written although its folder is there. A name that
    ends in a slash or in a dot asks for a folder. -/
def spellingError? (disk : Disk) (name : String) (place : Place) : Option FileError :=
  let tooLong := place.getLast?.any fun last => last.bytes.length > Disk.nameLimit
  let bare := name.toList.reverse.dropWhile (· == '/')
  if bare.takeWhile (· ≠ '/') = ['.'] then
    some (if tooLong then .nameTooLong else (disk.folderError? place).getD .isAFolder)
  else if name.toList.getLast? = some '/' || disk.entry? place = some .folder then some .isAFolder
  else if tooLong then some .nameTooLong
  else none

/-- The scratch folder with a file of that name, and the folders above it. -/
def writeFile (disk : Disk) (name text : String) : Except FileError Disk := do
  let place := (Path.ofString name).names
  if let some error := textError? (folderText name) then throw error
  let disk ← makeWay disk [] place.dropLast
  if let some error := textError? name.toList <|> spellingError? disk name place then throw error
  return disk.put place (.ofText text)

/-- How a text is staged: its lines with the includes pointing at their targets. -/
abbrev Stager := String → Staging → Except FileError (String × Staging)

/-- How includes are loaded: the text that a name brings in, if there is one. -/
abbrev Loader := String → Option String

/-- The target of an include. A name met for the first time is given one, and what it brings in is
    staged by `nested` and then written; a file that cannot be loaded is left for the compiler to
    report. -/
def place (load : Loader) (nested : Stager) (name : String) (staging : Staging) :
    Except FileError (String × Staging) :=
  match staging.staged.lookup name with
  | some target => .ok (target, staging)
  | none => do
    let target := targetOf name staging.staged.length
    let staging := { staging with staged := staging.staged ++ [(name, target)] }
    match load name with
    | none => return (target, staging)
    | some text =>
      let (text, staging) ← nested text staging
      return (target, { staging with scratch := ← writeFile staging.scratch target text })

/-- One line with its include, if it has one, pointing at the target. -/
def stageLine (load : Loader) (nested : Stager) (line : List Char) (staging : Staging) :
    Except FileError (List Char × Staging) :=
  match LineShape.includePath? line with
  | none => .ok (line, staging)
  | some name => do
    let (target, staging) ← place load nested name staging
    if target = name then return (line, staging)
    else return (replaceFirst name.toList target.toList line, staging)

/-- The lines of a text, one after the other. -/
def stageLines (load : Loader) (nested : Stager) : List (List Char) → Staging →
    Except FileError (List (List Char) × Staging)
  | [], staging => .ok ([], staging)
  | line :: rest, staging => do
    let (line, staging) ← stageLine load nested line staging
    let (rest, staging) ← stageLines load nested rest staging
    return (line :: rest, staging)

/-- Lines as one text. The last line has no ending. -/
def joinLines (lines : List (List Char)) : String :=
  String.ofList (['\n'].intercalate lines)

/-- Stages a text whose includes nest at most `depth` deep. -/
def stageTo (load : Loader) : (depth : Nat) → Stager
  | 0, text, staging => .ok (text, staging)
  | depth + 1, text, staging => do
    let (lines, staging) ← stageLines load (stageTo load depth) (lines text.toList) staging
    return (joinLines lines, staging)

/-- Stages a text and everything it includes. -/
def stage (handler : FileHandler) : Stager :=
  stageTo handler.included? (handler.depth + 1)

end Staging

end InkWorkspace
