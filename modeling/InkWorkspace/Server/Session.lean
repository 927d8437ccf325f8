import InkWorkspace.Diagnostic
import InkWorkspace.Ledger
import InkWorkspace.Settings.Load
import InkWorkspace.Uri

/- The state of an editing session: the settings, the index of the project, and the documents that
   are open in the editor. The text of an open document is the one the editor sent last; the text
   of any other file is the one on disk. -/
namespace InkWorkspace

/-- What the server tells the editor unasked. -/
inductive Notice where
  /-- A message for the user. -/
  | shown (severity : Severity) (text : String)
  /-- A line for the editor's log. -/
  | logged (severity : Severity) (text : String)
  /-- The diagnostics of a document, and the version of its text they belong to. -/
  | diagnostics (uri : Uri) (items : List Diagnostic) (version : Option Int)
  /-- A wish to be told when ink files change on disk. -/
  | watchFiles
  deriving Repr, DecidableEq

/-- What an editor reports about a file that changed outside it. -/
structure FileChange where
  uri : Uri
  deleted : Bool
  deriving Repr, DecidableEq

/-- What the runtime decides for the server while it takes in a message. The open documents are kept
    without an order, so it may go through them in any; and the tasks that scan the project and compile
    a document may break off. -/
structure Runtime (σ : Type) where
  order : List Uri → List Uri
  perm : ∀ uris, (order uris).Perm uris
  /-- Whether the scan of the project comes back. -/
  scans : Bool
  /-- What the compiler remembers after its task for a document broke off, if it did. -/
  broken? : Uri → Option σ

namespace Runtime

/-- Documents are taken in the order in which they were opened, and no task breaks off. -/
def steady {σ : Type} : Runtime σ := ⟨id, fun _ => .rfl, true, fun _ => none⟩

end Runtime

/-- What the server knows between two messages. -/
structure Session where
  /-- The folder that the editor has opened. -/
  workspace : Option Path
  /-- The settings that the editor has sent. -/
  client : Option Json
  settings : Settings
  story : Story
  /-- The open documents with their newest versions, the one opened first in front. -/
  documents : List (Uri × Int)
  ledger : Ledger Uri
  deriving Repr

namespace Session

/-- The session before anything is known. -/
def blank : Session where
  workspace := none
  client := none
  settings := {}
  story := .empty (.ofString ".")
  documents := []
  ledger := .empty

/-- The newest version of an open document. -/
def version? (session : Session) (uri : Uri) : Option Int :=
  session.documents.lookup uri

/-- Whether a document is open. -/
def isOpen (session : Session) (uri : Uri) : Bool :=
  (session.version? uri).isSome

/-- The addresses of the open documents. -/
def uris (session : Session) : List Uri :=
  session.documents.map Prod.fst

/-- The open documents with the version of one set. -/
def setVersion (uri : Uri) (version : Int) : List (Uri × Int) → List (Uri × Int)
  | [] => [(uri, version)]
  | (other, old) :: rest =>
    if other = uri then (uri, version) :: rest else (other, old) :: setVersion uri version rest

/-- The indexed file of a document. -/
def file? (session : Session) (uri : Uri) : Option InkFile := do
  session.story.file? (← uri.toPath?).normalize

/-- The editor's settings may stand in a section of their own. -/
def section? (settings : Option Json) : Option Json :=
  settings.map fun value => (value.get? "inkline").getD value

/-- An index with the text that the session has of a document. -/
def replay (disk : Disk) (session : Session) (story : Story) (uri : Uri) : Story :=
  match session.file? uri with
  | some file => story.update disk file.path file.text
  | none => story

/-- Loads the settings and indexes the project anew, from nothing if the scan does not come back.
    Unsaved texts of open documents survive: they are put back in whatever order. -/
def reload {σ : Type} (runtime : Runtime σ) (host : Host) (session : Session) :
    List Notice × Session :=
  let workspace := session.workspace.getD host.workingFolder
  let (settings, warnings) : Settings × List Notice :=
    match Settings.load host workspace session.client with
    | .ok settings => (settings, [])
    | .error error => ({}, [.shown .warning
        ("inkline: invalid configuration (" ++ error.message ++ "), using defaults")])
  let root := settings.projectRoot host workspace
  let scanned : Story := if runtime.scans then .build host.disk settings root else .empty root
  let story := (runtime.order session.uris).foldl (session.replay host.disk) scanned
  (warnings ++ [.logged .information ("inkline: indexed " ++ toString story.fileCount ++
      " ink files under " ++ root.render)],
    { session with settings := settings, story := story })

/-- Takes in a new text of a document. A document without a path cannot be indexed. -/
def updateDocument (disk : Disk) (session : Session) (uri : Uri) (version : Int) (text : String) :
    Session :=
  match uri.toPath? with
  | some path =>
    { session with
      documents := setVersion uri version session.documents
      story := session.story.update disk path text }
  | none => session

/-- Takes in a document that was opened. -/
def openDocument (disk : Disk) (session : Session) (uri : Uri) (version : Int) (text : String) :
    Session :=
  { session with ledger := (session.ledger.openSession uri).2 }.updateDocument disk uri version text

/-- The index after the file at a path is no longer open: a file of the project is read from disk,
    any other is dropped. A file is of the project if it lies below the root or is included. -/
def releaseFile (disk : Disk) (story : Story) (path : Path) : Story :=
  match disk.text? path with
  | some text =>
    if path.isUnder story.root || story.isIncluded path then story.update disk path text
    else (story.remove path).2
  | none => (story.remove path).2

/-- Takes in that a document was closed. -/
def closeDocument (disk : Disk) (session : Session) (uri : Uri) : Session :=
  { session with
    documents := session.documents.filter (·.1 ≠ uri)
    ledger := session.ledger.closeSession uri
    story := match uri.toPath? with
      | some path => releaseFile disk session.story path.normalize
      | none => session.story }

/-- The changed file, if the change matters: the file is an ink file and not open. -/
def changedFile? (session : Session) (change : FileChange) : Option Spelling := do
  let file ← change.uri.toSpelling?
  if file.path.extension? = some inkExtension && !session.isOpen change.uri then return file
  else none

/-- The index after a file changed on disk. -/
def refresh (disk : Disk) (session : Session) (story : Story) (change : FileChange) : Story :=
  match session.changedFile? change with
  | none => story
  | some file =>
    if change.deleted then (story.remove file.path).2
    else match disk.readSpelled file with
      | .ok text => story.update disk file.path text
      | .error _ => story

/-- Takes in changes on disk. -/
def takeChanges (disk : Disk) (session : Session) (changes : List FileChange) : Session :=
  { session with story := changes.foldl (session.refresh disk) session.story }

end Session

end InkWorkspace
