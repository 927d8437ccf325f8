import InkWorkspace.Server.Session

/- What an editor tells the server, and what follows from it: first the session takes it in, then
   the documents it concerns are diagnosed anew. Diagnostics are published unless the ledger knows
   newer ones. -/
namespace InkWorkspace

/-- What an editor tells the server. -/
inductive Event where
  /-- The editor is ready to be asked. -/
  | ready
  | opened (uri : Uri) (version : Int) (text : String)
  /-- Every text is a whole document; the last one counts. -/
  | changed (uri : Uri) (version : Int) (texts : List String)
  | saved (uri : Uri)
  | closed (uri : Uri)
  | configured (settings : Json)
  | filesChanged (changes : List FileChange)
  deriving Repr

/-- The compiler that is used under given settings. -/
abbrev Toolchain (σ : Type) := Settings → Compiler σ

namespace Session

variable {σ : Type}

/-- The session after it has taken in an event, and what it says about it. -/
def apply (runtime : Runtime σ) (host : Host) (session : Session) : Event → List Notice × Session
  | .ready => ([.watchFiles], session)
  | .opened uri version text => ([], session.openDocument host.disk uri version text)
  | .changed uri version texts =>
    ([], match texts.getLast? with
      | some text => session.updateDocument host.disk uri version text
      | none => session)
  | .saved _ => ([], session)
  | .closed uri => ([.diagnostics uri [] none], session.closeDocument host.disk uri)
  | .configured settings => { session with client := section? (some settings) }.reload runtime host
  | .filesChanged changes => ([], session.takeChanges host.disk changes)

/-- The documents to be diagnosed after an event that the session has taken in. -/
def concerned (runtime : Runtime σ) (session : Session) : Event → List Uri
  | .ready | .closed _ => []
  | .opened uri _ _ | .saved uri => [uri]
  | .changed uri _ texts => if texts.isEmpty then [] else [uri]
  | .configured _ => runtime.order session.uris
  | .filesChanged changes =>
    if changes.any fun change => (session.changedFile? change).isSome then
      runtime.order session.uris
    else []

/-- The diagnostics of an open document. Those of the index are found at once; the compiler runs as a
    task of its own, and what it finds is put in front of them. If the task breaks off, the index has
    the only word. -/
def diagnosticsPass (runtime : Runtime σ) (toolchain : Toolchain σ) (disk : Disk)
    (session : Session) (uri : Uri) (file : InkFile) (s : σ) : List Diagnostic × σ :=
  let story := session.story
  let found := story.indexDiagnostics disk session.settings file.path file.text
  match runtime.broken? uri with
  | some s => (found, s)
  | none =>
    let (compiled, s) := (toolchain session.settings).diagnostics session.settings file.text
      (some (story.handler disk)) s
    (compiled ++ found, s)

/-- Diagnoses an open document and publishes the result if it is not out of date. -/
def publish (runtime : Runtime σ) (toolchain : Toolchain σ) (disk : Disk) (session : Session)
    (uri : Uri) (s : σ) : List Notice × Session × σ :=
  match session.version? uri, session.ledger.session? uri, session.file? uri with
  | some version, some id, some file =>
    let (items, s) := session.diagnosticsPass runtime toolchain disk uri file s
    let (accepted, ledger) := session.ledger.commit uri id version
    (if accepted then [.diagnostics uri items (some version)] else [],
      { session with ledger := ledger }, s)
  | _, _, _ => ([], session, s)

/-- Diagnoses documents one after the other. -/
def publishAll (runtime : Runtime σ) (toolchain : Toolchain σ) (disk : Disk) :
    List Uri → Session → σ → List Notice × Session × σ
  | [], session, s => ([], session, s)
  | uri :: rest, session, s =>
    let (notices, session, s) := session.publish runtime toolchain disk uri s
    let (more, session, s) := publishAll runtime toolchain disk rest session s
    (notices ++ more, session, s)

/-- Takes in an event and diagnoses the documents it concerns. -/
def handle (runtime : Runtime σ) (toolchain : Toolchain σ) (host : Host) (session : Session)
    (event : Event) (s : σ) : List Notice × Session × σ :=
  let (notices, session) := session.apply runtime host event
  let (more, session, s) :=
    publishAll runtime toolchain host.disk (session.concerned runtime event) session s
  (notices ++ more, session, s)

end Session

end InkWorkspace
