import InkWorkspace.Server.Event
import InkWorkspace.Editor.Search
import InkWorkspace.Project.Bundle

/- What an editor asks the server, and the server's answers. A server is started once and stopped
   once: until it is started and after it is stopped it refuses every request and ignores
   every event. -/
namespace InkWorkspace

/-- What an editor says about itself when it starts the server. -/
structure Opening where
  folders : List Uri
  rootUri : Option Uri
  /-- The editor's settings. -/
  options : Option Json
  deriving Repr

/-- A question about the project. -/
inductive Query where
  | completions (uri : Uri) (position : Position)
  | definition (uri : Uri) (position : Position)
  | hover (uri : Uri) (position : Position)
  | references (uri : Uri) (position : Position) (withDeclaration : Bool)
  | symbols (uri : Uri)
  | search (text : String)
  | execute (command : String) (arguments : List Json)
  deriving Repr

/-- What an editor asks. -/
inductive Request where
  | start (opening : Opening)
  | stop
  | query (query : Query)
  deriving Repr

/-- The server's answer. -/
inductive Reply where
  | capabilities
  | nothing
  | completions (items : List Completion)
  | locations (items : List Location)
  | hover (text : MarkupText)
  | symbols (items : List DocumentSymbol)
  | found (items : List ProjectSymbol)
  | bundle (bundle : Bundle)
  deriving Repr

/-- Why a request is refused. -/
inductive RequestError where
  | notInitialized
  | invalidRequest
  | unknownMethod
  | invalidParams (detail : String)
  | unknownCommand (name : String)
  deriving Repr, DecidableEq

namespace RequestError

/-- The number of the error. -/
def code : RequestError → Int
  | notInitialized => -32002
  | invalidRequest => -32600
  | unknownMethod => -32601
  | invalidParams _ | unknownCommand _ => -32602

/-- The error in words. -/
def message : RequestError → String
  | notInitialized => "Server not initialized"
  | invalidRequest => "Invalid request"
  | unknownMethod => "Method not found"
  | invalidParams detail => detail
  | unknownCommand name => "unknown command " ++ name

end RequestError

namespace Opening

/-- The workspace folder: the first of the folders, or else the root. -/
def workspace? (opening : Opening) : Option Path :=
  opening.folders.head?.bind Uri.toPath? <|> opening.rootUri.bind Uri.toPath?

end Opening

namespace Reply

/-- An answer that may be missing. -/
def ofOption {α : Type} (reply : α → Reply) (answer : Option α) : Reply :=
  answer.elim nothing reply

end Reply

namespace Session

/-- The command that compiles a story. -/
def compileCommand : String := "inkline.compileStory"

/-- Starts the session of a workspace. -/
def start {σ : Type} (runtime : Runtime σ) (host : Host) (session : Session) (opening : Opening) :
    List Notice × Session :=
  { session with
    workspace := opening.workspace?
    client := section? opening.options }.reload runtime host

/-- The file to be compiled: the one that the arguments name, or else the configured main file. -/
def entry? (session : Session) (arguments : List Json) : Option Path :=
  let named : Option Path := match arguments with
    | .str uri :: _ => (Uri.parse? uri).bind Uri.toPath?
    | _ => none
  named.map Path.normalize <|> session.settings.mainPath? session.story.root

variable {σ : Type}

/-- Compiles a story. -/
def compile (toolchain : Toolchain σ) (disk : Disk) (session : Session) (arguments : List Json)
    (s : σ) : Except Failure Bundle × σ :=
  match session.entry? arguments with
  | some entry =>
    (toolchain session.settings).bundle disk session.story session.settings entry s
  | none => (.error .noEntry, s)

/-- Answers a question about the project. A compile that fails is told to the user. -/
def answer (toolchain : Toolchain σ) (disk : Disk) (session : Session) (query : Query) (s : σ) :
    Except RequestError Reply × List Notice × σ :=
  let story := session.story
  let at? (uri : Uri) : Option Path := uri.toPath?.map Path.normalize
  let reply (reply : Reply) : Except RequestError Reply × List Notice × σ := (.ok reply, [], s)
  match query with
  | .completions uri position => reply <| .ofOption .completions do
    story.completions? session.settings (← at? uri) position
  | .definition uri position => reply <| .ofOption .locations do
    story.gotoDefinition? (← at? uri) position
  | .hover uri position => reply <| .ofOption .hover do
    story.hover? session.settings (← at? uri) position
  | .references uri position withDeclaration => reply <| .ofOption .locations do
    story.references? (← at? uri) position withDeclaration
  | .symbols uri => reply <| .ofOption .symbols do story.symbols? (← at? uri)
  | .search text => reply (.found (story.search text))
  | .execute command arguments =>
    if command = compileCommand then
      match session.compile toolchain disk arguments s with
      | (.ok bundle, s) => (.ok (.bundle bundle), [], s)
      | (.error failure, s) =>
        (.ok .nothing, [.shown .error ("inkline: " ++ failure.message)], s)
    else (.error (.unknownCommand command), [], s)

end Session

/-- Where a server is in its life. -/
inductive Phase where
  | fresh
  | running
  | stopped
  deriving Repr, DecidableEq

/-- A server: its session, and what its compiler remembers. -/
structure Server (σ : Type) where
  phase : Phase
  session : Session
  memory : σ

namespace Server

variable {σ : Type}

/-- A server that has not been started. -/
def fresh (memory : σ) : Server σ := ⟨.fresh, .blank, memory⟩

/-- Why a server in some phase refuses a question, if it does. -/
def refusal? : Phase → Option RequestError
  | .fresh => some .notInitialized
  | .running => none
  | .stopped => some .invalidRequest

/-- Why a server in some phase refuses to be started, if it does. -/
def startRefusal? : Phase → Option RequestError
  | .fresh => none
  | _ => some .invalidRequest

/-- Takes in an event. -/
def notify (runtime : Runtime σ) (toolchain : Toolchain σ) (host : Host) (server : Server σ)
    (event : Event) : List Notice × Server σ :=
  match server.phase with
  | .running =>
    let (notices, session, memory) :=
      server.session.handle runtime toolchain host event server.memory
    (notices, { server with session := session, memory := memory })
  | _ => ([], server)

/-- Answers a request. -/
def request (runtime : Runtime σ) (toolchain : Toolchain σ) (host : Host) (server : Server σ)
    (request : Request) : Except RequestError Reply × List Notice × Server σ :=
  match request with
  | .start opening =>
    match startRefusal? server.phase with
    | some error => (.error error, [], server)
    | none =>
      let (notices, session) := server.session.start runtime host opening
      (.ok .capabilities, notices, { server with phase := .running, session := session })
  | .stop =>
    match refusal? server.phase with
    | some error => (.error error, [], server)
    | none => (.ok .nothing, [], { server with phase := .stopped })
  | .query query =>
    match refusal? server.phase with
    | some error => (.error error, [], server)
    | none =>
      let (reply, notices, memory) :=
        server.session.answer toolchain host.disk query server.memory
      (reply, notices, { server with memory := memory })

end Server

end InkWorkspace
