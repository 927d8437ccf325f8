import InkWorkspace.Wire.Params
import InkWorkspace.Wire.Reply

/- Messages between an editor and the server. A message with an `id` is a request and is answered;
   one without is an event. -/
namespace InkWorkspace.Wire

open Params

/-- What an editor sends: a request or an event, as far as it can be read. -/
inductive Incoming where
  | request (request : Request)
  | event (event : Event)
  /-- A request whose parameters are wrong; `starts` tells whether it would start the server. -/
  | faultyRequest (starts : Bool) (error : ParamError)
  /-- An event whose parameters are wrong. -/
  | faultyEvent
  | unknown
  deriving Repr

/-- How the parameters of a method are read. -/
inductive Method where
  | start (read : Reader Opening)
  | stop
  | query (read : Reader Query)
  | event (read : Reader Event)

namespace Method

/-- Reads a message of a method. -/
def incoming (method : Method) (params : Json) : Incoming :=
  match method with
  | start read =>
    match read params with
    | .ok opening => .request (.start opening)
    | .error error => .faultyRequest true error
  | stop => .request .stop
  | query read =>
    match read params with
    | .ok asked => .request (.query asked)
    | .error error => .faultyRequest false error
  | event read =>
    match read params with
    | .ok told => .event told
    | .error _ => .faultyEvent

end Method

/-- The methods of the messages that the server understands, with what they mean. -/
def methods : List (String × Method) :=
  [("initialize", .start opening),
    ("shutdown", .stop),
    ("initialized", .event fun _ => return .ready),
    ("textDocument/didOpen", .event <| given "textDocument" fun document => do
      return .opened (← given "uri" address document) (← given "version" signed document)
        (← given "text" text document)),
    ("textDocument/didChange", .event fun params => do
      let changes ← given "contentChanges" (items (given "text" text)) params
      return .changed (← document params) (← given "textDocument" (given "version" signed) params)
        changes),
    ("textDocument/didSave", .event fun params => return .saved (← document params)),
    ("textDocument/didClose", .event fun params => return .closed (← document params)),
    ("workspace/didChangeConfiguration", .event fun params =>
      return .configured (← given "settings" anything params)),
    ("workspace/didChangeWatchedFiles", .event fun params =>
      return .filesChanged (← given "changes" (items fileChange) params)),
    ("textDocument/completion", .query fun params => do
      let (document, position) ← spot params
      return .completions document position),
    ("textDocument/definition", .query fun params => do
      let (document, position) ← spot params
      return .definition document position),
    ("textDocument/hover", .query fun params => do
      let (document, position) ← spot params
      return .hover document position),
    ("textDocument/references", .query fun params => do
      let withDeclaration ← given "context" (given "includeDeclaration" truth) params
      let (document, position) ← spot params
      return .references document position withDeclaration),
    ("textDocument/documentSymbol", .query fun params => return .symbols (← document params)),
    ("workspace/symbol", .query fun params => return .search (← given "query" text params)),
    ("workspace/executeCommand", .query fun params => do
      let arguments ← given? "arguments" (items anything) params
      return .execute (← given "command" text params) (arguments.getD []))]

/-- Reads a message, given its method and its parameters. -/
def incoming (method : String) (params : Json) : Incoming :=
  match methods.lookup method with
  | some method => method.incoming params
  | none => .unknown

/-- A message in the envelope of the protocol. -/
def envelope (members : List (String × Json)) : Json :=
  .obj (("jsonrpc", .str "2.0") :: members)

/-- A notice as a message. The wish to watch files is a request of the server's own. -/
def notice (n : Notice) : Json :=
  let id : List (String × Json) := match n with
    | .watchFiles => [("id", .int 0)]
    | _ => []
  envelope (id ++ [("method", .str (noticeMethod n)), ("params", noticeParams n)])

/-- The answer to the request with an id. -/
def response (id : Json) (result : Except RequestError Reply) : Json :=
  envelope [("id", id), match result with
    | .ok answer => ("result", reply answer)
    | .error error => ("error", requestError error)]

variable {σ : Type}

/-- Why a request with wrong parameters is refused. A server that would refuse it anyway does so
    for that reason. -/
def faultOf (server : Server σ) (starts : Bool) (error : ParamError) : RequestError :=
  let refusal := if starts then Server.startRefusal? server.phase else Server.refusal? server.phase
  refusal.getD (.invalidParams error.message)

/-- Takes in a message; gives what the server sends, in order. An answer to a request of the
    server's own calls for nothing. -/
def exchange (runtime : Runtime σ) (toolchain : Toolchain σ) (host : Host) (server : Server σ)
    (message : Json) : List Json × Server σ :=
  match message.get? "method", message.get? "id" with
  | some (.str method), some id =>
    let refuse (error : RequestError) : List Json × Server σ :=
      ([response id (.error error)], server)
    match incoming method ((message.get? "params").getD .null) with
    | .request request =>
      let (result, notices, server) := server.request runtime toolchain host request
      (notices.map notice ++ [response id result], server)
    | .event _ | .faultyEvent => refuse .invalidRequest
    | .faultyRequest starts error => refuse (faultOf server starts error)
    | .unknown => refuse .unknownMethod
  | some (.str method), none =>
    match incoming method ((message.get? "params").getD .null) with
    | .event event =>
      let (notices, server) := server.notify runtime toolchain host event
      (notices.map notice, server)
    | _ => ([], server)
  | _, _ => ([], server)

end InkWorkspace.Wire
