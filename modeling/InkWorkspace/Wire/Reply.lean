import InkWorkspace.Server.Request
import InkWorkspace.Wire.Project

/- JSON forms of what the server sends: answers, notices and refusals. -/
namespace InkWorkspace.Wire

/-- What the server can do. Documents are synchronized as whole texts. -/
def capabilities : Json :=
  .obj [
    ("textDocumentSync", .obj [("openClose", .bool true), ("change", .int 1),
      ("save", .bool true)]),
    ("completionProvider", .obj [("triggerCharacters", strings [">", "-", " "])]),
    ("hoverProvider", .bool true),
    ("definitionProvider", .bool true),
    ("referencesProvider", .bool true),
    ("documentSymbolProvider", .bool true),
    ("workspaceSymbolProvider", .bool true),
    ("executeCommandProvider", .obj [("commands", strings [Session.compileCommand])])]

/-- The server's name and version. -/
def serverInfo : Json :=
  .obj [("name", .str "inkline"), ("version", .str "0.1.0")]

/-- An answer. -/
def reply : Reply → Json
  | .capabilities => .obj [("capabilities", capabilities), ("serverInfo", serverInfo)]
  | .nothing => .null
  | .completions items => completions items
  | .locations items => list location items
  | .hover text => hover text
  | .symbols items => list documentSymbol items
  | .found items => list projectSymbol items
  | .bundle b => bundle b

/-- A refusal. -/
def requestError (error : RequestError) : Json :=
  .obj [("code", .int error.code), ("message", .str error.message)]

/-- The registration for changes of ink files. -/
def watchRegistration : Json :=
  .obj [("id", .str "inkline-watch-ink"), ("method", .str "workspace/didChangeWatchedFiles"),
    ("registerOptions", .obj [("watchers",
      .arr [.obj [("globPattern", .str ("**/*." ++ inkExtension))]])])]

/-- The method of a notice. -/
def noticeMethod : Notice → String
  | .shown _ _ => "window/showMessage"
  | .logged _ _ => "window/logMessage"
  | .diagnostics _ _ _ => "textDocument/publishDiagnostics"
  | .watchFiles => "client/registerCapability"

/-- The parameters of a notice. -/
def noticeParams : Notice → Json
  | .shown level text | .logged level text =>
    .obj [("type", severity level), ("message", .str text)]
  | .diagnostics uri items version =>
    .obj ([("uri", .str uri.render), ("diagnostics", list diagnostic items)] ++
      member? "version" .int version)
  | .watchFiles => .obj [("registrations", .arr [watchRegistration])]

end InkWorkspace.Wire
