import InkWorkspace.Settings.Basic
import InkWorkspace.Settings.Key
import InkWorkspace.Settings.Toml
import InkWorkspace.Json.Parser

/- Loading settings. Four layers are laid over each other, each hiding the one before it: the
   defaults, the user's file, the workspace's file and what the editor sends. -/
namespace InkWorkspace.Settings

/-- Numbers above the signed 64-bit range are kept to double precision. -/
def numberOf (n : Int) (origin : Option String) : Value :=
  if n < Nat.pow 2 63 then .int n origin
  else match Double.read? false n.toNat 0 with
    | some d => .double d origin
    | none => .int n origin

mutual

/-- A JSON value as a configuration value. -/
def ofJson (origin : Option String) : Json → Value
  | .null => .null origin
  | .bool b => .bool b origin
  | .int n => numberOf n origin
  | .double d => .double d origin
  | .str s => .str s origin
  | .arr _ => .list origin
  | .obj members => .table (ofMembers origin members) origin

/-- The members of a JSON object. -/
def ofMembers (origin : Option String) : List (String × Json) → List (String × Value)
  | [] => []
  | (name, value) :: members => (name, ofJson origin value) :: ofMembers origin members

end

/-- The defaults, as far as they are not simply absent. -/
def defaults : List (String × Value) :=
  [("engine", .str "Ink" none), ("markup", .str "Markdown" none),
    ("compiler_path", .str "inklecate" none), ("self_heal_max_iterations", .int 32 none),
    ("hover", .bool true none), ("include_diagnostics", .bool true none),
    ("compiler_diagnostics", .bool true none)]

/-- The members of a configuration file, given its kind and text. -/
def readSource (kind : String) (origin : Option String) (text : String) :
    Except ValueError (List (String × Value)) :=
  if kind = "toml" then
    match Toml.read? origin text.toList with
    | some members => .ok members
    | none => .error (.unreadable "the file is not well formed")
  else
    match Json.parse text with
    | .ok (.obj members) => .ok (ofMembers origin members)
    | .ok _ => .error (.unreadable "the file holds no table")
    | .error error => .error (.unreadable error.message)

/-- The path with `.kind` put behind its file name. -/
def withKind (path : Path) (kind : String) : Path :=
  match path.fileName? with
  | some name => ⟨path.absolute, path.parts.dropLast ++ (Path.ofString (name ++ "." ++ kind)).parts⟩
  | none => path

/-- The configuration file of that name, in either format. A file of the bare name hides both and
    is itself of no known format, and a file that cannot be read or is no text counts as absent. -/
def fileSource (host : Host) (path : Path) : Except ValueError (List (String × Value)) :=
  if host.disk.isFile path then .ok []
  else
    match ["json", "toml"].find? fun kind => host.disk.isFile (withKind path kind) with
    | none => .ok []
    | some kind =>
      let path := withKind path kind
      match host.disk.readText path with
      | .ok text => readSource kind (some (path.display host.workingFolder)) text
      | .error _ => .ok []

/-- The settings that a merged table describes. -/
def ofMembers? (members : List (String × Value)) : Except ValueError Settings := do
  let get (name : String) : Value := (members.lookup name).getD (.null none)
  return {
    engine := ← (get "engine").asVariant "Engine" [("Ink", .ink), ("PixiVn", .pixiVn)]
    markup := ← (get "markup").asVariant "Markup" [("Markdown", .markdown), ("Plain", .plain)]
    rootFolder := ← (get "root_folder").asText? "root_folder"
    mainFile := ← (get "main_file").asText? "main_file"
    compilerPath := ← (get "compiler_path").asText "compiler_path"
    maxRepairs := ← (get "self_heal_max_iterations").asCount "self_heal_max_iterations"
    hover := ← (get "hover").asBool "hover"
    includeDiagnostics := ← (get "include_diagnostics").asBool "include_diagnostics"
    compilerDiagnostics := ← (get "compiler_diagnostics").asBool "compiler_diagnostics" }

/-- The members that the editor sends. They count if they are an object, and are read from their
    written form like those of a file. -/
def editorSource : Option Json → Except ValueError (List (String × Value))
  | some (.obj members) => readSource "json" none (Json.obj members).compact
  | _ => .ok []

/-- Loads the settings of a workspace folder. -/
def load (host : Host) (workspace : Path) (client : Option Json) : Except ValueError Settings := do
  if !workspace.isText then throw .folderNotText
  let user ← fileSource host (.ofString (host.expandHome "~/.config/inkline/settings"))
  let project ← fileSource host (workspace.join (.ofString ".inkline"))
  let editor ← editorSource client
  ofMembers? ((user ++ project ++ editor).foldl laySource defaults)

end InkWorkspace.Settings
