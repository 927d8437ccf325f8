import InkWorkspace.CommandLine
import InkWorkspace.Wire.Message

/- The program itself. It looks at the part of the file system that a command needs, hands it over
   as a value, and prints what comes back. Links are not followed, and no other program is started,
   so a compile finds no compiler. -/
namespace InkWorkspace.Terminal

/-- The bytes of a file as an entry of the folder tree. -/
def readEntry (path : Path) : IO Entry := do
  return .file (← IO.FS.readBinFile path.render).toList

/-- What stands at a path on the real disk. -/
def entryAt? (path : Path) : IO (Option Entry) := do
  try
    match (← ((← IO.currentDir) / path.render).symlinkMetadata).type with
    | .dir => return some .folder
    | .file => return some (← readEntry path)
    | _ => return none
  catch _ => return none

/-- The names in a folder. -/
def namesIn (path : Path) : IO (List String) := do
  try return (← ((← IO.currentDir) / path.render).readDir).toList.map (·.fileName)
  catch _ => return []

/-- Whether a name is worth a look: hidden files are, if they may hold settings. -/
def isOfInterest (name : String) : Bool :=
  name.toList.head? != some '.' || ".inkline".isPrefixOf name

/-- The place that a path names. -/
def placeOf (path : Path) : Place :=
  path.normalize.names

/-- Adds what stands at a path, and below it if it is a folder. -/
partial def survey (disk : Disk) (path : Path) : IO Disk := do
  match ← entryAt? path with
  | none => return disk
  | some (.file bytes) => return disk.write (placeOf path) (.file bytes)
  | some .folder =>
    let mut disk := disk.makeFolders (placeOf path)
    for name in (← namesIn path) do
      if isOfInterest name then
        disk ← survey disk (path.join (.ofString name))
    return disk

/-- The files that the includes of a project and of some further files lead to. -/
def wanted (host : Host) (settings : Settings) (root : Path) (files : List Path) : List Path :=
  let indexed := (Story.build host.disk settings root).files.values
  let reached := files.flatMap (Include.load host.disk root)
  files ++ (settings.mainPath? root).toList ++ (indexed ++ reached).flatMap (·.targets root)

/-- Adds files until every include is answered. -/
partial def complete (host : Host) (settings : Settings) (root : Path) (files : List Path) :
    IO Host := do
  let mut disk := host.disk
  for path in wanted host settings root files do
    unless disk.has path do
      if let some entry ← entryAt? path then
        disk := disk.write (placeOf path) entry
  if disk.entries.length = host.disk.entries.length then return host
  complete { host with disk := disk } settings root files

/-- Looks at a workspace folder, the settings that hold there, and the files they lead to. -/
def look (workspace : Option Path) (client : Option Json) (files : List Path) : IO Host := do
  let home := (← IO.getEnv "HOME").getD ""
  let working := Path.ofString (toString (← IO.currentDir))
  let workspace := working.resolve (workspace.getD working)
  let start : Disk := { Disk.empty with workingFolder := placeOf working }
  let disk ← survey (← survey start (.ofString (home ++ "/.config/inkline"))) workspace
  let host : Host := ⟨disk, home⟩
  let settings := (Settings.load host workspace client).toOption.getD {}
  let root := settings.projectRoot host workspace
  let disk ← if root.isUnder workspace then pure disk else survey disk root
  complete { host with disk := disk } settings root (files.map working.resolve)

/-- Looks at what a command needs. -/
def lookFor : Command → IO Host
  | .serve => look none none []
  | .outline root => look (some (.ofString root)) none []
  | .check file root _ | .compile file root => do
    let file := Path.ofString file
    let folder := (Path.ofString (toString (← IO.currentDir))).resolve file |>.parent?
    look ((root.map Path.ofString) <|> folder) none [file]

/-- No program can be started. -/
def launcher : Launcher Unit where
  run _ s := (.error .notFound, s)

/-- Reads the length that the head of a message announces. Nothing is left if there is no head. -/
partial def readLength (input : IO.FS.Stream) (length : Option Nat) : IO (Option Nat) := do
  let line := (← input.getLine).toList
  if line.isEmpty then return none
  let text := Text.trim line
  if text.isEmpty then return some (length.getD 0)
  match Text.dropWord? "Content-Length:".toList text with
  | some digits => readLength input (Text.natOfDigits? (Text.trim digits))
  | none => readLength input length

/-- Reads a number of bytes, or fewer at the end of the input. -/
partial def readBytes (input : IO.FS.Stream) (count : Nat) (done : ByteArray) : IO ByteArray := do
  if done.size ≥ count then return done
  let more ← input.read (count - done.size).toUSize
  if more.isEmpty then return done
  readBytes input count (done ++ more)

/-- Sends a message. -/
def send (output : IO.FS.Stream) (message : Json) : IO Unit := do
  let text := message.compact
  output.putStr ("Content-Length: " ++ toString text.utf8ByteSize ++ "\r\n\r\n" ++ text)
  output.flush

/-- Serves an editor until it says goodbye or the input ends. -/
partial def serve (input output : IO.FS.Stream) (server : Server Unit) : IO Unit := do
  let some length ← readLength input none | return
  let bytes ← readBytes input length .empty
  match (Text.decode? bytes.toList).map Json.parse with
  | some (.ok message) =>
    if message.get? "method" matches some (.str "exit") then return
    let opening? := (message.get? "params").bind fun params => (Params.opening params).toOption
    let session := server.session
    let (workspace, client) := match server.phase with
      | .fresh => (opening?.bind (·.workspace?), Session.section? (opening?.bind (·.options)))
      | _ => (session.workspace, session.client)
    let host ← look workspace client (session.uris.filterMap Uri.toPath?)
    let toolchain := Project.compiler host launcher
    let (replies, server) := Wire.exchange .steady toolchain host server message
    replies.forM (send output)
    serve input output server
  | _ => serve input output server

/-- Runs the program on its arguments. -/
def run (arguments : List String) : IO UInt32 := do
  match CommandLine.read arguments with
  | .ok .serve =>
    serve (← IO.getStdin) (← IO.getStdout) (.fresh ())
    return 0
  | wish =>
    let host ← lookFor (wish.toOption.getD .serve)
    let (outcome, _) := CommandLine.run host launcher arguments ()
    IO.print outcome.stdout
    IO.eprint outcome.stderr
    return outcome.exit.toUInt32

end InkWorkspace.Terminal

/-- The program. -/
def main (arguments : List String) : IO UInt32 :=
  InkWorkspace.Terminal.run arguments
