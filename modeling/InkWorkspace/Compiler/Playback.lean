import InkWorkspace.Compiler.Program

/- Compilers and programs that play prescribed runs and keep a record of what they were given. The
   n-th call plays the n-th run; when the runs are used up, the last one is played again. -/
namespace InkWorkspace.Playback

open Text

/-- One prescribed compiler run: its messages, the includes it asks for, and its result. -/
structure Run where
  messages : List Message
  loads : List String
  result : Except CompileFailure String
  deriving Repr

/-- What an include that was asked for brought: its full name and its text. -/
structure Loaded where
  resolved : String
  text : Option String
  deriving Repr, DecidableEq

/-- The record of one call. Without a file handler nothing could be loaded. -/
structure Call where
  source : String
  options : CompilerOptions
  loads : List (Option Loaded)
  deriving Repr, DecidableEq

/-- The run that call number `n` plays. -/
def pick {α : Type} (runs : List α) (n : Nat) : Option α :=
  runs[n]? <|> runs.getLast?

/-- Asks for an include. -/
def ask (handler : FileHandler) (name : String) : Loaded :=
  let resolved := handler.resolve name
  ⟨resolved, (handler.load resolved).toOption⟩

/-- The compiler that plays the given runs. -/
def compiler (runs : List Run) : Compiler (List Call) where
  run call calls :=
    match pick runs calls.length with
    | none => (⟨[], .error (.other "")⟩, calls)
    | some played =>
      let loads := played.loads.map fun name => call.handler.map (ask · name)
      (⟨played.messages, played.result⟩, calls ++ [⟨call.source, call.options, loads⟩])

/-- The machine that programs are started on: its files, which of them can be run, the folders
    that are searched for a program without a path, and where its scratch folders lie. -/
structure Machine where
  disk : Disk
  programs : List Place
  folders : List Place
  scratchFolder : Place
  deriving Repr

namespace Machine

/-- All files while a program is started: the machine's own, the programs, and those of the scratch
    folder. -/
def files (machine : Machine) (scratch : Disk) : Disk :=
  let disk := machine.programs.foldl (fun disk place => disk.write place (.file [])) machine.disk
  scratch.entries.foldl
    (fun disk (place, entry) => disk.write (machine.scratchFolder ++ place) entry)
    (disk.makeFolders machine.scratchFolder)

/-- Why what a path leads to, seen from a folder, cannot be run, if it cannot. Only programs can be
    run; a folder and any other file are there and are refused. -/
def runError? (machine : Machine) (disk : Disk) (folder : Place) (text : String) :
    Option FileError :=
  let spelling := Spelling.ofString text
  if utf8Length text.toList ≥ Disk.pathLimit then some .nameTooLong
  else match disk.follow spelling.path.parts (if spelling.path.absolute then [] else folder) with
    | .error error => some error
    | .ok place =>
      match disk.entry? place with
      | none => some .notFound
      | some .folder => some .denied
      | some (.file _) =>
        if spelling.asFolder then some .notAFolder
        else if machine.programs.contains place then none
        else some .denied

/-- Why a program cannot be found in the searched folders, if it cannot. A folder that does not have
    it is passed over, and one that only has something that cannot be run is remembered. -/
def searchError? (machine : Machine) (disk : Disk) (name : String) :
    List Place → (seen : FileError) → Option FileError
  | [], seen => some seen
  | folder :: folders, seen =>
    match machine.runError? disk folder name with
    | none => none
    | some .denied => machine.searchError? disk name folders .denied
    | some .notFound | some .notAFolder => machine.searchError? disk name folders seen
    | some error => some error

/-- Why a program cannot be started in a scratch folder, if it cannot. A name with a slash is a path
    seen from the scratch folder; any other is searched for. -/
def startError? (machine : Machine) (executable : String) (scratch : Disk) : Option FileError :=
  let cs := executable.toList
  let disk := machine.files scratch
  if cs.contains (Char.ofNat 0) then some (.other "nul byte found in provided data")
  else if cs.isEmpty then some .notFound
  else if cs.contains '/' then machine.runError? disk machine.scratchFolder executable
  else machine.searchError? disk executable machine.folders .notFound

end Machine

/-- The launcher whose programs play the given runs. -/
def launcher (machine : Machine) (runs : List ProgramOutput) : Launcher (List Invocation) where
  run invocation started :=
    match machine.startError? invocation.executable invocation.scratch,
      pick runs started.length with
    | some error, _ => (.error error, started)
    | none, some output => (.ok output, started ++ [invocation])
    | none, none => (.error .notFound, started)

end InkWorkspace.Playback
