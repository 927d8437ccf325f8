import InkWorkspace.Wire.Project

/- The command line. Arguments are read from left to right and the first fault ends the reading;
   so does a wish for help or for the version. Every option may be given once, and no path may be
   empty. -/
namespace InkWorkspace

/-- What the program is asked to do. -/
inductive Command where
  | serve
  | check (file : String) (root : Option String) (useCompiler : Bool)
  | outline (root : String)
  | compile (file : String) (root : Option String)
  deriving Repr, DecidableEq

/-- The names under which commands are called. -/
inductive CommandName where
  | serve
  | check
  | outline
  | compile
  deriving Repr, DecidableEq

namespace CommandName

/-- The name as it is written. -/
def render : CommandName → String
  | serve => "serve"
  | check => "check"
  | outline => "outline"
  | compile => "compile"

/-- All commands. -/
def all : List CommandName := [serve, check, outline, compile]

/-- The command of a name. -/
def ofString? (text : String) : Option CommandName :=
  all.find? (·.render == text)

/-- Whether the command takes a path. -/
def takesPath : CommandName → Bool
  | serve => false
  | _ => true

/-- Whether the command takes `--root`. -/
def takesRoot : CommandName → Bool
  | check | compile => true
  | _ => false

/-- Whether the command takes `--no-compiler`. -/
def takesNoCompiler : CommandName → Bool
  | check => true
  | _ => false

end CommandName

/-- Why the arguments name no command to run. -/
inductive Stop where
  /-- Help is wanted, on one command or on all. -/
  | help (topic : Option CommandName)
  | version
  /-- The arguments are wrong. -/
  | misuse
  deriving Repr, DecidableEq

namespace CommandLine

/-- What the arguments behind a command's name have said so far. -/
structure Given where
  path : Option String := none
  root : Option String := none
  noCompiler : Bool := false
  deriving Repr, DecidableEq

/-- Whether an argument is an option: a dash with something behind it. -/
def isOption (argument : String) : Bool :=
  argument.toList.head? == some '-' && argument != "-"

/-- Notes the path of a command. -/
def Given.withPath (given : Given) (name : CommandName) (path : String) : Except Stop Given :=
  if !name.takesPath || given.path.isSome || path.isEmpty then .error .misuse
  else .ok { given with path := some path }

/-- Notes the folder behind `--root`. -/
def Given.withRoot (given : Given) (name : CommandName) (root : String) : Except Stop Given :=
  if !name.takesRoot || given.root.isSome || root.isEmpty then .error .misuse
  else .ok { given with root := some root }

/-- Notes a `--no-compiler`. -/
def Given.withoutCompiler (given : Given) (name : CommandName) : Except Stop Given :=
  if !name.takesNoCompiler || given.noCompiler then .error .misuse
  else .ok { given with noCompiler := true }

/-- Reads the arguments behind a `--`, all of which are paths. -/
def readPaths (name : CommandName) : List String → Given → Except Stop Given
  | [], given => .ok given
  | argument :: rest, given => do readPaths name rest (← given.withPath name argument)

/-- Reads the arguments behind a command's name. -/
def readArguments (name : CommandName) : List String → Given → Except Stop Given
  | [], given => .ok given
  | argument :: rest, given =>
    if argument == "--" then readPaths name rest given
    else if argument == "--help" || "-h".isPrefixOf argument then .error (.help (some name))
    else if argument == "--no-compiler" then do
      readArguments name rest (← given.withoutCompiler name)
    else if argument == "--root" then
      match rest with
      | root :: rest => do
        if isOption root then .error .misuse
        readArguments name rest (← given.withRoot name root)
      | [] => .error .misuse
    else match Text.dropWord? "--root=".toList argument.toList with
      | some root => do readArguments name rest (← given.withRoot name (String.ofList root))
      | none => do
        if isOption argument then .error .misuse
        readArguments name rest (← given.withPath name argument)

/-- The command that the arguments behind its name describe. -/
def commandOf (name : CommandName) (given : Given) : Except Stop Command :=
  match name, given.path with
  | .serve, _ => .ok .serve
  | .outline, path => .ok (.outline (path.getD "."))
  | .check, some file => .ok (.check file given.root (!given.noCompiler))
  | .compile, some file => .ok (.compile file given.root)
  | _, none => .error .misuse

/-- What `help` and the arguments behind it ask for. Only names of commands may stand there, and
    no command has commands of its own. -/
def readHelp : List String → Stop
  | [] | ["help"] => .help none
  | [argument] =>
    match CommandName.ofString? argument with
    | some name => .help (some name)
    | none => .misuse
  | _ => .misuse

/-- Reads the arguments. Without any, the program serves. -/
def read : List String → Except Stop Command
  | [] => .ok .serve
  | argument :: rest =>
    if argument == "--help" || "-h".isPrefixOf argument then .error (.help none)
    else if argument == "--version" || "-V".isPrefixOf argument then .error .version
    else if argument == "help" then .error (readHelp rest)
    else if argument == "--" && rest.isEmpty then .ok .serve
    else match CommandName.ofString? argument with
      | some name => do commandOf name (← readArguments name rest {})
      | none => .error .misuse

/-- Name and version of the program. -/
def versionText : String := "inkline 0.1.0\n"

/-- How a command is called. -/
def usage : Option CommandName → String
  | none => "Usage: inkline [COMMAND]\n"
  | some .serve => "Usage: inkline serve\n"
  | some .check => "Usage: inkline check [OPTIONS] <FILE>\n"
  | some .outline => "Usage: inkline outline [ROOT]\n"
  | some .compile => "Usage: inkline compile [OPTIONS] <FILE>\n"

/-- What a command does. -/
def purpose : Option CommandName → String
  | none => "Language server and checker for ink stories\n"
  | some .serve => "Run the language server over stdin/stdout (the default)\n"
  | some .check => "Print diagnostics for one file and exit nonzero on errors\n"
  | some .outline =>
    "Print the knots, stitches, variables and includes of a project as JSON\n"
  | some .compile => "Compile a story with the configured engine and print the JSON\n"

/-- The option that every command has. The name is padded to `width`. -/
def helpOption (width : Nat) : String :=
  "  " ++ String.ofList ("-h, --help".toList.rightpad width ' ') ++ "  Print help\n"

/-- The arguments of a command, or the commands of the program, each with what it means. -/
def details : Option CommandName → String
  | none =>
    "Commands:\n" ++
      String.join (CommandName.all.map fun name =>
        "  " ++ String.ofList (name.render.toList.rightpad 9 ' ') ++ purpose (some name)) ++
      "  help     Print this message or the help of the given subcommand(s)\n" ++
      "\nOptions:\n" ++ helpOption 13 ++ "  -V, --version  Print version\n" ++
      "\nExamples:\n  inkline serve\n  inkline check story/main.ink\n  inkline outline story/\n" ++
      "  inkline compile story/main.ink > main.json\n"
  | some .serve => "Options:\n" ++ helpOption 10
  | some .check =>
    "Arguments:\n  <FILE>  \n\nOptions:\n" ++
      "      --root <ROOT>  Workspace folder holding `.inkline`. Defaults to the file's folder\n" ++
      "      --no-compiler  Skip the compiler; report include and index problems only\n" ++
      helpOption 17
  | some .outline => "Arguments:\n  [ROOT]  [default: .]\n\nOptions:\n" ++ helpOption 10
  | some .compile =>
    "Arguments:\n  <FILE>  \n\nOptions:\n      --root <ROOT>  \n" ++ helpOption 17

/-- The help on a command, or on the program. -/
def helpText (topic : Option CommandName) : String :=
  purpose topic ++ "\n" ++ usage topic ++ "\n" ++ details topic

/-- How a run ends and what it prints. -/
structure Outcome where
  exit : Nat
  stdout : String
  stderr : String
  deriving Repr, DecidableEq

namespace Outcome

/-- A run that succeeds. -/
def success (stdout : String) : Outcome := ⟨0, stdout, ""⟩

/-- A run that a failure ends. -/
def ofFailure (failure : Failure) : Outcome :=
  ⟨1, "", "inkline: " ++ failure.render ++ "\n"⟩

/-- A run that the arguments end. -/
def ofStop : Stop → Outcome
  | .help topic => success (helpText topic)
  | .version => success versionText
  | .misuse => ⟨2, "", usage none⟩

/-- A run that prints a report. -/
def ofReport (report : Report) : Outcome :=
  ⟨if report.failed then 1 else 0, report.text, ""⟩

/-- The end of a run that can fail. -/
def ofResult {α : Type} (succeed : α → Outcome) : Except Failure α → Outcome
  | .ok a => succeed a
  | .error failure => ofFailure failure

end Outcome

variable {σ : Type}

/-- Runs a command on a host; the compiler is started by the launcher. A server that is sent nothing
    does nothing. -/
def runCommand (host : Host) (launcher : Launcher σ) (command : Command) (s : σ) : Outcome × σ :=
  let around (file : String) (root : Option String) : Except Failure Project :=
    Project.around host host.workingFolder (.ofString file) (root.map Path.ofString)
  match command with
  | .serve => (.success "", s)
  | .outline root =>
    (.ofResult (fun project => .success ((Wire.outline project.story).pretty ++ "\n"))
      (Project.load host host.workingFolder (.ofString root)), s)
  | .check file root useCompiler =>
    match around file root with
    | .error failure => (.ofFailure failure, s)
    | .ok project =>
      let compiler := if useCompiler then some (Project.compiler host launcher project.settings)
        else none
      let (report, s) := project.check host compiler (.ofString file) s
      (.ofResult .ofReport report, s)
  | .compile file root =>
    match around file root with
    | .error failure => (.ofFailure failure, s)
    | .ok project =>
      let compiler := Project.compiler host launcher project.settings
      let (bundle, s) := project.bundle host compiler (.ofString file) s
      (.ofResult (fun bundle => .success ((Wire.bundle bundle).pretty ++ "\n")) bundle, s)

/-- Runs the program on its arguments. -/
def run (host : Host) (launcher : Launcher σ) (arguments : List String) (s : σ) : Outcome × σ :=
  match read arguments with
  | .error stop => (.ofStop stop, s)
  | .ok command => runCommand host launcher command s

end CommandLine

end InkWorkspace
