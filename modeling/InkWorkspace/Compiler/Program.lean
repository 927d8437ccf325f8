import InkWorkspace.Compiler.Basic
import InkWorkspace.Compiler.Staging
import InkWorkspace.Text.Utf8

/- The ink compiler as an external program. It is run in a scratch folder that holds the staged
   text; its output lines are turned into messages, and the story is read from the file it wrote. -/
namespace InkWorkspace

open Text

/-- How a program ended. -/
inductive ExitStatus where
  | code (value : Nat)
  | killed
  deriving Repr, DecidableEq

namespace ExitStatus

/-- The status in words. -/
def render : ExitStatus → String
  | code value => "exit status: " ++ toString value
  | killed => "signal: 9 (SIGKILL)"

end ExitStatus

/-- One start of a program: its arguments and the folder it runs in. -/
structure Invocation where
  executable : String
  arguments : List String
  scratch : Disk
  deriving Repr

/-- What a program left behind: its output, how it ended, and the story file if it wrote one. -/
structure ProgramOutput where
  stdout : List UInt8
  stderr : List UInt8
  status : ExitStatus
  story : Option (List UInt8)
  deriving Repr

/-- How programs are started: a start fails or gives an output. -/
structure Launcher (σ : Type) where
  run : Invocation → σ → Except FileError ProgramOutput × σ

namespace Program

/-- The file of the root text. -/
def rootFile : String := "__root__.ink"

/-- The file the story is written to. -/
def outputFile : String := "__root__.ink.json"

/-- The tags of the compiler's messages. -/
def tags : List (String × MessageKind) :=
  [("RUNTIME ERROR", .error), ("RUNTIME WARNING", .warning), ("ERROR", .error),
    ("WARNING", .warning), ("TODO", .author)]

/-- The tag at the start of an output line, with its kind and the text behind its colon. -/
def tag? (cs : List Char) : Option (String × MessageKind × List Char) :=
  tags.findSome? fun (tag, kind) =>
    (dropWord? (tag.toList ++ [':']) cs).map fun rest => (tag, kind, rest)

/-- A quoted file name at the start of a text, and the text behind it and its blanks. -/
def quotedFile (cs : List Char) : Option String × List Char :=
  match cs with
  | '\'' :: rest =>
    if '\'' ∈ rest then
      (some (String.ofList (rest.takeWhile (· ≠ '\''))),
        trimLeft ((rest.dropWhile (· ≠ '\'')).drop 1))
    else (none, cs)
  | _ => (none, cs)

/-- A leading `line N:` as its digits, and the text behind it and its blanks. -/
def lineMark (cs : List Char) : Option String × List Char :=
  match Issue.lineNumber? cs with
  | some (digits, ':' :: rest) => (some (String.ofList digits), trimLeft rest)
  | _ => (none, cs)

/-- The message of one output line, if it is one. A message about a file other than the root text
    names it at the end and carries no line mark. -/
def translate? (raw : String) : Option Message := do
  let (tag, kind, rest) ← tag? (trim raw.toList)
  let (file, rest) := quotedFile (trimLeft rest)
  let (line, rest) := lineMark rest
  if '\n' ∈ rest then none
  let text := String.ofList rest
  let file := file.filter (· ≠ rootFile)
  return ⟨kind,
    match file, line with
    | some file, some line => tag ++ ": " ++ text ++ " (" ++ file ++ ":" ++ line ++ ")"
    | none, some line => tag ++ ": line " ++ line ++ ": " ++ text
    | some file, none => tag ++ ": " ++ text ++ " (" ++ file ++ ")"
    | none, none => tag ++ ": " ++ text⟩

/-- A message with the names of scratch files replaced by those of the story. -/
def restoreNames (rootName : String) (staged : List (String × String)) (message : Message) :
    Message :=
  let text := replaceAll rootFile.toList rootName.toList message.text.toList
  let text := staged.foldl (fun text (name, target) =>
    if name = target then text else replaceAll target.toList name.toList text) text
  { message with text := String.ofList text }

/-- The messages of a program's output, standard output first. -/
def messagesOf (output : ProgramOutput) : List Message :=
  (lines (decodeLossy output.stdout) ++ lines (decodeLossy output.stderr)).filterMap fun line =>
    translate? (String.ofList line)

/-- The arguments of a run. -/
def argumentsOf (options : CompilerOptions) : List String :=
  (if options.countAllVisits then ["-c"] else []) ++ ["-o", outputFile, rootFile]

/-- The scratch folder of a call, with the staged includes and the root text. -/
def prepare (call : CompileCall) : Except FileError Staging := do
  let (text, staging) ← match call.handler with
    | some handler => Staging.stage handler call.source ⟨[], .empty⟩
    | none => pure (call.source, ⟨[], .empty⟩)
  return { staging with scratch := ← Staging.writeFile staging.scratch rootFile text }

/-- The story a program wrote, without byte order marks. -/
def storyOf (scratch : Disk) (output : ProgramOutput) : Except FileError String := do
  let path := Path.root.join (.ofString outputFile)
  let scratch := match output.story, scratch.find? path with
    | none, _ => scratch
    | some _, some .folder => scratch
    | some bytes, _ => scratch.put path.names (.file bytes)
  let text ← scratch.readText path
  return String.ofList (text.toList.dropWhile (· == Char.ofNat 0xFEFF))

/-- The reply that a program's output makes. Any reported error fails the run, and so does a status
    other than success. -/
def replyOf (executable : String) (call : CompileCall) (staging : Staging)
    (output : ProgramOutput) : CompileReply :=
  let rootName := call.options.sourceFilename.getD rootFile
  let messages := messagesOf output
  let errors := (messages.filter (·.kind == .error)).length
  let result : Except CompileFailure String :=
    if errors > 0 then .error (.errors errors)
    else if output.status ≠ .code 0 then
      .error (.other (executable ++ " exited with " ++ output.status.render))
    else match storyOf staging.scratch output with
      | .ok story => .ok story
      | .error error => .error (.io error)
  ⟨messages.map (restoreNames rootName staging.staged), result⟩

/-- The compiler that runs an executable. -/
def compiler {σ : Type} (executable : String) (launcher : Launcher σ) : Compiler σ where
  run call s :=
    match prepare call with
    | .error error => (⟨[], .error (.io error)⟩, s)
    | .ok staging =>
      match launcher.run ⟨executable, argumentsOf call.options, staging.scratch⟩ s with
      | (.error error, s) => (⟨[], .error (.io error)⟩, s)
      | (.ok output, s) => (replyOf executable call staging output, s)

end Program

end InkWorkspace
