import InkWorkspace.Compiler.Issue
import InkWorkspace.Compiler.Handler

/- The ink compiler as a collaborator. A compiler is any function from a call, and from what it
   remembers of earlier calls, to the messages it reports and a result. -/
namespace InkWorkspace

/-- Options of one compiler run. -/
structure CompilerOptions where
  countAllVisits : Bool
  /-- The name under which the root text appears in messages. -/
  sourceFilename : Option String
  pluginNames : List String
  deriving Repr, DecidableEq

namespace CompilerOptions

/-- The options of every diagnostics run and every compile: all visits are counted and the root
    text has no name. -/
def standard : CompilerOptions := ⟨true, none, []⟩

end CompilerOptions

/-- Why a compiler run gave no story. -/
inductive CompileFailure where
  | errors (count : Nat)
  | io (error : FileError)
  | other (text : String)
  deriving Repr, DecidableEq

namespace CompileFailure

/-- The failure in words. -/
def message : CompileFailure → String
  | errors count => "compilation failed with " ++ toString count ++ " error(s)"
  | io error => "failed to run the ink compiler: " ++ error.message
  | other text => text

/-- The failure and what caused it. -/
def chain (failure : CompileFailure) : List String :=
  match failure with
  | io error => [failure.message, error.message]
  | _ => [failure.message]

end CompileFailure

/-- One call of the compiler. -/
structure CompileCall where
  source : String
  options : CompilerOptions
  handler : Option FileHandler

/-- What a compiler run produced: messages in order of report, and the story in the runtime's JSON
    format or a failure. -/
structure CompileReply where
  messages : List Message
  result : Except CompileFailure String
  deriving Repr

/-- A compiler that remembers a `σ` between calls. -/
structure Compiler (σ : Type) where
  run : CompileCall → σ → CompileReply × σ

/-- Terminal failure of a story compile. -/
inductive CompileError where
  /-- The compiler rejected the story with this first error, and no repair applied. -/
  | rejected (message : String)
  /-- The repairs reached their limit. -/
  | exhausted (repairs : Nat) (message : String)
  /-- The compiler failed without reporting an error. -/
  | failed (failure : CompileFailure)
  deriving Repr, DecidableEq

namespace CompileError

/-- The error in words. -/
def message : CompileError → String
  | rejected message => message
  | exhausted repairs message => "gave up after " ++ toString repairs ++ " repairs: " ++ message
  | failed failure => failure.message

/-- The error and what caused it. -/
def chain (error : CompileError) : List String :=
  match error with
  | failed failure => failure.chain
  | _ => [error.message]

end CompileError

/-- One run of a compiler on a text: the result, the issues, and the raw texts of the errors. -/
structure Attempt where
  result : Except CompileFailure String
  issues : List Issue
  rawErrors : List String
  deriving Repr

namespace Attempt

/-- The attempt that a reply makes. -/
def ofReply (reply : CompileReply) : Attempt where
  result := reply.result
  issues := reply.messages.map Issue.ofMessage
  rawErrors := (reply.messages.filter (·.kind == .error)).map (·.text)

/-- The error of a failed attempt: its first error message, or else the failure itself. -/
def rejection (attempt : Attempt) (failure : CompileFailure) : CompileError :=
  match attempt.rawErrors with
  | message :: _ => .rejected message
  | [] => .failed failure

end Attempt

namespace Compiler

variable {σ : Type}

/-- Runs the compiler on a text with the standard options. -/
def attempt (compiler : Compiler σ) (text : String) (handler : Option FileHandler) (s : σ) :
    Attempt × σ :=
  let (reply, s) := compiler.run ⟨text, .standard, handler⟩ s
  (.ofReply reply, s)

/-- All issues of one run, also of one that fails. -/
def collectIssues (compiler : Compiler σ) (text : String) (handler : Option FileHandler) (s : σ) :
    List Issue × σ :=
  let (attempt, s) := compiler.attempt text handler s
  (attempt.issues, s)

/-- The story of one run. -/
def compileStory (compiler : Compiler σ) (text : String) (handler : Option FileHandler) (s : σ) :
    Except CompileError String × σ :=
  let (attempt, s) := compiler.attempt text handler s
  match attempt.result with
  | .ok story => (.ok story, s)
  | .error failure => (.error (attempt.rejection failure), s)

end Compiler

end InkWorkspace
