import InkWorkspace.Server.Request
import InkWorkspace.Text.Shown

/- Reading the parameters of messages. A reader accepts a JSON value or says what is wrong with it.
   The members of an object are read in the order of their names, and only then is a missing one
   found. -/
namespace InkWorkspace.Params

open Text

/-- What is wrong with parameters. -/
inductive ParamError where
  | missing (name : String)
  | wrongType (found expected : String)
  | wrongValue (found expected : String)
  | badAddress (error : UriError) (text : String)
  deriving Repr, DecidableEq

namespace ParamError

/-- The error in words. -/
def message : ParamError → String
  | missing name => "missing field `" ++ name ++ "`"
  | wrongType found expected => "invalid type: " ++ found ++ ", expected " ++ expected
  | wrongValue found expected => "invalid value: " ++ found ++ ", expected " ++ expected
  | badAddress error text => error.message ++ ": " ++ quoted text

end ParamError

/-- Reads a JSON value as a value of some type. -/
abbrev Reader (α : Type) := Json → Except ParamError α

/-- What an error message calls a JSON value. -/
def found : Json → String
  | .null => "null"
  | .bool b => "boolean `" ++ toString b ++ "`"
  | .int n => "integer `" ++ toString n ++ "`"
  | .double d => "floating point `" ++ (Json.double d).compact ++ "`"
  | .str s => shown s
  | .arr _ => "sequence"
  | .obj _ => "map"

/-- The error that something else was expected. -/
def unexpected {α : Type} (expected : String) (j : Json) : Except ParamError α :=
  .error (.wrongType (found j) expected)

/-- A text. -/
def text : Reader String
  | .str text => .ok text
  | j => unexpected "a string" j

/-- A truth value. -/
def truth : Reader Bool
  | .bool b => .ok b
  | j => unexpected "a boolean" j

/-- A list. -/
def items {α : Type} (read : Reader α) : Reader (List α)
  | .arr items => items.mapM read
  | j => unexpected "a sequence" j

/-- An integer of the given type, whose values are those from `low` to below `high`. -/
def integer (type : String) (low high : Int) : Reader Int
  | .int n =>
    if low ≤ n && n < high then .ok n else .error (.wrongValue (found (.int n)) type)
  | j => unexpected type j

/-- A signed number of 32 bits. -/
def signed : Reader Int := integer "i32" (-(Nat.pow 2 31 : Int)) (Nat.pow 2 31)

/-- An unsigned number of 32 bits. -/
def unsigned : Reader Nat := fun j => (integer "u32" 0 (Nat.pow 2 32) j).map Int.toNat

/-- An address. -/
def address : Reader Uri
  | .str text =>
    match Uri.parse text with
    | .ok uri => .ok uri
    | .error error => .error (.badAddress error text)
  | j => unexpected "a string representing an URL" j

/-- Any value. -/
def anything : Reader Json := .ok

/-- A value that may be `null`. -/
def nullable {α : Type} (read : Reader α) : Reader (Option α)
  | .null => .ok none
  | j => (read j).map some

/-- The member of that name, if it is there. -/
def given? {α : Type} (name : String) (read : Reader α) : Reader (Option α) := fun j =>
  match j.get? name with
  | some value => (read value).map some
  | none => .ok none

/-- A member that has to be there. -/
def needed {α : Type} (name : String) : Option α → Except ParamError α
  | some a => .ok a
  | none => .error (.missing name)

/-- The member of that name, which has to be there. -/
def given {α : Type} (name : String) (read : Reader α) : Reader α := fun j => do
  needed name (← given? name read j)

/-- The member of that name; an absent one and `null` have no value. -/
def optional {α : Type} (name : String) (read : Reader α) : Reader (Option α) := fun j => do
  return (← given? name (nullable read) j).join

/-- A place in a document. -/
def position : Reader Position := fun j => do
  let character ← given? "character" unsigned j
  let line ← given? "line" unsigned j
  return ⟨← needed "line" line, ← needed "character" character⟩

/-- The address of the document that a message is about. -/
def document : Reader Uri := given "textDocument" (given "uri" address)

/-- The document and the place in it that a message is about. -/
def spot : Reader (Uri × Position) := fun j => do
  let position ← given? "position" position j
  let document ← document j
  return (document, ← needed "position" position)

/-- What an editor says about itself. -/
def opening : Reader Opening := fun j => do
  let options ← optional "initializationOptions" anything j
  let root ← optional "rootUri" address j
  let folders ← optional "workspaceFolders" (items (given "uri" address)) j
  return ⟨folders.getD [], root, options⟩

/-- A changed file; the third kind of change is a deletion. -/
def fileChange : Reader FileChange := fun j => do
  let kind ← given? "type" signed j
  let uri ← given "uri" address j
  return ⟨uri, (← needed "type" kind) == 3⟩

end InkWorkspace.Params
