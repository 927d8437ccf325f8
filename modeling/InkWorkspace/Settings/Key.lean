import InkWorkspace.Settings.Value
import InkWorkspace.Text.Scan

/- Keys of configuration sources. A key names a setting, or reaches into one: `a.b` is the member
   `b` of the table `a`, and `a[0]` the first item of the list `a`. What is set there turns into a
   table or a list if it is none. -/
namespace InkWorkspace.Settings

open Text

/-- One step into a value. -/
inductive KeyStep where
  | member (name : String)
  | item
  deriving Repr, DecidableEq

/-- Whether a character may stand in a name of a key that reaches into a setting. -/
def isKeyNameChar (c : Char) : Bool :=
  c.isAlphanum || c == ' ' || c == '_' || c == '-'

/-- The text of an index up to its closing bracket is a number that fits 64 bits, with blanks around
    it; gives what follows the bracket. -/
def index? (cs : List Char) : Option (List Char) :=
  let isGap (c : Char) : Bool := c == ' ' || c == '\t'
  let cs := cs.dropWhile isGap
  let (negative, cs) := match cs with
    | '-' :: rest => (true, rest)
    | _ => (false, cs)
  let digits := cs.takeWhile Char.isDigit
  match natOfDigits? digits, (cs.drop digits.length).dropWhile isGap with
  | some n, ']' :: rest =>
    if n < Nat.pow 2 63 || (negative && n = Nat.pow 2 63) then some rest else none
  | _, _ => none

/-- The steps behind the first name of a key. `fuel` bounds their number. -/
def keySteps? : (fuel : Nat) → List Char → Option (List KeyStep)
  | _, [] => some []
  | 0, _ => none
  | fuel + 1, '.' :: cs =>
    let name := cs.takeWhile isKeyNameChar
    if name.isEmpty then none
    else (keySteps? fuel (cs.drop name.length)).map (.member (String.ofList name) :: ·)
  | fuel + 1, '[' :: cs => do
    let rest ← index? cs
    return .item :: (← keySteps? fuel rest)
  | _, _ => none

/-- The setting that a key names and the steps into it. A key that is not well formed names the
    setting of just this name. -/
def splitKey (key : String) : String × List KeyStep :=
  let cs := key.toList
  let name := cs.takeWhile isKeyNameChar
  match if name.isEmpty then none else keySteps? cs.length (cs.drop name.length) with
  | some steps => (String.ofList name, steps)
  | none => (key, [])

/-- A table with a member set. -/
def setMember (name : String) (value : Value) : List (String × Value) → List (String × Value)
  | [] => [(name, value)]
  | (other, old) :: members =>
    if other = name then (name, value) :: members else (other, old) :: setMember name value members

/-- The members of a value; what is no table has none. -/
def Value.membersOf : Value → List (String × Value)
  | .table members _ => members
  | _ => []

mutual

/-- Lays a value over the member of that name. A table only adds its leaves, so an empty one
    changes nothing unless the member is new; any other value replaces the member. Names are
    compared in lower case. -/
def lay (members : List (String × Value)) (name : String) : Value → List (String × Value)
  | .table incoming _ =>
    let old := (members.lookup (lower name)).getD (.table [] none)
    setMember (lower name) (layAll old incoming) members
  | value => setMember (lower name) value members

/-- Lays the members of a table over a value. -/
def layAll (old : Value) : List (String × Value) → Value
  | [] => old
  | (name, value) :: rest => layAll (.table (lay old.membersOf name value) none) rest

end

/-- Lays a value over what some steps into an old value lead to. Items of lists are not kept: only
    that there is a list matters. -/
def layInto (old value : Value) : List KeyStep → Value
  | [] => value
  | .item :: _ =>
    match old with
    | .list origin => .list origin
    | _ => .list none
  | [.member name] => .table (lay old.membersOf name value) none
  | .member name :: rest =>
    let members := old.membersOf
    let inner := (members.lookup (lower name)).getD (.null none)
    .table (setMember (lower name) (layInto inner value rest) members) none

/-- Lays one member of a source over a table. -/
def laySource (members : List (String × Value)) (entry : String × Value) :
    List (String × Value) :=
  match splitKey entry.1 with
  | (_, []) => lay members entry.1 entry.2
  | (name, steps) =>
    let old := (members.lookup (lower name)).getD (.null none)
    setMember (lower name) (layInto old entry.2 steps) members

end InkWorkspace.Settings
