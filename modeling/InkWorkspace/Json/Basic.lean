import InkWorkspace.Json.Double

/- JSON values and their two written forms: compact, and pretty with two spaces a level. -/
namespace InkWorkspace

/-- A JSON value. The members of an object stand in the order in which they are written. -/
inductive Json where
  | null
  | bool (value : Bool)
  | int (value : Int)
  | double (value : Double)
  | str (value : String)
  | arr (items : List Json)
  | obj (members : List (String × Json))
  deriving Repr

namespace Json

/-- The value of an object's member. -/
def get? (name : String) : Json → Option Json
  | obj members => members.lookup name
  | _ => none

/-- Hexadecimal digit, in lower case. -/
def hexDigit (n : Nat) : Char :=
  (Nat.toDigits 16 (n % 16)).headD '0'

/-- A character as it stands inside a quoted string: quotes, backslashes and control characters
    are escaped, everything else stands for itself. -/
def escape (c : Char) : List Char :=
  if c = '"' then ['\\', '"']
  else if c = '\\' then ['\\', '\\']
  else if c = '\n' then ['\\', 'n']
  else if c = '\r' then ['\\', 'r']
  else if c = '\t' then ['\\', 't']
  else if c.toNat = 8 then ['\\', 'b']
  else if c.toNat = 12 then ['\\', 'f']
  else if c.toNat < 32 then
    ['\\', 'u', '0', '0', hexDigit (c.toNat / 16), hexDigit c.toNat]
  else [c]

/-- A string in quotes. -/
def quote (s : String) : String :=
  String.ofList ('"' :: (s.toList.flatMap escape ++ ['"']))

mutual

/-- The value without any blanks. -/
def compact : Json → String
  | null => "null"
  | bool b => if b then "true" else "false"
  | int n => toString n
  | double d => d.render
  | str s => quote s
  | arr items => "[" ++ ",".intercalate (compactItems items) ++ "]"
  | obj members => "\x7b" ++ ",".intercalate (compactMembers members) ++ "\x7d"

/-- The items of an array, each compact. -/
def compactItems : List Json → List String
  | [] => []
  | item :: items => compact item :: compactItems items

/-- The members of an object, each compact. -/
def compactMembers : List (String × Json) → List String
  | [] => []
  | (name, value) :: members => (quote name ++ ":" ++ compact value) :: compactMembers members

end

/-- A line break and the indentation of `level` levels. -/
def newline (level : Nat) : String :=
  String.ofList ('\n' :: List.replicate (2 * level) ' ')

/-- Puts pieces on lines of their own between two brackets; no pieces stay on one line. -/
def enclose (opening closing : String) (level : Nat) (pieces : List String) : String :=
  if pieces.isEmpty then opening ++ closing
  else
    opening ++ newline (level + 1) ++ ("," ++ newline (level + 1)).intercalate pieces ++
      newline level ++ closing

mutual

/-- The value on several lines, at indentation `level`. -/
def prettyAt : Nat → Json → String
  | _, null => "null"
  | _, bool b => if b then "true" else "false"
  | _, int n => toString n
  | _, double d => d.render
  | _, str s => quote s
  | level, arr items => enclose "[" "]" level (prettyItems (level + 1) items)
  | level, obj members => enclose "\x7b" "\x7d" level (prettyMembers (level + 1) members)

/-- The items of an array, each on lines of its own. -/
def prettyItems : Nat → List Json → List String
  | _, [] => []
  | level, item :: items => prettyAt level item :: prettyItems level items

/-- The members of an object, each on lines of its own. -/
def prettyMembers : Nat → List (String × Json) → List String
  | _, [] => []
  | level, (name, value) :: members =>
    (quote name ++ ": " ++ prettyAt level value) :: prettyMembers level members

end

/-- The value on several lines, two spaces a level. -/
def pretty (value : Json) : String :=
  prettyAt 0 value

/-- Puts a member in its place by name; a later member of the same name replaces an earlier one. -/
def insertMember (name : String) (value : Json) :
    List (String × Json) → List (String × Json)
  | [] => [(name, value)]
  | (other, old) :: members =>
    if name = other then (name, value) :: members
    else if name < other then (name, value) :: (other, old) :: members
    else (other, old) :: insertMember name value members

end Json

end InkWorkspace
