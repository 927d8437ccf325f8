import InkWorkspace.Settings.Toml.Word

/- Configuration files in TOML: comments, `key = value` lines and table headers. A table may be
   opened by one header only, and a table that is written in one piece or by dotted keys cannot be
   opened again. -/
namespace InkWorkspace.Settings.Toml

open Text

/-- A part of a document. -/
inductive Node where
  /-- A value that is complete. -/
  | leaf (value : Value)
  /-- A table. One that no header has opened is there only for what lies in it; it may have come
      from a dotted key. -/
  | table (opened dotted : Bool) (members : List (String × Node))
  /-- A list of tables, of which the last one is given. -/
  | tables (members : List (String × Node))
  deriving Repr

/-- The members of a table. -/
abbrev Members := List (String × Node)

/-- Members with one of them replaced. -/
def replaceMember (name : String) (node : Node) (members : Members) : Members :=
  members.map fun (other, old) => if other = name then (name, node) else (other, old)

/-- Changes the table that a path leads to, making the tables on the way. A dotted path does not
    lead through a table that a header has opened. -/
def descend (dotted : Bool) (change : (isDotted : Bool) → Members → Option Members) :
    (path : List String) → (isDotted : Bool) → Members → Option Members
  | [], isDotted, members => change isDotted members
  | name :: rest, _, members =>
    match members.lookup name with
    | none => do
      let inner ← descend dotted change rest dotted []
      return members ++ [(name, .table false dotted inner)]
    | some (.leaf _) => none
    | some (.tables last) => do
      let inner ← descend dotted change rest false last
      return replaceMember name (.tables inner) members
    | some (.table opened isDotted inner) =>
      if dotted && opened then none
      else do
        let inner ← descend dotted change rest isDotted inner
        return replaceMember name (.table opened isDotted inner) members

/-- Sets a key of a table. The key must be new, and a dotted key adds only to tables of dotted
    keys. -/
def setKey (path : List String) (value : Value) (members : Members) : Option Members := do
  let name ← path.getLast?
  let outer := path.dropLast
  let add (isDotted : Bool) (members : Members) : Option Members :=
    if isDotted = outer.isEmpty || (members.lookup name).isSome then none
    else some (members ++ [(name, .leaf value)])
  descend true add outer false members

/-- Opens a table by a header. -/
def openTable (path : List String) (members : Members) : Option Members := do
  let name ← path.getLast?
  let add (_ : Bool) (members : Members) : Option Members :=
    match members.lookup name with
    | none => some (members ++ [(name, .table true false [])])
    | some (.table false false inner) => some (replaceMember name (.table true false inner) members)
    | some _ => none
  descend false add path.dropLast false members

/-- Opens the next table of a list by a header. -/
def openListed (path : List String) (members : Members) : Option Members := do
  let name ← path.getLast?
  let add (_ : Bool) (members : Members) : Option Members :=
    match members.lookup name with
    | none => some (members ++ [(name, .tables [])])
    | some (.tables _) => some (replaceMember name (.tables []) members)
    | some _ => none
  descend false add path.dropLast false members

mutual

/-- A part of a document as a value. -/
def Node.toValue (origin : Option String) : Node → Value
  | .leaf value => value
  | .table _ _ members => .table (membersToValues origin members) origin
  | .tables _ => .list origin

/-- The members of a table as values. -/
def membersToValues (origin : Option String) : List (String × Node) → List (String × Value)
  | [] => []
  | (name, node) :: rest => (name, node.toValue origin) :: membersToValues origin rest

end

/-- The text behind a comment, which is there or not. -/
def skipComment (cs : List Char) : List Char :=
  match cs with
  | '#' :: rest => rest.dropWhile fun c => !isControl c
  | _ => cs

/-- The text behind the end of a line, before which only blanks and a comment may stand. -/
def lineEnd? (cs : List Char) : Option (List Char) :=
  match skipComment (skipGap cs) with
  | [] => some []
  | cs => newline? cs

/-- The text behind blanks, comments and line breaks. `fuel` bounds the number of lines. -/
def skipFiller : (fuel : Nat) → List Char → Option (List Char)
  | 0, _ => none
  | fuel + 1, cs =>
    let rest := skipGap cs
    match newline? (skipComment rest), rest with
    | some cs, _ => skipFiller fuel cs
    | none, '#' :: _ => none
    | none, _ => some rest

/-- How deep values may nest. -/
def depthLimit : Nat := 80

mutual

/-- A value at the start of the text. `depth` is how much deeper it may nest, and `fuel` bounds its
    length. -/
def value (origin : Option String) : (fuel depth : Nat) → List Char → Option (Value × List Char)
  | 0, _, _ => none
  | fuel + 1, depth, cs =>
    match cs with
    | '"' :: _ | '\'' :: _ => do
      let (text, rest) ← quoted? cs
      return (.str (String.ofList text) origin, rest)
    | '[' :: rest =>
      if depth ≤ 1 then none
      else (items origin fuel (depth - 1) rest).map fun rest => (.list origin, rest)
    | '\x7b' :: rest => do
      if depth ≤ 1 then none
      else
        let (members, rest) ← inlineMembers origin fuel (depth - 1) (skipGap rest) []
        return (.table (membersToValues origin members) origin, rest)
    | _ => wordAt? origin cs

/-- The items of an array, up to and with its closing bracket; only that they are well formed
    matters. -/
def items (origin : Option String) : (fuel depth : Nat) → List Char → Option (List Char)
  | 0, _, _ => none
  | fuel + 1, depth, cs => do
    match ← skipFiller (cs.length + 1) cs with
    | ']' :: rest => return rest
    | cs =>
      let (_, rest) ← value origin fuel depth cs
      match ← skipFiller (rest.length + 1) rest with
      | ',' :: rest => items origin fuel depth rest
      | ']' :: rest => return rest
      | _ => none

/-- The members of an inline table, up to and with its closing brace. -/
def inlineMembers (origin : Option String) : (fuel depth : Nat) → List Char → Members →
    Option (Members × List Char)
  | 0, _, _, _ => none
  | fuel + 1, depth, cs, members => do
    match cs with
    | '\x7d' :: rest => if members.isEmpty then return ([], rest) else none
    | _ =>
      let (path, rest) ← key keyLimit cs
      match rest with
      | '=' :: rest =>
        let (v, rest) ← value origin fuel depth (skipGap rest)
        let members ← setKey path v members
        match skipGap rest with
        | ',' :: rest => inlineMembers origin fuel depth (skipGap rest) members
        | '\x7d' :: rest => return (members, rest)
        | _ => none
      | _ => none

end

/-- The rest of a document. `table` is the path of the open table, and `fuel` bounds the number of
    lines. -/
def statements (origin : Option String) : (fuel : Nat) → (table : List String) → Members →
    List Char → Option Members
  | 0, _, _, _ => none
  | fuel + 1, table, members, cs => do
    let cs := skipGap cs
    match cs with
    | [] => return members
    | '#' :: _ | '\n' :: _ | '\r' :: _ => statements origin fuel table members (← lineEnd? cs)
    | '[' :: '[' :: rest =>
      let (path, rest) ← key keyLimit rest
      match rest with
      | ']' :: ']' :: rest =>
        statements origin fuel path (← openListed path members) (← lineEnd? rest)
      | _ => none
    | '[' :: rest =>
      let (path, rest) ← key keyLimit rest
      match rest with
      | ']' :: rest => statements origin fuel path (← openTable path members) (← lineEnd? rest)
      | _ => none
    | _ =>
      let (path, rest) ← key keyLimit cs
      match rest with
      | '=' :: rest =>
        let (v, rest) ← value origin (rest.length + 1) depthLimit (skipGap rest)
        let set (_ : Bool) : Members → Option Members := setKey path v
        statements origin fuel table (← descend false set table false members) (← lineEnd? rest)
      | _ => none

/-- The members of a file, or nothing if it is not well formed. A byte order mark in front is no
    part of it. -/
def read? (origin : Option String) (text : List Char) : Option (List (String × Value)) :=
  let text := match text with
    | '\uFEFF' :: rest => rest
    | all => all
  (statements origin (text.length + 1) [] [] text).map (membersToValues origin)

end InkWorkspace.Settings.Toml
