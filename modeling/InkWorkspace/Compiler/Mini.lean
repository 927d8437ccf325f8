import InkWorkspace.Compiler.Basic
import InkWorkspace.Json.Basic

/- A miniature compiler that knows just enough ink to exercise everything around a compiler: knots
   and stitches, declarations, includes, `-> name` and `{name}`. An unknown target, an undeclared
   variable, a file that cannot be loaded and the word BROKEN are errors; a `TODO:` line is an
   author's note. A story is the list of its knots. -/
namespace InkWorkspace.Mini

open Text

/-- What the lines of a text declare. -/
structure Declared where
  knots : List String
  globals : List String
  /-- Include names already followed. -/
  seen : List String
  deriving Repr, DecidableEq

/-- A list with an item added if it is new. -/
def addNew (item : String) (items : List String) : List String :=
  if items.contains item then items else items ++ [item]

/-- The word behind a header's equals signs. -/
def header? (line : List Char) : Option String :=
  match trimLeft line with
  | '=' :: rest =>
    let word := (trimLeft (rest.dropWhile (· == '='))).takeWhile isWord
    if word.isEmpty then none else some (String.ofList word)
  | _ => none

/-- The word behind the keyword of a declaration. -/
def declared? (line : List Char) : Option String :=
  ["VAR", "CONST", "LIST"].findSome? fun keyword => do
    let rest ← dropWord? keyword.toList (trimLeft line)
    let word := (trimLeft rest).takeWhile isWord
    if rest.head?.any isBlank && !word.isEmpty then some (String.ofList word) else none

/-- The name of an include line. It is empty if only blanks, more than one, follow the keyword. -/
def include? (line : List Char) : Option String := do
  let rest ← dropWord? "INCLUDE".toList (trimLeft line)
  let gap := rest.takeWhile isBlank
  let name := trim rest
  if gap.isEmpty || (name.isEmpty && gap.length < 2) then none
  else some (String.ofList name)

/-- Adds what one line declares; an include that is new is followed by `nested`. -/
def declareLine (handler : Option FileHandler) (nested : String → Declared → Declared)
    (line : List Char) (declared : Declared) : Declared :=
  let declared := match header? line with
    | some name => { declared with knots := addNew name declared.knots }
    | none => declared
  let declared := match declared? line with
    | some name => { declared with globals := addNew name declared.globals }
    | none => declared
  match include? line, handler with
  | some name, some handler =>
    if declared.seen.contains name then declared
    else
      let declared := { declared with seen := declared.seen ++ [name] }
      match handler.included? name with
      | some text => nested text declared
      | none => declared
  | _, _ => declared

/-- Adds what a text declares, following includes at most `depth` deep. -/
def declareTo (handler : Option FileHandler) : (depth : Nat) → String → Declared → Declared
  | 0, _, declared => declared
  | depth + 1, text, declared =>
    (lines text.toList).foldl
      (fun declared line => declareLine handler (declareTo handler depth) line declared) declared

/-- What a text and everything it includes declare. -/
def declarations (handler : Option FileHandler) (text : String) : Declared :=
  declareTo handler (handler.elim 0 (·.depth) + 1) text ⟨[], [], []⟩

/-- The names in braces on a line, from left to right. `skip` counts the characters of the last one
    that are still to be passed over. -/
def uses : (skip : Nat) → List Char → List String
  | _, [] => []
  | skip + 1, _ :: cs => uses skip cs
  | 0, c :: cs =>
    if c = '\x7b' then
      let word := cs.takeWhile isWord
      if !word.isEmpty && (cs.drop word.length).head? == some '\x7d' then
        String.ofList word :: uses (word.length + 1) cs
      else uses 0 cs
    else uses 0 cs

/-- The words behind the arrows of a line, from left to right. -/
def targets : (skip : Nat) → List Char → List String
  | _, [] => []
  | skip + 1, _ :: cs => targets skip cs
  | 0, c :: cs =>
    match dropWord? "->".toList (c :: cs) with
    | some rest =>
      let gap := rest.takeWhile isBlank
      let word := (rest.dropWhile isBlank).takeWhile isWord
      if word.isEmpty then targets 0 cs
      else String.ofList word :: targets (1 + gap.length + word.length) cs
    | none => targets 0 cs

/-- A message about a line. -/
def report (kind : MessageKind) (tag : String) (line : Nat) (text : String) : Message :=
  ⟨kind, tag ++ ": line " ++ toString line ++ ": " ++ text⟩

/-- The messages about a line. -/
def check (handler : Option FileHandler) (declared : Declared) (number : Nat)
    (line : List Char) : List Message :=
  match dropWord? "TODO:".toList (trimLeft line) with
  | some todo => [report .author "TODO" number (String.ofList (trim todo))]
  | none =>
    let error := report .error "ERROR" number
    let broken := if occursIn "BROKEN".toList line then [error "Unexpected token 'BROKEN'"] else []
    match include? line with
    | some name =>
      let loaded := handler.any fun handler => (handler.included? name).isSome
      broken ++ if loaded then [] else [error ("Failed to load: '" ++ name ++ "'")]
    | none =>
      let globals := (uses 0 line).filter fun name => !declared.globals.contains name
      let knots := (targets 0 line).filter fun name =>
        name ≠ "DONE" && name ≠ "END" && !declared.knots.contains name
      broken ++ globals.map (fun name => error ("Unresolved variable: " ++ name)) ++
        knots.map fun name => error ("Divert target not found: '-> " ++ name ++ "'")

/-- The messages about a list of lines, the first of which has the given number. -/
def checkLines (handler : Option FileHandler) (declared : Declared) : (number : Nat) →
    List (List Char) → List Message
  | _, [] => []
  | number, line :: rest =>
    check handler declared number line ++ checkLines handler declared (number + 1) rest

/-- The story of a text that declares these knots. -/
def storyOf (knots : List String) : String :=
  let sorted := knots.mergeSort fun a b => a ≤ b
  (Json.obj [("inkVersion", .int 21), ("knots", .arr (sorted.map .str))]).compact

/-- The reply to a call. -/
def reply (call : CompileCall) : CompileReply :=
  let declared := declarations call.handler call.source
  let messages := checkLines call.handler declared 1 (lines call.source.toList)
  let errors := (messages.filter (·.kind == .error)).length
  ⟨messages, if errors > 0 then .error (.errors errors) else .ok (storyOf declared.knots)⟩

/-- The miniature compiler. It remembers the sources it was given, the newest first. -/
def compiler : Compiler (List String) where
  run call sources := (reply call, call.source :: sources)

end InkWorkspace.Mini
