import InkWorkspace.Text.Scan

/- Quoted texts of TOML files. A basic string has escapes and a literal one has none; with three
   quotes either may go over several lines. -/
namespace InkWorkspace.Settings.Toml

open Text

/-- Whether a character may stand in a key without quotes. -/
def isKeyChar (c : Char) : Bool :=
  c.isAlphanum || c == '_' || c == '-'

/-- Blanks inside a line. -/
def isGap (c : Char) : Bool :=
  c == ' ' || c == '\t'

/-- The text behind leading blanks. -/
def skipGap (cs : List Char) : List Char :=
  cs.dropWhile isGap

/-- Characters that may stand nowhere, line breaks apart. -/
def isControl (c : Char) : Bool :=
  (c.toNat < 32 && c ≠ '\t') || c.toNat = 127

/-- The text behind a line break, if there is one. -/
def newline? : List Char → Option (List Char)
  | '\n' :: cs => some cs
  | '\r' :: '\n' :: cs => some cs
  | _ => none

/-- The code point of `count` hexadecimal digits. -/
def hexEscape (count : Nat) (cs : List Char) : Option (Char × List Char) :=
  let digits := cs.take count
  let valueOf (c : Char) : Nat :=
    if c.isDigit then c.toNat - '0'.toNat else c.toLower.toNat - 'a'.toNat + 10
  let isHex (c : Char) : Bool := c.isDigit || ('a' ≤ c.toLower && c.toLower ≤ 'f')
  let n := digits.foldl (fun n c => 16 * n + valueOf c) 0
  if digits.length = count && digits.all isHex && n.isValidChar then
    some (Char.ofNat n, cs.drop count)
  else none

/-- The character of an escape in a basic string. -/
def escaped : List Char → Option (Char × List Char)
  | 'b' :: cs => some (Char.ofNat 8, cs)
  | 't' :: cs => some ('\t', cs)
  | 'n' :: cs => some ('\n', cs)
  | 'f' :: cs => some (Char.ofNat 12, cs)
  | 'r' :: cs => some ('\r', cs)
  | '"' :: cs => some ('"', cs)
  | '\\' :: cs => some ('\\', cs)
  | 'u' :: cs => hexEscape 4 cs
  | 'U' :: cs => hexEscape 8 cs
  | _ => none

/-- A basic string behind its opening quote. `fuel` bounds its length. -/
def basicString : (fuel : Nat) → List Char → Option (List Char × List Char)
  | 0, _ => none
  | _, [] => none
  | fuel + 1, c :: cs =>
    if c = '"' then some ([], cs)
    else if c = '\\' then do
      let (d, cs) ← escaped cs
      let (text, cs) ← basicString fuel cs
      return (d :: text, cs)
    else if isControl c then none
    else do
      let (text, cs) ← basicString fuel cs
      return (c :: text, cs)

/-- A literal string behind its opening quote. -/
def literalString (cs : List Char) : Option (List Char × List Char) :=
  let text := cs.takeWhile (· ≠ '\'')
  match cs.drop text.length with
  | _ :: rest => if text.any isControl then none else some (text, rest)
  | [] => none

/-- The text behind a backslash at the end of a line: all blanks and line breaks are passed over. -/
def skipLineEnd? (cs : List Char) : Option (List Char) :=
  (newline? (skipGap cs)).map fun cs => cs.dropWhile fun c => isGap c || c = '\n' || c = '\r'

/-- A string over several lines behind its opening quotes. Three quotes end it, and up to two more
    may stand in front of them. A line break counts as a line feed. `fuel` bounds its length. -/
def longString (quote : Char) : (fuel : Nat) → List Char → Option (List Char × List Char)
  | 0, _ => none
  | _, [] => none
  | fuel + 1, c :: cs =>
    if c = quote then
      let more := cs.takeWhile (· = quote)
      let rest := cs.drop more.length
      if more.length < 2 then do
        let (text, rest) ← longString quote fuel rest
        return (c :: more ++ text, rest)
      else if more.length < 5 then some (more.drop 2, rest)
      else none
    else if c = '\\' && quote = '"' then
      match skipLineEnd? cs with
      | some cs => longString quote fuel cs
      | none => do
        let (d, cs) ← escaped cs
        let (text, cs) ← longString quote fuel cs
        return (d :: text, cs)
    else match newline? (c :: cs) with
      | some cs => do
        let (text, cs) ← longString quote fuel cs
        return ('\n' :: text, cs)
      | none =>
        if isControl c then none
        else do
          let (text, cs) ← longString quote fuel cs
          return (c :: text, cs)

/-- A string at the start of the text, if there is one. A line break right behind three opening
    quotes does not count. -/
def quoted? (cs : List Char) : Option (List Char × List Char) :=
  let long (quote : Char) (cs : List Char) : Option (List Char × List Char) :=
    longString quote (cs.length + 1) ((newline? cs).getD cs)
  match cs with
  | '"' :: '"' :: '"' :: rest => long '"' rest
  | '"' :: rest => basicString (rest.length + 1) rest
  | '\'' :: '\'' :: '\'' :: rest => long '\'' rest
  | '\'' :: rest => literalString rest
  | _ => none

/-- One part of a key. -/
def keyPart (cs : List Char) : Option (String × List Char) :=
  match cs with
  | '"' :: rest => (basicString (rest.length + 1) rest).map fun (t, r) => (String.ofList t, r)
  | '\'' :: rest => (literalString rest).map fun (t, r) => (String.ofList t, r)
  | _ =>
    let word := cs.takeWhile isKeyChar
    if word.isEmpty then none else some (String.ofList word, cs.drop word.length)

/-- How many parts a key may have. -/
def keyLimit : Nat := 79

/-- A dotted key of at most `limit` parts with the blanks around it, and what follows it. -/
def key : (limit : Nat) → List Char → Option (List String × List Char)
  | 0, _ => none
  | limit + 1, cs => do
    let (part, rest) ← keyPart (skipGap cs)
    match skipGap rest with
    | '.' :: more =>
      let (parts, rest) ← key limit more
      return (part :: parts, rest)
    | rest => return ([part], rest)

end InkWorkspace.Settings.Toml
