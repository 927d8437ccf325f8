import InkWorkspace.Path
import InkWorkspace.Uri.HostName

/- Document addresses. An address is kept in its normal form: the scheme and the host in lower case,
   dot segments folded, the usual port left out, and characters that may not stand in an address
   written as percent codes. Codes that are already there keep their spelling. -/
namespace InkWorkspace

open Text

/-- Who and where: the user with the closing `@`, the machine, and a port other than the usual. -/
structure Authority where
  user : String
  host : Option HostName
  port : Option Nat
  deriving Repr, DecidableEq

namespace Authority

/-- The authority that names nobody and nothing. -/
def blank : Authority := ⟨"", none, none⟩

/-- The authority as it is written. -/
def render (authority : Authority) : String :=
  authority.user ++ authority.host.elim "" HostName.render ++
    authority.port.elim "" (":" ++ toString ·)

end Authority

/-- The address of a document. A path that starts with a slash has segments between its slashes. -/
structure Uri where
  scheme : String
  authority : Option Authority
  path : String
  /-- Query and fragment with their marks. -/
  tail : String
  deriving Repr, DecidableEq

namespace Uri

/-- The address as it is written. A path that starts with two slashes must not look like an
    authority. -/
def render (uri : Uri) : String :=
  let start := match uri.authority with
    | some authority => "//" ++ authority.render
    | none => if uri.path.toList.take 2 = ['/', '/'] then "/." else ""
  uri.scheme ++ ":" ++ start ++ uri.path ++ uri.tail

/-- The address of a file, if its path is absolute. -/
def ofPath? (path : Path) : Option Uri :=
  if path.absolute then
    let names := path.parts.map fun part => "/" ++ encodeBytes keepInName part.bytes
    some ⟨"file", some .blank, if names.isEmpty then "/" else String.join names, ""⟩
  else none

/-- Kinds of schemes: local files, addresses with a host and its usual port, and all others. -/
inductive SchemeKind where
  | file
  | hosted (port : Nat)
  | other
  deriving Repr, DecidableEq

namespace SchemeKind

/-- The kind of a scheme. -/
def ofScheme : String → SchemeKind
  | "file" => file
  | "http" | "ws" => hosted 80
  | "https" | "wss" => hosted 443
  | "ftp" => hosted 21
  | _ => other

/-- Whether a character separates segments. -/
def isSlash (kind : SchemeKind) (c : Char) : Bool :=
  c = '/' || (c = '\\' && kind ≠ other)

end SchemeKind

/-- Whether a segment stands for the folder itself. -/
def isDot (segment : String) : Bool :=
  [".", "%2e"].contains (String.ofList (segment.toList.map Char.toLower))

/-- Whether a segment stands for the folder above. -/
def isDoubleDot (segment : String) : Bool :=
  ["..", ".%2e", "%2e.", "%2e%2e"].contains (String.ofList (segment.toList.map Char.toLower))

/-- Whether a segment is the letter of a drive with its mark. -/
def isDrive : List Char → Bool
  | [letter, mark] => letter.isAlpha && (mark = ':' || mark = '|')
  | _ => false

/-- The path without the slash at its end, if that slash stands neither at the start nor behind the
    letter of a drive. -/
def dropSlash (path : List Char) : List Char :=
  if path.getLast? = some '/' && '/' ∈ path.dropLast then
    let last := (path.dropLast.reverse.takeWhile (· ≠ '/')).reverse
    if isDrive last then path else path.dropLast
  else path

/-- The path without what stands behind its last slash, unless that is the letter of a drive. -/
def dropLastSegment (kind : SchemeKind) (path : List Char) : List Char :=
  let last := (path.reverse.takeWhile (· ≠ '/')).reverse
  if kind = .file && isDrive last && last.getLast? = some ':' then path
  else path.take (path.length - last.length)

/-- The path with a slash at its end. -/
def endWithSlash (path : List Char) : List Char :=
  if path.getLast? = some '/' then path else path ++ ['/']

/-- Whether a character has no meaning wherever it stands in an address. -/
def isVoid (c : Char) : Bool :=
  c = '\t' || c = '\n' || c = '\r'

/-- The text without characters that have no meaning. -/
def dropVoid (text : List Char) : List Char :=
  text.filter (!isVoid ·)

/-- Cuts a segment behind the letter of a drive and its colon, if a tab or line break stands there
    and more follows. -/
def cutDrive? (segment : List Char) : Option (List Char × List Char) :=
  let behind := (segment.dropWhile (· ≠ ':')).drop 1
  let drive := dropVoid (segment.takeWhile (· ≠ ':')) ++ [':']
  let rest := dropVoid behind
  if isDrive drive && behind.head?.any isVoid && !rest.isEmpty then some (drive, rest) else none

/-- A path that is being read, and whether its address keeps its host: a path that starts with the
    letter of a drive belongs to no other machine. -/
structure PathDraft where
  path : List Char
  keepsHost : Bool
  deriving Repr, DecidableEq

namespace PathDraft

/-- Adds a segment without characters that have no meaning; `slash` tells that a slash follows it.
    Dot segments are folded, and the letter of a drive at the start of a file's path is marked by a
    colon. -/
def pushClean (kind : SchemeKind) (draft : PathDraft) (segment : List Char) (slash : Bool) :
    PathDraft :=
  let text := encode keepInPath segment
  if isDoubleDot text then
    let path := dropLastSegment kind (dropSlash draft.path)
    { draft with path := if slash then endWithSlash path else path }
  else if isDot text then { draft with path := endWithSlash draft.path }
  else
    let mark := if slash then ['/'] else []
    if kind = .file && draft.path.length = 1 && isDrive segment then
      ⟨draft.path ++ segment.take 1 ++ [':'] ++ mark, false⟩
    else { draft with path := draft.path ++ text.toList ++ mark }

/-- Adds a segment. A drive at the start of a file's path ends at a tab or line break; what follows
    is then taken as it is. -/
def push (kind : SchemeKind) (draft : PathDraft) (segment : List Char) (slash : Bool) : PathDraft :=
  match cutDrive? segment with
  | some (drive, rest) =>
    if kind = .file && draft.path.length = 1 then
      let path := draft.path ++ drive ++ '/' :: (encode keepInPath rest).toList
      { draft with path := if slash then path ++ ['/'] else path }
    else draft.pushClean kind (dropVoid segment) slash
  | none => draft.pushClean kind (dropVoid segment) slash

/-- Adds segments, between which slashes stand. -/
def pushAll (kind : SchemeKind) (draft : PathDraft) : List (List Char) → PathDraft
  | [] => draft
  | [segment] => draft.push kind segment false
  | segment :: rest => pushAll kind (draft.push kind segment true) rest

end PathDraft

/-- Reads the path behind what has been written of it. The path of a file starts with one slash. -/
def readPath (kind : SchemeKind) (start text : List Char) : PathDraft :=
  let segments := splitOn '/' (text.map fun c => if kind.isSlash c then '/' else c)
  let draft := PathDraft.pushAll kind ⟨start, true⟩ segments
  if kind = .file then { draft with path := '/' :: draft.path.dropWhile (· = '/') } else draft

/-- Query and fragment in their normal form. -/
def tailOf (kind : SchemeKind) (text : List Char) : String :=
  let query := text.takeWhile (· ≠ '#')
  let fragment := text.drop query.length
  (match query with
    | '?' :: rest => "?" ++ encode (keepInQuery (kind ≠ .other)) rest
    | _ => "") ++
    match fragment with
    | '#' :: rest => "#" ++ encode keepInFragment rest
    | _ => ""

/-- Removes control characters and spaces at both ends of an address. -/
def trimEnds (text : List Char) : List Char :=
  let isOuter (c : Char) : Bool := c.toNat ≤ 0x20
  ((text.dropWhile isOuter).reverse.dropWhile isOuter).reverse

/-- Removes the characters without meaning that do not directly follow a colon; `last` is the
    character in front of the text. -/
def settle (last : Char) : List Char → List Char
  | [] => []
  | c :: rest => if isVoid c && last ≠ ':' then settle last rest else c :: settle c rest

/-- The scheme of an address and the text behind its colon. -/
def scheme? (text : List Char) : Option (String × List Char) := do
  let front := text.takeWhile (· ≠ ':')
  let scheme := dropVoid front
  let first ← scheme.head?
  let isSchemeChar (c : Char) : Bool := c.isAlphanum || c == '+' || c == '-' || c == '.'
  if !first.isAlpha || scheme.any (fun c => !isSchemeChar c) then none
  match text.drop front.length with
  | _ :: rest => return (String.ofList (scheme.map Char.toLower), rest)
  | [] => none

/-- Name and password of a user with the closing `@`. An empty password is left out, and so is a
    user without either. -/
def userOf (text : List Char) : String :=
  let name := encode keepInUser (text.takeWhile (· ≠ ':'))
  let password := (text.dropWhile (· ≠ ':')).drop 1
  let user := if password.isEmpty then name else name ++ ":" ++ encode keepInUser password
  if user.isEmpty then "" else user ++ "@"

/-- Splits a text behind its last `@`: the user in front of it, if there is one, and the rest. -/
def splitUser (text : List Char) : Option (List Char) × List Char :=
  if '@' ∈ text then
    let rest := (text.reverse.takeWhile (· ≠ '@')).reverse
    (some (text.take (text.length - rest.length - 1)), rest)
  else (none, text)

/-- The length of the host at the start of a text: it ends at a colon outside brackets. -/
def hostLength : (bracket : Bool) → List Char → Nat
  | _, [] => 0
  | bracket, c :: cs =>
    if c = ':' && !bracket then 0
    else hostLength (if c = '[' then true else if c = ']' then false else bracket) cs + 1

/-- The port behind a colon. The usual port and an empty one are left out. -/
def portOf (usual : Option Nat) (digits : List Char) : Except UriError (Option Nat) :=
  if digits.any fun c => !c.isDigit then .error .badPort
  else
    let port := digits.foldl (fun n c => 10 * n + (c.toNat - '0'.toNat)) 0
    if 65535 < port then .error .badPort
    else .ok (if digits.isEmpty || usual = some port then none else some port)

/-- Reads an authority, which ends where the path starts. A user or a port needs a host, and so does
    every address of a scheme with hosts. The mark of a user may stand alone if the address ends
    there. -/
def authorityOf (kind : SchemeKind) (text : List Char) (atEnd : Bool) :
    Except UriError Authority := do
  let (user, rest) := splitUser text
  let hostText := rest.take (hostLength false rest)
  let portText := rest.drop hostText.length
  let user := user.elim "" userOf
  if hostText.isEmpty then
    let lone := rest.length + 1 = text.length && !atEnd
    if kind ≠ .other || !portText.isEmpty || lone || user ≠ "" then throw .noHost
    else return .blank
  else
    let usual := match kind with
      | .hosted port => some port
      | _ => none
    let host ← if kind = .other then HostName.parseOpaque hostText else HostName.parse hostText
    return ⟨user, some host, ← portOf usual (portText.drop 1)⟩

/-- Reads what follows the scheme of a file's address, up to its query. The local machine is not
    named. -/
def parseFile (text : List Char) : Except UriError (Authority × List Char) :=
  let isSlash := SchemeKind.file.isSlash
  let text := settle '/' text
  let split := text.takeWhile isSlash
  if split.length < 2 then
    .ok (.blank, (readPath .file (if split.isEmpty then ['/'] else []) text).path)
  else
    let text := text.drop 2
    let front := text.takeWhile fun c => !isSlash c
    let hostText := dropVoid front
    let path := text.drop front.length
    let isLocal (host : HostName) : Bool := host = .domain "localhost"
    if isDrive hostText then .ok (.blank, (readPath .file ['/'] text).path)
    else if hostText.isEmpty then .ok (.blank, (readPath .file ['/'] path).path)
    else do
      let host ← HostName.parse hostText
      if isLocal host then return (.blank, (readPath .file ['/'] path).path)
      let draft := readPath .file ['/'] (path.drop 1)
      return (if draft.keepsHost then ⟨"", some host, none⟩ else .blank, draft.path)

/-- Reads the authority and the path behind a double slash; `hasTail` tells that a query or fragment
    follows. -/
def parseHosted (kind : SchemeKind) (text : List Char) (hasTail : Bool) :
    Except UriError (Authority × List Char) := do
  -- A backslash behind the port ends the port, whatever the scheme.
  let isPath (c : Char) : Bool := kind.isSlash c
  let (user, _) := splitUser (text.takeWhile fun c => !isPath c)
  let skipped := user.elim 0 (·.length + 1)
  let isEnd (c : Char) : Bool := isPath c || c = '\\'
  let front := (text.drop skipped).takeWhile fun c => !isPath c
  let hostLength := hostLength false front
  let portLength := ((front.drop hostLength).takeWhile fun c => !isEnd c).length
  let length := skipped + hostLength + portLength
  let path := text.drop length
  let authority ← authorityOf kind (text.take length) (path.isEmpty && !hasTail)
  let path := if kind = .other then
      match path with
      | [] => []
      | '/' :: _ => (readPath kind [] path).path
      | _ => (readPath kind ['/'] path).path
    else (readPath kind ['/'] (path.drop 1)).path
  return (authority, path)

/-- Reads an address. -/
def parse (text : String) : Except UriError Uri := do
  let some (scheme, rest) := scheme? (trimEnds text.toList) | throw .noScheme
  let kind := SchemeKind.ofScheme scheme
  let front := rest.takeWhile fun c => c ≠ '?' && c ≠ '#'
  let hasTail := front.length < rest.length
  let tail := tailOf kind (dropVoid (rest.drop front.length))
  let body := dropVoid front
  let hosted (found : Authority × List Char) : Uri :=
    ⟨scheme, some found.1, String.ofList found.2, tail⟩
  match kind with
  | .file => hosted <$> parseFile front
  | .hosted _ => hosted <$> parseHosted kind (body.dropWhile kind.isSlash) hasTail
  | .other =>
    match body with
    | '/' :: '/' :: rest => hosted <$> parseHosted kind rest hasTail
    | '/' :: rest => return ⟨scheme, none, String.ofList (readPath kind ['/'] rest).path, tail⟩
    | _ => return ⟨scheme, none, encode (fun _ => true) body, tail⟩

/-- Reads an address, if the text is one. -/
def parse? (text : String) : Option Uri :=
  (parse text).toOption

/-- Whether a text ends with the letter of a drive and its mark. -/
def endsWithDrive (bytes : List UInt8) : Bool :=
  2 < bytes.length &&
    isDrive ((bytes.drop (bytes.length - 2)).map fun byte => Char.ofNat byte.toNat)

/-- The file that an address names, as it is spelled there. Only an address with a path and without
    a host, or with the local one, names a file. A drive is always a folder. -/
def toSpelling? (uri : Uri) : Option Spelling :=
  let host := uri.authority.bind (·.host)
  if uri.path.toList.head? = some '/' && (host = none || host = some (.domain "localhost")) then
    let bytes := decodeBytes uri.path.toList
    some (.ofBytes (if endsWithDrive bytes then bytes ++ ['/'.toNat.toUInt8] else bytes))
  else none

/-- The path of the file that an address names. -/
def toPath? (uri : Uri) : Option Path :=
  uri.toSpelling?.map (·.path)

end Uri

end InkWorkspace
