import InkWorkspace.Text.Scan
import InkWorkspace.Text.Utf8

/- File paths as lists of components. Repeated slashes, trailing slashes and `.` components
   behind the first one carry no meaning and are dropped on reading, so two spellings of one path
   are equal; `..` is kept until a path is normalized. Paths are ordered component by component,
   which puts `a/b.ink` before `a.ink`. A name is usually a text, but it can be any bytes. -/
namespace InkWorkspace

open Text

/-- The byte that separates the components of a path. -/
def slashByte : UInt8 := '/'.toNat.toUInt8

/-- The byte of a dot. -/
def dotByte : UInt8 := '.'.toNat.toUInt8

/-- Bytes that are a name: at least one, none of them a slash, and not those of `.` or `..`. -/
def IsFileName (bytes : List UInt8) : Prop :=
  bytes ≠ [] ∧ slashByte ∉ bytes ∧ bytes ≠ [dotByte] ∧ bytes ≠ [dotByte, dotByte]

instance (bytes : List UInt8) : Decidable (IsFileName bytes) :=
  inferInstanceAs (Decidable (_ ∧ _))

/-- The name of a file or a folder. -/
structure FileName where
  bytes : List UInt8
  isName : IsFileName bytes
  deriving Repr, DecidableEq

namespace FileName

/-- The name as a text, if it is one. -/
def text? (name : FileName) : Option String :=
  decode? name.bytes

/-- The name as it is shown: what is no UTF-8 appears as replacement characters. -/
def render (name : FileName) : String :=
  name.text?.getD (String.ofList (decodeLossy name.bytes))

end FileName

/-- One step of a path. -/
inductive Component where
  | here
  | up
  | name (file : FileName)
  deriving Repr, DecidableEq

namespace Component

/-- The component as it is shown. -/
def render : Component → String
  | here => "."
  | up => ".."
  | name file => file.render

/-- The bytes of the component. -/
def bytes : Component → List UInt8
  | here => [dotByte]
  | up => [dotByte, dotByte]
  | name file => file.bytes

/-- The name of a component that is one. -/
def name? : Component → Option FileName
  | name file => some file
  | _ => none

/-- Reads one piece between slashes. An empty piece is no component. -/
def ofBytes? (piece : List UInt8) : Option Component :=
  if piece = [dotByte] then some here
  else if piece = [dotByte, dotByte] then some up
  else if h : IsFileName piece then some (name ⟨piece, h⟩)
  else none

/-- Reads one piece between slashes, given as a text. -/
def ofPiece? (piece : List Char) : Option Component :=
  ofBytes? (utf8 piece)

/-- Order of components: `.`, then `..`, then names by their bytes. -/
def before : Component → Component → Bool
  | here, here => false
  | here, _ => true
  | up, here => false
  | up, up => false
  | up, name _ => true
  | name _, here => false
  | name _, up => false
  | name a, name b => a.bytes.lex b.bytes

end Component

/-- A path: whether it starts at the root, and its components. -/
structure Path where
  absolute : Bool
  parts : List Component
  deriving Repr, DecidableEq, Inhabited

namespace Path

/-- The root directory. -/
def root : Path := ⟨true, []⟩

/-- Drops the `.` components behind the first component. -/
def dropInnerDots (absolute : Bool) : List Component → List Component
  | [] => []
  | c :: cs =>
    let rest := cs.filter (· ≠ .here)
    if absolute && c = .here then rest else c :: rest

/-- The path that components spell. -/
def ofParts (absolute : Bool) (parts : List Component) : Path :=
  ⟨absolute, dropInnerDots absolute parts⟩

/-- Reads a path. -/
def ofString (text : String) : Path :=
  ofParts (text.toList.head? == some '/') ((splitOn '/' text.toList).filterMap Component.ofPiece?)

/-- The pieces between the slashes of a path that is given as bytes. -/
def piecesOf : List UInt8 → List (List UInt8)
  | [] => [[]]
  | byte :: bytes =>
    if byte = slashByte then [] :: piecesOf bytes
    else match piecesOf bytes with
      | [] => [[byte]]
      | piece :: pieces => (byte :: piece) :: pieces

/-- Reads a path that is given as bytes. -/
def ofBytes (bytes : List UInt8) : Path :=
  ofParts (bytes.head? == some slashByte) ((piecesOf bytes).filterMap Component.ofBytes?)

/-- The path as it is written. -/
def render (p : Path) : String :=
  (if p.absolute then "/" else "") ++ "/".intercalate (p.parts.map Component.render)

/-- `q` seen from `p`: an absolute `q` stands for itself. -/
def join (p q : Path) : Path :=
  if q.absolute then q
  else if p.absolute || !p.parts.isEmpty then ⟨p.absolute, p.parts ++ q.parts.filter (· ≠ .here)⟩
  else q

/-- One step of normalization: `.` is dropped, `..` takes back the step before it, and is kept if
    there is none. -/
def fold (done : List Component) : Component → List Component
  | .here => done
  | .up => if done.isEmpty then [.up] else done.dropLast
  | component => done ++ [component]

/-- The path with its `.` and `..` components folded away, as far as that is possible by reading
    alone. A relative path that folds away entirely is `.`. -/
def normalize (p : Path) : Path :=
  let parts := p.parts.foldl fold []
  if parts.isEmpty && !p.absolute then ⟨false, [.here]⟩ else ⟨p.absolute, parts⟩

/-- The path that `q` names when relative paths are taken from `p`. -/
def resolve (p q : Path) : Path :=
  (p.join q).normalize

/-- The path without its last component. -/
def parent? (p : Path) : Option Path :=
  if p.parts.isEmpty then none else some ⟨p.absolute, p.parts.dropLast⟩

/-- The names of the path, from the first to the last. -/
def names (p : Path) : List FileName :=
  p.parts.filterMap Component.name?

/-- The last component, if it is a name. -/
def lastName? (p : Path) : Option FileName :=
  p.parts.getLast?.bind Component.name?

/-- The last component, if it is a name that is a text. -/
def fileName? (p : Path) : Option String :=
  p.lastName?.bind FileName.text?

/-- Whether the whole path is text. -/
def isText (p : Path) : Bool :=
  p.names.all (·.text?.isSome)

/-- The length of the path as it is written, in bytes: a slash stands in front of every component,
    save the first one of a relative path. -/
def length (p : Path) : Nat :=
  p.parts.foldl (fun total part => total + part.bytes.length + 1) 0 - if p.absolute then 0 else 1

/-- What follows the last dot of the file name. A name has no extension if it has no dot, or only
    the one in front. -/
def extension? (p : Path) : Option String := do
  let name ← p.lastName?
  let reversed := name.render.toList.reverse
  let tail := reversed.takeWhile (· ≠ '.')
  let stem := reversed.drop (tail.length + 1)
  if stem.isEmpty then none else return String.ofList tail.reverse

/-- Whether `p` lies at or below `folder`. -/
def isUnder (p folder : Path) : Bool :=
  p.absolute == folder.absolute && folder.parts.isPrefixOf p.parts

/-- Order of paths: absolute paths before relative ones, then by components, the shorter of two
    agreeing paths first. Only the path without components comes before absolute ones. -/
def before (p q : Path) : Bool :=
  match p.absolute, q.absolute with
  | true, false => !q.parts.isEmpty
  | false, true => p.parts.isEmpty
  | _, _ => p.parts.lex q.parts Component.before

/-- The steps from the folder `base` to a path, both given by their components: up from the first
    component of `base` in which they differ, then down. Nothing if that component is a `..`. -/
def stepsFrom : (target base : List Component) → Option (List Component)
  | target, [] => some target
  | [], base => some (base.map fun _ => .up)
  | t :: ts, b :: bs =>
    if t = b then stepsFrom ts bs
    else match b with
      | .here => some (t :: ts)
      | .up => none
      | _ => some ((b :: bs).map (fun _ => .up) ++ t :: ts)

/-- The path relative to the folder `base`, if there is a way from one to the other. -/
def relativeTo? (p base : Path) : Option Path :=
  if p.absolute = base.absolute then (stepsFrom p.parts base.parts).map (⟨false, ·⟩) else none

/-- The path relative to the folder `base`, for display; the path itself if there is no way from
    one to the other. -/
def display (p base : Path) : String :=
  ((p.relativeTo? base).getD p).render

end Path

/-- A path as it was spelled. With a slash or a dot at its end, a spelling asks for a folder. -/
structure Spelling where
  path : Path
  asFolder : Bool
  deriving Repr, DecidableEq

namespace Spelling

/-- Reads a spelling that is given as bytes. -/
def ofBytes (bytes : List UInt8) : Spelling :=
  ⟨.ofBytes bytes, (Path.piecesOf bytes).getLast?.any fun piece =>
    piece.isEmpty || piece = [dotByte]⟩

/-- Reads a spelling. -/
def ofString (text : String) : Spelling :=
  .ofBytes (utf8 text.toList)

end Spelling

end InkWorkspace
