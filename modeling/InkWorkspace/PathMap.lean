import InkWorkspace.Path

/- Maps from paths, kept as lists in the order of the paths. -/
namespace InkWorkspace

/-- Values by path. Every operation below keeps the entries in path order, each path once. -/
structure PathMap (α : Type) where
  entries : List (Path × α)
  deriving Repr, DecidableEq

namespace PathMap

variable {α : Type}

/-- The map without entries. -/
def empty : PathMap α := ⟨[]⟩

/-- The value at a path. -/
def find? (map : PathMap α) (path : Path) : Option α :=
  map.entries.lookup path

/-- Whether the map has a value at a path. -/
def contains (map : PathMap α) (path : Path) : Bool :=
  (map.find? path).isSome

/-- The paths of the map, in order. -/
def keys (map : PathMap α) : List Path :=
  map.entries.map Prod.fst

/-- The values of the map, in the order of their paths. -/
def values (map : PathMap α) : List α :=
  map.entries.map Prod.snd

/-- Number of entries. -/
def size (map : PathMap α) : Nat :=
  map.entries.length

/-- Puts an entry in its place; an entry of the same path is replaced. -/
def insertEntry (path : Path) (value : α) : List (Path × α) → List (Path × α)
  | [] => [(path, value)]
  | (other, old) :: rest =>
    if path = other then (path, value) :: rest
    else if path.before other then (path, value) :: (other, old) :: rest
    else (other, old) :: insertEntry path value rest

/-- The map with a value set at a path. -/
def insert (map : PathMap α) (path : Path) (value : α) : PathMap α :=
  ⟨insertEntry path value map.entries⟩

/-- The map with a value set at a path, unless there is one already. -/
def insertNew (map : PathMap α) (path : Path) (value : α) : PathMap α :=
  if map.contains path then map else map.insert path value

/-- The map without the value at a path. -/
def erase (map : PathMap α) (path : Path) : PathMap α :=
  ⟨map.entries.filter (·.1 ≠ path)⟩

/-- The map with a function applied to its values. -/
def mapValues {β : Type} (f : α → β) (map : PathMap α) : PathMap β :=
  ⟨map.entries.map fun (path, value) => (path, f value)⟩

end PathMap

end InkWorkspace
