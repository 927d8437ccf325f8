import InkWorkspace.Include.Load

/- Checking the include lines of one text. -/
namespace InkWorkspace.Include

open Text

/-- What is wrong with the file that an include names. -/
inductive Fault where
  /-- Nothing stands at the path. -/
  | missing
  /-- What stands there has not the extension of ink files. -/
  | wrongExtension
  deriving Repr, DecidableEq

/-- A problem with one include line. -/
structure Problem where
  fault : Fault
  inclusion : Inclusion
  resolved : Path
  deriving Repr, DecidableEq

namespace Problem

/-- The problem in words. -/
def message (problem : Problem) : String :=
  let file := "Included file '" ++ problem.inclusion.path ++ "'"
  match problem.fault with
  | .missing => file ++ " not found at " ++ problem.resolved.render
  | .wrongExtension => file ++ " is not a ." ++ inkExtension ++ " file"

end Problem

/-- What is wrong with a path, if anything is. -/
def faultAt? (disk : Disk) (path : Path) : Option Fault :=
  if !disk.has path then some .missing
  else if path.extension? ≠ some inkExtension then some .wrongExtension
  else none

/-- The problem of one line, if it is an include with one. -/
def lineProblem? (disk : Disk) (root : Path) (number : Nat) (line : List Char) :
    Option Problem := do
  let path ← LineShape.includePath? line
  let resolved := root.resolve (.ofString path)
  let fault ← faultAt? disk resolved
  return ⟨fault, ⟨path, number, Range.wholeLine number line⟩, resolved⟩

/-- The problems of a list of lines, the first of which has the given number. -/
def problemsFrom (disk : Disk) (root : Path) : (number : Nat) → List (List Char) → List Problem
  | _, [] => []
  | number, line :: rest =>
    (lineProblem? disk root number line).toList ++ problemsFrom disk root (number + 1) rest

/-- The problems of the include lines of a text, in order. Included files are not opened. -/
def problems (disk : Disk) (root : Path) (text : String) : List Problem :=
  problemsFrom disk root 0 (lines text.toList)

end InkWorkspace.Include
