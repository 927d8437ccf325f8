import InkWorkspace.Text.Class
import InkWorkspace.Text.GraphemeTable

/- User-perceived characters: the clusters into which a text falls, such as a letter with its
   combining marks, a syllable of jamo or a flag. -/
namespace InkWorkspace.Text

/-- How a character takes part in clusters. -/
inductive ClusterClass where
  | control
  | extend
  | joiner
  | spacingMark
  | prepend
  | regional
  | leadJamo
  | vowelJamo
  | tailJamo
  | openSyllable
  | closedSyllable
  | other
  deriving Repr, DecidableEq

/-- The class of a character. -/
def clusterClass (c : Char) : ClusterClass :=
  let n := c.toNat
  if n < 32 || n = 127 then .control
  else if n < 128 then .other
  else if n = 0x200D then .joiner
  else if covers n extendRanges then .extend
  else if covers n spacingMarkRanges then .spacingMark
  else if covers n controlRanges then .control
  else if covers n prependRanges then .prepend
  else if 0x1F1E6 ≤ n && n ≤ 0x1F1FF then .regional
  else if (0x1100 ≤ n && n ≤ 0x115F) || (0xA960 ≤ n && n ≤ 0xA97C) then .leadJamo
  else if covers n [(0x1160, 0x11A7), (0xD7B0, 0xD7C6), (0x16D63, 0x16D63), (0x16D67, 0x16D6A)] then
    .vowelJamo
  else if (0x11A8 ≤ n && n ≤ 0x11FF) || (0xD7CB ≤ n && n ≤ 0xD7FB) then .tailJamo
  else if 0xAC00 ≤ n && n ≤ 0xD7A3 then
    if (n - 0xAC00) % 28 = 0 then .openSyllable else .closedSyllable
  else .other

/-- What a cluster has been made of so far, as far as it decides whether it goes on. -/
structure ClusterState where
  last : Char
  /-- Number of regional indicators at the end. -/
  regionals : Nat
  /-- A pictograph and extenders stand at the end. -/
  pictograph : Bool
  /-- A pictograph, extenders and a joiner stand at the end. -/
  joined : Bool
  /-- A consonant and extenders or viramas stand at the end. -/
  consonant : Bool
  /-- One of these is a virama. -/
  linked : Bool
  deriving Repr, DecidableEq

/-- The state of a cluster of one character. -/
def clusterStart (c : Char) : ClusterState where
  last := c
  regionals := if clusterClass c = .regional then 1 else 0
  pictograph := covers c.toNat pictographRanges
  joined := false
  consonant := covers c.toNat conjunctConsonants
  linked := false

/-- The state of a cluster with one character more. -/
def clusterNext (state : ClusterState) (c : Char) : ClusterState :=
  let cls := clusterClass c
  let extends_ := (cls = .extend || cls = .joiner) && c.toNat ≠ 0x200C
  if covers c.toNat pictographRanges || covers c.toNat conjunctConsonants then
    { clusterStart c with regionals := 0 }
  else
    { last := c
      regionals := if cls = .regional then state.regionals + 1 else 0
      pictograph := state.pictograph && cls = .extend
      joined := state.pictograph && cls = .joiner
      consonant := state.consonant && extends_
      linked := state.consonant && extends_ && (state.linked || covers c.toNat conjunctLinkers) }

/-- Whether a character goes on with the cluster in front of it. -/
def clusterContinues (state : ClusterState) (c : Char) : Bool :=
  let a := clusterClass state.last
  let b := clusterClass c
  if state.last = '\r' && c = '\n' then true
  else if a = .control || b = .control then false
  else if a = .leadJamo &&
      (b = .leadJamo || b = .vowelJamo || b = .openSyllable || b = .closedSyllable) then true
  else if (a = .openSyllable || a = .vowelJamo) && (b = .vowelJamo || b = .tailJamo) then true
  else if (a = .closedSyllable || a = .tailJamo) && b = .tailJamo then true
  else if b = .extend || b = .joiner || b = .spacingMark then true
  else if a = .prepend then true
  else if state.consonant && state.linked && covers c.toNat conjunctConsonants then true
  else if state.joined && covers c.toNat pictographRanges then true
  else a = .regional && b = .regional && state.regionals % 2 = 1

/-- The character that stands for a cluster which starts with `c`: a carriage return with its line
    feed counts as the line feed. -/
def clusterHead (c : Char) (rest : List Char) : Char :=
  if c = '\r' && rest.head? = some '\n' then '\n' else c

/-- The characters that stand for the clusters behind a cluster in some state. -/
def clusterHeadsFrom : ClusterState → List Char → List Char
  | _, [] => []
  | state, c :: cs =>
    if clusterContinues state c then clusterHeadsFrom (clusterNext state c) cs
    else clusterHead c cs :: clusterHeadsFrom (clusterStart c) cs

/-- The first character of each cluster. -/
def clusterHeads : List Char → List Char
  | [] => []
  | c :: cs => clusterHead c cs :: clusterHeadsFrom (clusterStart c) cs

end InkWorkspace.Text
