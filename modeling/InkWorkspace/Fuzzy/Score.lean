import InkWorkspace.Fuzzy.Pattern
import InkWorkspace.Text.Utf8

/- How well a name matches a pattern. A matched character counts 16, and more at the start of a
   word: behind a blank, a delimiter or a character that belongs to no word, at a change from
   lower to upper case, and at the start of a number. Adjacent matches share the bonus of the
   first of them, and gaps cost. -/
namespace InkWorkspace.Fuzzy

open Text

/-- What a character does to the bonus of a match. -/
inductive CharClass where
  | blank
  | nonWord
  | delimiter
  | lower
  | upper
  | letter
  | number
  deriving Repr, DecidableEq

/-- The class of a character. -/
def classOf (c : Char) : CharClass :=
  if c.toNat < 128 then
    if c.isLower then .lower
    else if c.isUpper then .upper
    else if c.isDigit then .number
    else if isBlank c && c.toNat ≠ 11 then .blank
    else if "/,:;|".toList.contains c then .delimiter
    else .nonWord
  else if isLowercase c then .lower
  else if (caseFold? c).isSome then .upper
  else if isNumeric c then .number
  else if isAlphabetic c then .letter
  else if isBlank c then .blank
  else .nonWord

/-- The bonus of a match at a character of class `cur` behind one of class `prev`. -/
def bonusOf (prev cur : CharClass) : Nat :=
  let isWordClass := cur = .lower || cur = .upper || cur = .letter || cur = .number
  if isWordClass && prev = .blank then 10
  else if isWordClass && prev = .delimiter then 9
  else if isWordClass && prev = .nonWord then 8
  else if (prev = .lower && cur = .upper) || (prev ≠ .number && cur = .number) then 5
  else if cur = .blank then 10
  else if cur = .nonWord then 8
  else 0

/-- The best bonus there is: the search for a start ends at it. -/
def bestBonus : Nat := 10

/-- One character of a name: as it is compared, its class, and the bonus of a match at it. -/
structure Cell where
  /-- As it is compared where the needle is looked for. -/
  char : Char
  /-- As it is compared where a match is scored. -/
  scored : Char
  cls : CharClass
  bonus : Nat
  deriving Repr, DecidableEq

/-- A name as it is searched. `ascii` tells that it is searched byte by byte. -/
structure Haystack where
  ascii : Bool
  cells : List Cell
  deriving Repr, DecidableEq

/-- A character as it is compared in a name that is not plain ASCII. -/
def normalize (atom : Atom) (c : Char) : Char :=
  let c := if atom.ignoreMarks then latinBase c else c
  if atom.ignoreCase then caseFold c else c

/-- A character as it is compared where a match is scored. A letter that is not in upper case but
    has a case folding, such as a final sigma, is folded only if diacritics do not count. -/
def normalizeScored (atom : Atom) (c : Char) : Char :=
  if atom.ignoreMarks || classOf c = .upper then normalize atom c else c

/-- A byte as it is compared in a plain name. -/
def normalizeByte (atom : Atom) (c : Char) : Char :=
  if atom.ignoreCase && c.isUpper then c.toLower else c

/-- The cells of a name. -/
def cellsOf (classify : Char → CharClass) (norm normScored : Char → Char) : (prev : CharClass) →
    List Char → List Cell
  | _, [] => []
  | prev, c :: cs =>
    let cls := classify c
    ⟨norm c, normScored c, cls, bonusOf prev cls⟩ :: cellsOf classify norm normScored cls cs

/-- The class of a byte of a plain name. -/
def byteClass (c : Char) : CharClass :=
  if c.toNat < 128 then classOf c else .nonWord

/-- A name as it is searched for an atom: by the first characters of its clusters, or byte by byte
    if those are all ASCII. -/
def haystackOf (atom : Atom) (name : String) : Haystack :=
  let heads := clusterHeads name.toList
  if isAscii heads then
    ⟨true, cellsOf byteClass (normalizeByte atom) (normalizeByte atom) .blank (byteChars name)⟩
  else ⟨false, cellsOf classOf (normalize atom) (normalizeScored atom) .blank heads⟩

/-- Running score of a match. -/
structure Tally where
  score : Nat
  /-- The bonus that adjacent matches share. -/
  first : Nat
  /-- The character in front was matched. -/
  adjacent : Bool
  deriving Repr, DecidableEq

/-- Scores are counted in 16 bits. -/
def scoreModulus : Nat := 65536

/-- The score of the rest of a match, character by character. When the needle is used up, its last
    character goes on matching. -/
def tallyRest : Tally → (needle : List Char) → List Cell → Nat
  | tally, _, [] => tally.score
  | tally, [], _ :: _ => tally.score
  | tally, n :: ns, cell :: cells =>
    if cell.scored = n then
      let first := if !tally.adjacent then cell.bonus
        else if cell.bonus ≥ 8 && cell.bonus > tally.first then cell.bonus else tally.first
      let bonus := if tally.adjacent then max (max cell.bonus first) 4 else cell.bonus
      tallyRest ⟨(tally.score + 16 + bonus) % scoreModulus, first, true⟩
        (if ns.isEmpty then [n] else ns) cells
    else
      let cost := if tally.adjacent then 3 else 1
      tallyRest ⟨tally.score - cost, tally.first, false⟩ (n :: ns) cells

/-- The score of a match that starts at the first of these cells. -/
def tally (needle : List Char) : List Cell → Nat
  | [] => 0
  | cell :: cells =>
    let rest := if needle.length > 1 then needle.drop 1 else needle
    tallyRest ⟨16 + 2 * cell.bonus, cell.bonus, true⟩ rest cells

/-- The cells from `start` up to `stop`. -/
def slice (cells : List Cell) (start stop : Nat) : List Cell :=
  (cells.take stop).drop start

/-- The score of a match of the whole needle from `start` to `stop`. In a plain name with a plain
    needle, if case counts, the needle has to be the whole name. -/
def scoreExact (atom : Atom) (hay : Haystack) (start stop : Nat) : Option Nat :=
  let part := slice hay.cells start stop
  let needle := if hay.ascii then atom.needle
    else if atom.ascii then atom.needle else atom.needle.map (normalize atom)
  let compared := if hay.ascii && atom.ascii && !atom.ignoreCase then hay.cells else part
  if atom.needle.length = stop - start && compared.map (·.char) = needle then
    some (tally atom.needle part)
  else none

/-- The best place for a single character or for the first character of a substring: the first of
    the largest score, where the search ends at the best bonus. Places come with their bonus. -/
def bestPlace : (best : Option (Nat × Nat)) → List (Nat × Nat) → Option (Nat × Nat)
  | best, [] => best
  | best, (place, bonus) :: rest =>
    let score := 16 + 2 * bonus
    if best.all fun (_, top) => score > top then
      if bonus ≥ bestBonus then some (place, score) else bestPlace (some (place, score)) rest
    else bestPlace best rest

/-- The cells with their places. -/
def numbered (cells : List Cell) : List (Nat × Cell) :=
  (List.range cells.length).zip cells

/-- The places of a character from `start` on, with bonuses for which the character in front of a
    match is the match before it. -/
def linkedPlaces (c : Char) : (prev : CharClass) → List (Nat × Cell) → List (Nat × Nat)
  | _, [] => []
  | prev, (place, cell) :: rest =>
    if cell.scored = c then (place, bonusOf prev cell.cls) :: linkedPlaces c cell.cls rest
    else linkedPlaces c prev rest

/-- The class of the character in front of a place. -/
def classBefore (cells : List Cell) (place : Nat) : CharClass :=
  if place = 0 then .blank else (cells[place - 1]?).elim .blank (·.cls)

/-- The score of a single character. In a name that is not plain, a character that is found but
    does not score counts nothing. -/
def scoreSingle (hay : Haystack) (c : Char) : Option Nat :=
  if hay.ascii then
    let places := ((numbered hay.cells).filter fun (_, cell) => cell.char = c).map
      fun (place, cell) => (place, cell.bonus)
    (bestPlace none places).map Prod.snd
  else
    (hay.cells.findIdx? (·.char = c)).map fun start =>
      let places := linkedPlaces c (classBefore hay.cells start) ((numbered hay.cells).drop start)
      (bestPlace none places).elim 0 Prod.snd

/-- The places of the needle's characters in the leftmost match in a text, if there is one. -/
def leftmost? : (needle : List Char) → (place : Nat) → List Char → Option (List Nat)
  | [], _, _ => some []
  | _ :: _, _, [] => none
  | n :: ns, place, c :: cs =>
    if c = n then (leftmost? ns (place + 1) cs).map (place :: ·)
    else leftmost? (n :: ns) (place + 1) cs

/-- The place behind the last occurrence of a character from `start` on. -/
def lastBehind? (cells : List Cell) (start : Nat) (c : Char) : Option Nat :=
  let found := ((numbered cells).drop start).filter fun (_, cell) => cell.char = c
  found.getLast?.map fun (place, _) => place + 1

/-- One entry of the score table: the best score of a match that ends here, and the bonus that an
    adjacent match would share. A score of zero means that there is no match. -/
structure Entry where
  score : Nat
  shared : Nat
  deriving Repr, DecidableEq

/-- One row of the score table from the row above it. `above` starts one place in front of the
    cells; `lead` is what came before it in its row, and `gap` the best score with a gap behind. -/
def nextRow (n : Char) : (lead : Entry) → (gap : Nat) → (above : List Entry) → List Cell →
    List Entry
  | _, _, [], _ => []
  | _, _, _, [] => []
  | lead, gap, entry :: above, cell :: cells =>
    let gap := max (lead.score - 3) (gap - 1)
    let new : Entry :=
      if cell.scored ≠ n then ⟨0, 0⟩
      else
        let apart : Entry := ⟨gap + cell.bonus + 16, cell.bonus⟩
        if entry.score = 0 then apart
        else
          let shared := max entry.shared 4
          let shared := if cell.bonus ≥ 8 && cell.bonus > shared then cell.bonus else shared
          let adjacent := entry.score + max shared cell.bonus
          if adjacent > gap + cell.bonus then ⟨adjacent + 16, shared⟩ else apart
    new :: nextRow n entry gap above cells

/-- The first row of the score table. -/
def firstRow (n : Char) (cells : List Cell) : List Entry :=
  cells.map fun cell => if cell.scored = n then ⟨16 + 2 * cell.bonus, cell.bonus⟩ else ⟨0, 0⟩

/-- The last row of the score table. `row` is a row of it from the place `rowStart` on. The needle
    comes with the places of its characters in the leftmost match: the row of a character starts at
    the place of that character. -/
def lastRow : (needle : List (Char × Nat)) → (row : List Entry) → (rowStart : Nat) → List Cell →
    List Entry
  | [], row, _, _ => row
  | (n, place) :: rest, row, rowStart, cells =>
    let all := nextRow n ⟨0, 0⟩ 0 row (cells.drop (rowStart + 1))
    lastRow rest (all.drop (place - rowStart - 1)) place cells

/-- The largest score of a row. -/
def topScore (row : List Entry) : Nat :=
  row.foldl (fun top entry => max top entry.score) 0

/-- How many entries a score table may have. -/
def tableLimit : Nat := 102400

/-- How many bytes a search may use for its score table and what goes with it. -/
def roomLimit : Nat := 133120

/-- The least multiple of `unit` that is not below `n`. -/
def alignUp (unit n : Nat) : Nat :=
  (n + unit - 1) / unit * unit

/-- The bytes that a search for `rows` characters uses: for every cell of the name its character and
    its bonus, two for the start of every row, eight for every place of a row, and one for every
    entry of the table. A row is as long as the name less what the other characters need. -/
def tableRoom (hay : Haystack) (length rows : Nat) : Nat :=
  let cells := ((if hay.ascii then 1 else 4) + 1) * length
  let places := length + 1 - rows
  alignUp 8 (alignUp 2 cells + 2 * rows) + 8 * places + places * rows

/-- The latest start of a match backwards from the end of a text, which is given in reverse. -/
def latestStart : (needle : List Char) → (place : Nat) → List Char → Nat
  | [], place, _ => place
  | _, place, [] => place
  | n :: ns, place, c :: cs =>
    if c = n then latestStart ns (place - 1) cs else latestStart (n :: ns) (place - 1) cs

/-- The score of the shortest match that ends where the leftmost match does. -/
def scoreGreedy (atom : Atom) (cells : List Cell) : Option Nat := do
  let chars := cells.map (·.char)
  let places ← leftmost? atom.needle 0 chars
  let stop := places.getLast?.getD 0 + 1
  let start := latestStart atom.needle.reverse stop (chars.take stop).reverse
  return tally atom.needle (slice cells start stop)

/-- The best score of a fuzzy match between `start` and `stop`. Where the score table would be too
    large, the match is not the best one. -/
def scoreOptimal (atom : Atom) (hay : Haystack) (start stop : Nat) : Option Nat := do
  let cells := slice hay.cells start stop
  let rows := atom.needle.length
  if cells.length * rows > tableLimit || tableRoom hay cells.length rows > roomLimit then
    scoreGreedy atom cells
  else
    let places ← leftmost? atom.needle 0 (cells.map (·.scored))
    let n ← atom.needle.head?
    let place ← places.head?
    let row := (firstRow n cells).drop place
    return topScore (lastRow ((atom.needle.zip places).drop 1) row place cells)

/-- The score of a fuzzy match of at least two characters that is shorter than the name. -/
def scoreFuzzy (atom : Atom) (hay : Haystack) : Option Nat := do
  let count := atom.needle.length
  let total := hay.cells.length
  let head ← atom.needle.head?
  let last ← atom.needle.getLast?
  let start ← (hay.cells.take (total - count + 1)).findIdx? (·.char = head)
  if hay.ascii then
    let places ← leftmost? atom.needle start ((hay.cells.drop start).map (·.char))
    let greedyEnd := places.getLast?.getD 0 + 1
    let stop := (lastBehind? hay.cells greedyEnd last).getD greedyEnd
    if stop - start = count then return tally atom.needle (slice hay.cells start greedyEnd)
    else scoreOptimal atom hay start stop
  else
    let stop ← lastBehind? hay.cells (start + 1) last
    if stop - start < count then none
    else if stop - start = count then scoreExact atom hay start stop
    else scoreOptimal atom hay start stop

/-- The places at which a text occurs, without overlaps. -/
def occurrences (word : List Char) : (skip place : Nat) → List Char → List Nat
  | _, _, [] => []
  | skip + 1, place, _ :: cs => occurrences word skip (place + 1) cs
  | 0, place, c :: cs =>
    if (dropWord? word (c :: cs)).isSome then
      place :: occurrences word (word.length - 1) (place + 1) cs
    else occurrences word 0 (place + 1) cs

/-- The bonus of a match at a place. -/
def bonusAt (cells : List Cell) (place : Nat) : Nat :=
  (cells[place]?).elim 0 (·.bonus)

/-- The places at which a needle occurs in a plain name, the bytes of which are `raw`. If case does
    not count and the first letter of the needle stands behind its second character, only exact
    occurrences are found, and only if they end early enough. -/
def plainPlaces (atom : Atom) (hay : Haystack) (raw : List Char) : List Nat :=
  let needle := atom.needle
  let letter := if atom.ignoreCase then needle.findIdx? Char.isLower else none
  match letter with
  | none => occurrences needle 0 0 raw
  | some (k + 2) => occurrences needle 0 0 (raw.take (raw.length - needle.length + k + 2))
  | some _ =>
    (List.range (raw.length - needle.length + 1)).filter fun place =>
      (slice hay.cells place (place + needle.length)).map (·.char) = needle

/-- The score of a needle of at least two characters that occurs in one piece in a longer name. -/
def scoreSubstring (atom : Atom) (hay : Haystack) (raw : List Char) : Option Nat := do
  let count := atom.needle.length
  let total := hay.cells.length
  let head ← atom.needle.head?
  let last ← atom.needle.getLast?
  let places ←
    if hay.ascii then
      pure ((plainPlaces atom hay raw).map fun place => (place, bonusAt hay.cells place))
    else do
      let start ← (hay.cells.take (total - count + 1)).findIdx? (·.char = head)
      let stop ← lastBehind? hay.cells (start + 1) last
      if stop - start < count then none
      let linked := linkedPlaces head (classBefore hay.cells start)
        (((numbered hay.cells).take (total - count)).drop start)
      pure (linked.filter fun (place, _) =>
        (slice hay.cells (place + 1) (place + count)).map (·.char) = atom.needle.drop 1)
  let (place, _) ← bestPlace none places
  return tally atom.needle (slice hay.cells place (place + count))

/-- The score of an atom, not counting that it may be negative. -/
def scoreAtom (atom : Atom) (name : String) : Option Nat :=
  let hay := haystackOf atom name
  let count := atom.needle.length
  let total := hay.cells.length
  if (hay.ascii && !atom.ascii) || total < count then none
  else match atom.kind with
    | .exact => scoreExact atom hay 0 total
    | .start => scoreExact atom hay 0 count
    | .finish => scoreExact atom hay (total - count) total
    | .fuzzy =>
      if total = count then scoreExact atom hay 0 total
      else match atom.needle with
        | [c] => scoreSingle hay c
        | _ => scoreFuzzy atom hay
    | .substring =>
      if total = count then scoreExact atom hay 0 total
      else match atom.needle with
        | [c] => scoreSingle hay c
        | _ => scoreSubstring atom hay (byteChars name)

/-- The score of a name: the sum over all atoms, or nothing if an atom fails. A negative atom fails
    if it matches. -/
def score (atoms : List Atom) (name : String) : Option Nat :=
  atoms.foldlM (fun total atom =>
    match scoreAtom atom name, atom.negative with
    | some _, true => none
    | none, true => some total
    | result, false => result.map (total + ·)) 0

/-- Ranks candidates by the score of their names, the best first; those of equal score keep their
    order. Only candidates with a score above zero are kept. -/
def rank {α : Type} (query : String) (nameOf : α → String) (candidates : List α) : List α :=
  let atoms := parse query
  let scored := candidates.filterMap fun a =>
    match score atoms (nameOf a) with
    | some n => if n > 0 then some (n, a) else none
    | none => none
  (scored.mergeSort fun a b => a.1 ≥ b.1).map Prod.snd

end InkWorkspace.Fuzzy
