import InkWorkspace.Proofs.Source.Body

/- An index loses and invents nothing. It keeps what the lines of a text declare in several lists: knots,
   the stitches of each knot, the stitch headers in front of every knot, includes and globals. A line in
   front adds what it declares to one of them and moves the others about (`items_addLine`), so put
   together and in the order of their lines they are what the lines declare, one item for each line that
   declares something and none for the others (`byLine_items`).

   In which list a stitch header stands says what it belongs to (`read_partitions`): the stitches of a
   knot stand behind its header and in front of the next one, so the knot is the one around them, and
   the loose headers stand in front of every knot. -/
namespace InkWorkspace

open Text

/-! ## Items -/

/-- What a line declares, apart from its place. -/
inductive Item where
  | knot (kind : KnotKind) (name : String) (parameters : List String)
  | stitch (name : String) (parameters : List String)
  | inclusion (path : String)
  | declaration (kind : VariableKind) (name : String)
  deriving DecidableEq

/-- What a line of that shape declares. -/
def LineShape.item? : LineShape → Option Item
  | .knot kind name parameters => some (.knot kind name.text parameters)
  | .stitch name parameters => some (.stitch name.text parameters)
  | .inclusion path => some (.inclusion path)
  | .declaration kind name => some (.declaration kind name.text)
  | .other => none

namespace Contents

/-- All that an index lists, each item with the number of its line. -/
def items (contents : Contents) : List (Nat × Item) :=
  contents.knots.map (fun knot => (knot.line, .knot knot.kind knot.name knot.parameters)) ++
    (contents.knots.flatMap (·.stitches)).map
      (fun stitch => (stitch.line, .stitch stitch.name stitch.parameters)) ++
    contents.loose.map (fun header => (header.line, .stitch header.name header.parameters)) ++
    contents.includes.map (fun inclusion => (inclusion.line, .inclusion inclusion.path)) ++
    contents.globals.map fun global => (global.line, .declaration global.kind global.name)

/-- The items in the order of their lines. -/
def byLine (items : List (Nat × Item)) : List (Nat × Item) :=
  items.mergeSort fun a b => a.1 ≤ b.1

/-- The item that a line of the given number makes. -/
def itemOn? (number : Nat) (line : List Char) : Option (Nat × Item) :=
  (LineShape.classify line).item?.map fun item => (number, item)

theorem items_addLine (number : Nat) (line : List Char) (rest : Contents) :
    (addLine number line rest).items.Perm ((itemOn? number line).toList ++ rest.items) := by
  -- Each item is counted on both sides, whichever list it is in.
  refine List.perm_iff_count.mpr fun item => ?_
  unfold addLine itemOn?
  cases LineShape.classify line with
  | knot kind name parameters =>
    simp [items, LineShape.item?, List.count_cons, Function.comp_def, headerOn]
    omega
  | stitch name parameters =>
    simp [items, LineShape.item?, List.count_cons, headerOn]
    omega
  | inclusion path =>
    simp [items, LineShape.item?, List.count_cons]
    omega
  | declaration kind name =>
    simp [items, LineShape.item?, List.count_cons]
    omega
  | other => simp [items, LineShape.item?]

theorem items_ofLines (number : Nat) (ls : List (List Char)) :
    (ofLines number ls).items.Perm
      ((ls.zipIdx number).filterMap fun (line, n) => itemOn? n line) := by
  induction ls generalizing number with
  | nil => exact List.Perm.refl []
  | cons line ls ih =>
    have hstep := (items_addLine number line (ofLines (number + 1) ls)).trans
      ((ih (number + 1)).append_left _)
    rw [ofLines, List.zipIdx_cons]
    cases h : itemOn? number line <;> simpa [h] using hstep

theorem itemOn?_fst (number : Nat) (line : List Char) (item : Nat × Item)
    (h : itemOn? number line = some item) : item.1 = number := by
  obtain ⟨_, -, rfl⟩ := Option.map_eq_some_iff.mp h
  rfl

/-- Whatever order items come in, by line they are in the one order in which their lines rise. -/
theorem byLine_eq {items rising : List (Nat × Item)} (hperm : items.Perm rising)
    (hrising : rising.Pairwise fun a b => a.1 < b.1) : byLine items = rising := by
  have hsorted := (pairwise_mergeSort_key Prod.fst items).imp decide_eq_true
  exact mergeSort_eq_of_rising hsorted hperm (hrising.imp fun hlt =>
    ⟨decide_eq_true (Nat.le_of_lt hlt), decide_eq_false (Nat.not_le.mpr hlt)⟩)

theorem byLine_items (number : Nat) (ls : List (List Char)) :
    byLine (ofLines number ls).items = (ls.zipIdx number).filterMap fun (line, n) => itemOn? n line :=
  byLine_eq (items_ofLines number ls) (listed_rising itemOn? itemOn?_fst number ls)

end Contents

/-! ## Files -/

namespace InkFile

variable {path : Path} {text : String} {knot : Knot} {stitch : Stitch}

theorem enclosingKnot?_stitch (hknot : knot ∈ (read path text).knots) (hstitch : stitch ∈ knot.stitches) :
    (read path text).enclosingKnot? stitch.line = some knot := by
  have hbody := Contents.stitches_inBody hknot hstitch
  have hencloses : Scope.Encloses (lines text.toList) stitch.line knot.line :=
    ⟨by rw [Contents.knotAt?_of_mem hknot]; rfl, Nat.le_of_lt hbody.1, hbody.2⟩
  obtain ⟨found, hfound, hline⟩ := enclosingKnot?_of_encloses path hencloses
  rw [hfound]
  rcases Contents.knots_cases (enclosingKnot?_encloses hfound).1 hknot with rfl | hbefore | hbehind
  · rfl
  · have := hbefore.1
    omega
  · have := hbehind.1
    omega

/-- What a file keeps of the lines of its text. -/
structure Partitions (ls : List (List Char)) (file : InkFile) : Prop where
  /-- Each line that declares something is listed once, and nothing else is. -/
  items : Contents.byLine file.items =
    ls.zipIdx.filterMap fun (line, n) => (LineShape.classify line).item?.map fun item => (n, item)
  knots : file.knots.Pairwise fun a b => a.line < b.line
  /-- A stitch belongs to the knot whose header is the last one in front of it. -/
  stitches : ∀ knot ∈ file.knots, ∀ stitch ∈ knot.stitches,
    knot.line < stitch.line ∧
      (∀ other ∈ file.knots, knot.line < other.line → stitch.line < other.line) ∧
      stitch.knot = knot.name ∧ file.enclosingKnot? stitch.line = some knot
  loose : ∀ header ∈ file.loose, ∀ knot ∈ file.knots, header.line < knot.line
  diverts : file.diverts = ls.zipIdx.flatMap fun (line, n) =>
    (Divert.targets line).map fun token =>
      ⟨token.text, n, Range.onLine n line token.start token.stop⟩

/-- Reading a text lists what its lines declare, nothing less and nothing more, each thing where it
    belongs. -/
theorem read_partitions (path : Path) (text : String) :
    Partitions (lines text.toList) (read path text) where
  items := Contents.byLine_items 0 (lines text.toList)
  knots := (Contents.knots_apart 0 (lines text.toList)).imp And.left
  stitches := by
    intro knot hknot stitch hstitch
    refine ⟨(Contents.stitches_behind hknot).1 stitch hstitch, ?_,
      Contents.stitch_knot_eq hknot hstitch, enclosingKnot?_stitch hknot hstitch⟩
    intro other hother hlt
    rcases Contents.knots_cases hknot hother with rfl | hbefore | hbehind
    · exact absurd hlt (Nat.lt_irrefl _)
    · exact hbefore.2 stitch hstitch
    · exact absurd hbehind.1 (Nat.not_lt.mpr (Nat.le_of_lt hlt))
  loose := fun header hloose knot hknot => Contents.loose_before hloose hknot
  diverts := Contents.diverts_ofLines 0 (lines text.toList)

end InkFile

end InkWorkspace
