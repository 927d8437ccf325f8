import InkWorkspace.Proofs.Line.Cursor
import InkWorkspace.Proofs.Story.Scope
import InkWorkspace.Proofs.Text.EditorLines

/- From a cursor in a divert to what the divert leads to. In an ordinary text the editor's line is the
   line in which the index found the divert, so the cursor sees what the index saw: a target behind an
   arrow and blanks, as long as it can be (`exists_divertIn`). At each of its columns the look-up key
   is the first segment of the target (`goto?_of_divert`).

   So a cursor goes where the divert leads if the target has one segment. If it has two, the key is
   the knot's name, read as a divert of its own on the cursor's line: a stitch of the surrounding knot
   comes before the knot. The word under the cursor is the whole target, unless a dot follows
   (`definitionAt?_of_divert`). -/
namespace InkWorkspace

open Text

/-! ## A divert in its line -/

/-- How a divert stands in its line: behind `front`, with the target `word`. -/
structure DivertIn (cs : List Char) (divert : Divert) (front word back : List Char) : Prop where
  line_eq : cs = front ++ word ++ back
  target_eq : divert.target = .ofList word
  range_eq : divert.range =
    ⟨⟨divert.line, front.length⟩, ⟨divert.line, front.length + word.length⟩⟩
  longest : Divert.target? (word ++ back) = some word
  ends : Cursor.Ends front.getLast?
  key : ∀ column, front.length ≤ column → column ≤ front.length + word.length →
    Cursor.divertKey? cs column = Cursor.keyOfTarget? word

namespace DivertIn

theorem ends_arrow {before gap : List Char} {mark point : Char} (harrow : Divert.IsArrow mark point)
    (hgap : ∀ c ∈ gap, isBlank c = true) :
    Cursor.Ends (before ++ mark :: point :: gap).getLast? := by
  intro c hc
  have hlast : (before ++ mark :: point :: gap).getLast? = (point :: gap).getLast? := by
    simp [List.getLast?_append, List.getLast?_cons]
  rw [hlast] at hc
  rcases List.mem_cons.mp (List.mem_of_getLast? hc) with rfl | hblank
  · exact (Cursor.IsArrow.not_isWordOrDot harrow).2
  · cases hword : isWordOrDot c with
    | false => rfl
    | true =>
      have := isBlank_eq_false_of_isWordOrDot hword
      rw [hgap c hblank] at this
      cases this

variable {cs front word back : List Char} {divert : Divert}

theorem word_ne_nil (h : DivertIn cs divert front word back) : word ≠ [] :=
  (Divert.target?_eq_some_iff.mp h.longest).1

theorem run_eq (h : DivertIn cs divert front word back) : Divert.dottedRun (word ++ back) = word :=
  (Divert.target?_eq_some_iff.mp h.longest).2

/-- No word stands behind a target, so only a dot can go on from it. -/
theorem ends_back (h : DivertIn cs divert front word back)
    (hdot : cs[divert.range.stop.character]? ≠ some '.') : Cursor.Ends back.head? := by
  intro c hc
  cases back with
  | nil => cases hc
  | cons d back =>
    cases hc
    have hword : isWord c = false := Divert.isWord_behind_dottedRun (by rw [h.run_eq])
    have hnext : cs[divert.range.stop.character]? = some c := by
      rw [h.line_eq, h.range_eq, ← List.length_append]
      simp
    rw [hnext] at hdot
    simp only [isWordOrDot, hword, Bool.false_or, beq_eq_false_iff_ne]
    exact fun heq => hdot (congrArg some heq)

/-- A target ends in a word, so no dot is left out at its end. -/
theorem dropDots (h : DivertIn cs divert front word back) :
    (word.reverse.dropWhile (· == '.')).reverse = word := by
  rcases List.eq_nil_or_concat word with hnil | ⟨init, last, hlast⟩
  · exact absurd hnil h.word_ne_nil
  · rw [List.concat_eq_append] at hlast
    have hword : isWord last = true :=
      Divert.isWord_of_getLast?_dottedRun (by rw [h.run_eq, hlast, List.getLast?_concat])
    have hdot : (last == '.') = false := by
      rw [beq_eq_false_iff_ne]
      rintro rfl
      rw [isWord_dot] at hword
      cases hword
    simp [hlast, hdot]

theorem keyOfTarget?_eq (h : DivertIn cs divert front word back) {name : String}
    (hname : '.' ∉ name.toList) (htarget : divert.target = name ∨ divert.target = "." ++ name) :
    Cursor.keyOfTarget? word = some divert.target := by
  have hword : word = divert.target.toList := by rw [h.target_eq, String.toList_ofList]
  rcases htarget with heq | heq
  · have hne : name.toList ≠ [] := by
      rw [← heq, ← hword]
      exact h.word_ne_nil
    rw [hword, heq, (Cursor.keyOfTarget?_segment hne hname).1, String.ofList_toList]
  · have hdotted : word = '.' :: name.toList := by simp [hword, heq]
    have hne : name.toList ≠ [] := by
      obtain ⟨c, more, hmore, -⟩ := Divert.dottedRun_dot (h.run_eq.trans hdotted)
      rw [hmore]
      exact List.cons_ne_nil _ _
    rw [hdotted, (Cursor.keyOfTarget?_segment hne hname).2, ← hdotted, ← h.target_eq]

end DivertIn

/-- The address and the range of a definition. -/
def Definition.location? (definition : Definition) : Option Location :=
  Location.at? definition.path definition.range

namespace Story

section Lookup

variable {story : Story} {path : Path} {file : InkFile} {divert : Divert} {column : Nat}

/-- In an ordinary text the editor's line of a divert is the one that the index found it in. -/
theorem WellFormed.exists_divertIn (h : story.WellFormed) (hfile : story.file? path = some file)
    (hordinary : isOrdinary file.text.toList = true) (hdivert : divert ∈ file.diverts) :
    ∃ cs front word back, story.line? path divert.line = some cs ∧
      DivertIn cs divert front word back := by
  obtain ⟨text, rfl⟩ := h.exists_read hfile
  obtain ⟨cs, hline, token, htoken, htarget, hrange⟩ := Contents.divert_on hdivert
  obtain ⟨before, mark, point, gap, word, back, hcut, harrow, hgap, hlongest, rfl⟩ :=
    Divert.targets_cut htoken
  have hon : (Token.after (before ++ mark :: point :: gap) word).On cs
      (before ++ mark :: point :: gap) word := ⟨rfl, back, hcut⟩
  refine ⟨cs, before ++ mark :: point :: gap, word, back, ?_, hcut, htarget, ?_, hlongest,
    DivertIn.ends_arrow harrow hgap, ?_⟩
  · simp only [line?, hfile, Option.bind_eq_bind, Option.bind_some]
    exact editorLine_of_line hordinary hline
  · rw [hrange, Range.onLine, hon.start_column, hon.stop_column]
  · intro column hstart hstop
    rw [hcut]
    exact Cursor.divertKey?_of_cut harrow hgap hlongest hstart hstop

theorem goto?_of_divert {cs front word back : List Char} {key : String}
    (hline : story.line? path divert.line = some cs) (hin : DivertIn cs divert front word back)
    (hstart : divert.range.start.character ≤ column)
    (hstop : column ≤ divert.range.stop.character) (hkey : Cursor.keyOfTarget? word = some key) :
    story.goto? path ⟨divert.line, column⟩ = story.resolve? path divert.line key := by
  rw [hin.range_eq] at hstart hstop
  simp only [goto?, hline, Option.bind_eq_bind, Option.bind_some, hin.key column hstart hstop, hkey]

theorem WellFormed.headerAt?_of_divert (h : story.WellFormed) (hfile : story.file? path = some file)
    (hdivert : divert ∈ file.diverts) {position : Position}
    (hposition : divert.range.contains position = true) : story.headerAt? path position = none := by
  obtain ⟨text, rfl⟩ := h.exists_read hfile
  rw [headerAt?_eq hfile, List.find?_eq_none]
  intro definition hdefinition hcontains
  rw [InkFile.definition_disjoint_divert hdefinition hdivert hcontains] at hposition
  cases hposition

/-- The word under a cursor in a divert is the target, unless a dot follows it. -/
theorem WellFormed.definitionAt?_of_divert (h : story.WellFormed)
    (hfile : story.file? path = some file) (hdivert : divert ∈ file.diverts)
    {cs front word back : List Char} (hline : story.line? path divert.line = some cs)
    (hin : DivertIn cs divert front word back)
    (hstart : divert.range.start.character ≤ column)
    (hstop : column ≤ divert.range.stop.character)
    (hdot : cs[divert.range.stop.character]? ≠ some '.') {definition : Definition}
    (hresolve : story.resolve? path divert.line divert.target = some definition) :
    story.definitionAt? path ⟨divert.line, column⟩ = some definition := by
  have hends := hin.ends_back hdot
  have hposition : divert.range.contains ⟨divert.line, column⟩ = true := by
    rw [hin.range_eq] at hstart hstop ⊢
    simp only [Range.contains, Bool.and_eq_true, Bool.or_eq_true, decide_eq_true_eq, beq_iff_eq]
    exact ⟨Or.inr ⟨trivial, hstart⟩, Or.inr ⟨trivial, hstop⟩⟩
  have hheader := h.headerAt?_of_divert hfile hdivert hposition
  rw [hin.range_eq] at hstart hstop
  have hword := Cursor.wordAt?_of_run (Cursor.isWordOrDot_of_target? hin.longest) hin.word_ne_nil
    hin.ends hends hstart hstop
  rw [hin.target_eq] at hresolve
  have hne : word.isEmpty = false := by simpa using hin.word_ne_nil
  simp only [definitionAt?, hheader, hline, hin.line_eq, hword, Token.after, String.toList_ofList,
    hin.dropDots, hne, hresolve, Option.bind_eq_bind, Option.bind_some, Option.orElse_eq_orElse,
    Option.orElse_none, Option.orElse_some]
  rfl

theorem gotoDefinition?_eq (story : Story) (path : Path) (position : Position) :
    story.gotoDefinition? path position =
      ((story.goto? path position).bind Definition.location?).map fun location => [location] := by
  unfold gotoDefinition?
  cases hgoto : story.goto? path position with
  | none => rfl
  | some definition =>
    simp only [Option.bind_eq_bind, Option.bind_some, Definition.location?]
    cases Location.at? definition.path definition.range <;> rfl

end Lookup

/-! ## A stitch that is called like a knot -/

namespace Namesake

/-- A file with a knot and, in another knot, a stitch of the same name. -/
def path : Path := .ofString "/a.ink"

def text : String := "== k\n= s\n== b\n= k\n-> k.s\né <-> .k\n"

def changes : List Edit := [.update .empty path text]

/-- The stitch of the first knot. -/
def member : Stitch := ⟨⟨"s", [], 1, ⟨⟨1, 2⟩, ⟨1, 3⟩⟩⟩, "k"⟩

def owner : Knot := ⟨⟨"k", [], 0, ⟨⟨0, 3⟩, ⟨0, 4⟩⟩⟩, .knot, [member]⟩

/-- The stitch that is called like the first knot. -/
def namesake : Stitch := ⟨⟨"k", [], 3, ⟨⟨3, 2⟩, ⟨3, 3⟩⟩⟩, "b"⟩

/-- The knot around the diverts. -/
def around : Knot := ⟨⟨"b", [], 2, ⟨⟨2, 3⟩, ⟨2, 4⟩⟩⟩, .knot, [namesake]⟩

/-- The divert to the stitch of the first knot. -/
def qualified : Divert := ⟨"k.s", 4, ⟨⟨4, 3⟩, ⟨4, 6⟩⟩⟩

/-- The divert to the stitch of the surrounding knot, behind two arrows that overlap. -/
def dotted : Divert := ⟨".k", 5, ⟨⟨5, 6⟩, ⟨5, 8⟩⟩⟩

def story : Story :=
  ⟨.root, ⟨[(path, .read path text)]⟩, .build [.read path text] .root⟩

theorem edits_changes : (Origin.empty .root).story.edits changes = story :=
  (empty_wellFormed .root).update_of_targets_nil .empty path text rfl (by decide +kernel)

theorem file?_eq :
    ((Origin.empty .root).story.edits changes).file? path = some (.read path text) := by
  rw [edits_changes]
  rfl

end Namesake

/-! ## Targets of one segment -/

/-- From every column of a divert of one segment, a cursor goes to what the divert leads to, and
    nowhere if it leads nowhere. The definition under the cursor is the same, unless a dot follows
    the target. -/
theorem simple_divert_agrees (origin : Origin) (changes : List Edit) (path : Path) (file : InkFile)
    (hfile : (origin.story.edits changes).file? path = some file)
    (hordinary : isOrdinary file.text.toList = true) (divert : Divert)
    (hdivert : divert ∈ file.diverts) (name : String) (hname : '.' ∉ name.toList)
    (htarget : divert.target = name ∨ divert.target = "." ++ name) (column : Nat)
    (hstart : divert.range.start.character ≤ column)
    (hstop : column ≤ divert.range.stop.character) :
    let story := origin.story.edits changes
    let found := story.resolve? path divert.line divert.target
    story.gotoDefinition? path ⟨divert.line, column⟩ =
      (found.bind Definition.location?).map (fun location => [location]) ∧
    ∀ definition, found = some definition →
      (∀ cs, story.line? path divert.line = some cs →
        cs[divert.range.stop.character]? ≠ some '.') →
      story.definitionAt? path ⟨divert.line, column⟩ = some definition := by
  intro story found
  have h : story.WellFormed := edits_wellFormed (origin_wellFormed origin) changes
  obtain ⟨cs, front, word, back, hline, hin⟩ := h.exists_divertIn hfile hordinary hdivert
  refine ⟨?_, fun definition hfound hdot => ?_⟩
  · rw [gotoDefinition?_eq,
      goto?_of_divert hline hin hstart hstop (hin.keyOfTarget?_eq hname htarget)]
  · exact h.definitionAt?_of_divert hfile hdivert hline hin hstart hstop (hdot cs hline) hfound

/-- At the end of the dotted divert, both look-ups find the stitch of the surrounding knot. -/
theorem Namesake.cursor_behind_dotted :
    story.gotoDefinition? path ⟨5, 8⟩ =
        ((Definition.stitch path around namesake).location?).map (fun location => [location]) ∧
      story.definitionAt? path ⟨5, 8⟩ = some (.stitch path around namesake) := by
  obtain ⟨hgoto, hhover⟩ := simple_divert_agrees (.empty .root) changes path (.read path text)
    file?_eq (by decide +kernel) dotted (by decide +kernel) "k" (by decide) (Or.inr rfl) 8 (by decide)
    (by decide)
  have hfound : story.resolve? path dotted.line dotted.target =
      some (.stitch path around namesake) := by
    decide +kernel
  have hline : story.line? path dotted.line = some "é <-> .k".toList := by decide +kernel
  rw [edits_changes, hfound] at hgoto hhover
  refine ⟨hgoto, hhover _ rfl fun cs hsame => ?_⟩
  rw [hline] at hsame
  cases hsame
  decide

/-! ## Targets of two segments -/

/-- From every column of a divert to a stitch of a knot, a cursor goes to the header of the knot,
    unless the knot around the divert has a stitch of the knot's name. Then it goes to that stitch. -/
theorem qualified_divert_leads_to_namesake (origin : Origin) (changes : List Edit) (path : Path)
    (file : InkFile) (hfile : (origin.story.edits changes).file? path = some file)
    (hordinary : isOrdinary file.text.toList = true) (divert : Divert)
    (hdivert : divert ∈ file.diverts) (knotName stitchName : String) (hne : knotName ≠ "")
    (hknotName : '.' ∉ knotName.toList) (hstitchName : '.' ∉ stitchName.toList)
    (htarget : divert.target = knotName ++ "." ++ stitchName) (owner : Path) (knot : Knot)
    (stitch : Stitch)
    (hresolve : (origin.story.edits changes).resolve? path divert.line divert.target =
      some (.stitch owner knot stitch)) (column : Nat)
    (hstart : divert.range.start.character ≤ column)
    (hstop : column ≤ divert.range.stop.character) :
    let story := origin.story.edits changes
    story.gotoDefinition? path ⟨divert.line, column⟩ =
      (((story.localStitch? path divert.line knotName).getD (.knot owner knot)).location?).map
        fun location => [location] := by
  intro story
  have h : story.WellFormed := edits_wellFormed (origin_wellFormed origin) changes
  obtain ⟨cs, front, word, back, hline, hin⟩ := h.exists_divertIn hfile hordinary hdivert
  -- The cursor looks up the first segment alone; the stitch only tells which knot the target names.
  have hkey : Cursor.keyOfTarget? word = some knotName := by
    have hword : word = knotName.toList ++ '.' :: stitchName.toList := by
      have heq := hin.target_eq.symm.trans htarget
      rw [← String.toList_ofList (l := word), heq]
      simp
    have hnil : knotName.toList ≠ [] := by simpa using hne
    rw [hword, Cursor.keyOfTarget?_pair hnil hknotName, String.ofList_toList]
  have hknot : story.knot? knotName = some (owner, knot) := by
    rw [htarget, resolve?_qualified hne hknotName hstitchName] at hresolve
    obtain ⟨⟨found, winner⟩, hwinner, hresolve⟩ := Option.bind_eq_some_iff.mp hresolve
    obtain ⟨member, -, heq⟩ := Option.bind_eq_some_iff.mp hresolve
    cases heq
    exact hwinner
  rw [gotoDefinition?_eq, goto?_of_divert hline hin hstart hstop hkey, resolve?_word hknotName, hknot]
  cases story.localStitch? path divert.line knotName <;> rfl

/-- The divert to the first knot's stitch sends the cursor to the other knot's stitch. -/
theorem Namesake.cursor_in_qualified : story.gotoDefinition? path ⟨4, 3⟩ =
    ((Definition.stitch path around namesake).location?).map fun location => [location] := by
  have hfound : story.resolve? path qualified.line qualified.target =
      some (.stitch path owner member) := by
    decide +kernel
  have hlocal : story.localStitch? path qualified.line "k" =
      some (.stitch path around namesake) := by
    decide +kernel
  have hgoto := qualified_divert_leads_to_namesake (.empty .root) changes path (.read path text)
    file?_eq (by decide +kernel) qualified (by decide +kernel) "k" "s" (by decide) (by decide)
    (by decide) rfl path owner member (by rw [edits_changes, hfound]) 3 (by decide) (by decide)
  rw [edits_changes] at hgoto
  refine Eq.trans hgoto ?_
  rw [hlocal]
  rfl

/-- It does not always go to the knot whose stitch the divert leads to. -/
theorem Namesake.cursor_misses_knot : ¬ ∀ (origin : Origin) (changes : List Edit) (path : Path)
    (file : InkFile), (origin.story.edits changes).file? path = some file →
    isOrdinary file.text.toList = true → ∀ divert ∈ file.diverts,
    ∀ knotName stitchName : String, knotName ≠ "" → '.' ∉ knotName.toList →
    '.' ∉ stitchName.toList → divert.target = knotName ++ "." ++ stitchName →
    ∀ (owner : Path) (knot : Knot) (stitch : Stitch),
    (origin.story.edits changes).resolve? path divert.line divert.target =
      some (.stitch owner knot stitch) →
    ∀ column, divert.range.start.character ≤ column → column ≤ divert.range.stop.character →
    (origin.story.edits changes).gotoDefinition? path ⟨divert.line, column⟩ =
      ((Definition.knot owner knot).location?).map fun location => [location] := by
  intro hall
  have hfound : story.resolve? path qualified.line qualified.target =
      some (.stitch path owner member) := by
    decide +kernel
  have hgoto := hall (.empty .root) changes path (.read path text) file?_eq (by decide +kernel)
    qualified (by decide +kernel) "k" "s" (by decide) (by decide) (by decide) rfl path owner member
    (by rw [edits_changes, hfound]) 3 (by decide) (by decide)
  have hne : story.gotoDefinition? path ⟨4, 3⟩ ≠
      ((Definition.knot path owner).location?).map fun location => [location] := by
    decide +kernel
  rw [edits_changes] at hgoto
  exact hne hgoto

end Story

end InkWorkspace
