import InkWorkspace.Proofs.Line.Name
import InkWorkspace.Proofs.Order
import InkWorkspace.Proofs.Source
import InkWorkspace.Story.Query

/- Where the items of a text stand. Headers and diverts are those of its lines in order
   (`headers_ofLines`, `diverts_ofLines`), at most one header a line. So headers have different lines
   (`headers_rising`), and no position is in the ranges of two names: neither of two headers
   (`headers_before`), nor of two diverts (`diverts_before`), nor of a header and a divert
   (`header_disjoint_divert`). The definitions of a file are the headers of its knots and stitches
   (`definitions_places`), so the same holds of them. -/
namespace InkWorkspace

open Text

/-! ## Ranges -/

/-- The first position comes before the second. -/
def Position.Before (a b : Position) : Prop :=
  a.line < b.line ∨ a.line = b.line ∧ a.character < b.character

namespace Range

/-- The first range ends before the second begins. -/
def Before (a b : Range) : Prop :=
  a.stop.Before b.start

theorem Before.contains_eq_false {a b : Range} (h : a.Before b) {position : Position}
    (hposition : a.contains position = true) : b.contains position = false := by
  simp only [Before, Position.Before] at h
  simp only [contains, Bool.and_eq_true, Bool.or_eq_true, decide_eq_true_eq, beq_iff_eq] at hposition
  simp only [contains, Bool.and_eq_false_iff, Bool.or_eq_false_iff, decide_eq_false_iff_not,
    beq_eq_false_iff_ne]
  omega

/-- Among ranges that follow each other, a position belongs to one at most. -/
theorem find?_contains {α : Type} {range : α → Range} {items : List α}
    (h : items.Pairwise fun a b => (range a).Before (range b)) {item : α} (hitem : item ∈ items)
    {position : Position} (hposition : (range item).contains position = true) :
    items.find? (fun other => (range other).contains position) = some item := by
  induction items with
  | nil => cases hitem
  | cons first rest ih =>
    rw [List.pairwise_cons] at h
    rcases List.mem_cons.mp hitem with rfl | hrest
    · exact List.find?_cons_of_pos hposition
    · rw [List.find?_cons]
      split
      · next hfirst =>
        have hfalse := (h.1 item hrest).contains_eq_false hfirst
        rw [hposition] at hfalse
        cases hfalse
      · exact ih h.2 hrest

theorem countP_contains_le_one {α : Type} {range : α → Range} {items : List α}
    (h : items.Pairwise fun a b => (range a).Before (range b)) (position : Position) :
    (items.countP fun item => (range item).contains position) ≤ 1 := by
  induction h with
  | nil => exact Nat.zero_le 1
  | @cons first rest hfirst _ ih =>
    cases hcontains : (range first).contains position with
    | true =>
      have hrest : (rest.countP fun item => (range item).contains position) = 0 :=
        List.countP_eq_zero.mpr fun item hitem => by
          simp [(hfirst item hitem).contains_eq_false hcontains]
      simp [hcontains, hrest]
    | false => simpa [List.countP_cons, hcontains] using ih

theorem onLine_before_of_lt {line other : Nat} (h : line < other) (text more : List Char)
    (start stop first last : Nat) :
    (onLine line text start stop).Before (onLine other more first last) :=
  Or.inl h

theorem onLine_before_of_apart {text : List Char} {a b : Token} (h : Divert.Apart text a b)
    (line : Nat) : (onLine line text a.start a.stop).Before (onLine line text b.start b.stop) :=
  Or.inr ⟨rfl, by simp only [Divert.Apart] at h; simp only [onLine]; omega⟩

end Range

namespace Contents

/-! ## Headers -/

/-- The header that a line of the given number makes, if it is one. -/
def headerOn? (number : Nat) (line : List Char) : Option Header :=
  match LineShape.classify line with
  | .knot _ name parameters | .stitch name parameters =>
    some (headerOn number line name parameters)
  | _ => none

/-- All headers, the loose ones first and then each knot with its stitches. -/
def headers (contents : Contents) : List Header :=
  contents.loose ++ contents.knots.flatMap fun knot =>
    knot.toHeader :: knot.stitches.map (·.toHeader)

theorem knot_mem_headers {contents : Contents} {knot : Knot} (hknot : knot ∈ contents.knots) :
    knot.toHeader ∈ contents.headers :=
  List.mem_append_right _ (List.mem_flatMap.mpr ⟨knot, hknot, List.mem_cons_self⟩)

theorem stitch_mem_headers {contents : Contents} {knot : Knot} (hknot : knot ∈ contents.knots)
    {stitch : Stitch} (hstitch : stitch ∈ knot.stitches) : stitch.toHeader ∈ contents.headers :=
  List.mem_append_right _ (List.mem_flatMap.mpr
    ⟨knot, hknot, List.mem_cons_of_mem _ (List.mem_map_of_mem hstitch)⟩)

theorem loose_mem_headers {contents : Contents} {header : Header} (hloose : header ∈ contents.loose) :
    header ∈ contents.headers :=
  List.mem_append_left _ hloose

theorem headers_addLine (number : Nat) (line : List Char) (rest : Contents) :
    (addLine number line rest).headers = (headerOn? number line).toList ++ rest.headers := by
  unfold addLine headerOn?
  cases LineShape.classify line with
  | knot kind name parameters => simp [headers, Function.comp_def]
  | _ => rfl

theorem headers_ofLines (number : Nat) (ls : List (List Char)) :
    (ofLines number ls).headers =
      (ls.zipIdx number).filterMap fun (line, n) => headerOn? n line :=
  listed_ofLines rfl headers_addLine number ls

theorem headerOn?_eq_some {number : Nat} {line : List Char} {header : Header}
    (h : headerOn? number line = some header) : header.line = number ∧
      ∃ name, (LineShape.classify line).headerName? = some name ∧ header.name = name.text ∧
        header.range = .onLine number line name.start name.stop := by
  unfold headerOn? at h
  split at h
  · next name _ hshape => cases h; exact ⟨rfl, name, by rw [hshape]; rfl, rfl, rfl⟩
  · next name _ hshape => cases h; exact ⟨rfl, name, by rw [hshape]; rfl, rfl, rfl⟩
  · cases h

theorem headers_rising (number : Nat) (ls : List (List Char)) :
    (ofLines number ls).headers.Pairwise fun a b => a.line < b.line := by
  rw [headers_ofLines]
  exact listed_rising headerOn? (fun _ _ _ h => (headerOn?_eq_some h).1) number ls

theorem header_on {ls : List (List Char)} {header : Header}
    (h : header ∈ (ofLines 0 ls).headers) :
    ∃ line name, ls[header.line]? = some line ∧
      (LineShape.classify line).headerName? = some name ∧ header.name = name.text ∧
      header.range = .onLine header.line line name.start name.stop := by
  rw [headers_ofLines] at h
  obtain ⟨⟨line, n⟩, hline, hheader⟩ := List.mem_filterMap.mp h
  obtain ⟨rfl, name, hname, htext, hrange⟩ := headerOn?_eq_some hheader
  exact ⟨line, name, List.mk_mem_zipIdx_iff_getElem?.mp hline, hname, htext, hrange⟩

theorem headers_before (ls : List (List Char)) :
    (ofLines 0 ls).headers.Pairwise fun a b => a.range.Before b.range := by
  refine (headers_rising 0 ls).imp_of_mem ?_
  intro a b ha hb hab
  obtain ⟨_, _, -, -, -, hrange⟩ := header_on ha
  obtain ⟨_, _, -, -, -, hother⟩ := header_on hb
  rw [hrange, hother]
  exact Range.onLine_before_of_lt hab ..

/-! ## Globals -/

/-- The global that a line of the given number declares, if it is a declaration. -/
def globalOn? (number : Nat) (line : List Char) : Option Variable :=
  match LineShape.classify line with
  | .declaration kind name =>
    some ⟨name.text, kind, number, Range.onLine number line name.start name.stop⟩
  | _ => none

theorem globals_addLine (number : Nat) (line : List Char) (rest : Contents) :
    (addLine number line rest).globals = (globalOn? number line).toList ++ rest.globals := by
  unfold addLine globalOn?
  cases LineShape.classify line <;> rfl

theorem globals_ofLines (number : Nat) (ls : List (List Char)) :
    (ofLines number ls).globals =
      (ls.zipIdx number).filterMap fun (line, n) => globalOn? n line :=
  listed_ofLines rfl globals_addLine number ls

theorem global_on {ls : List (List Char)} {global : Variable}
    (h : global ∈ (ofLines 0 ls).globals) :
    ∃ line name, ls[global.line]? = some line ∧
      LineShape.classify line = .declaration global.kind name ∧ global.name = name.text ∧
      global.range = .onLine global.line line name.start name.stop := by
  rw [globals_ofLines] at h
  obtain ⟨⟨line, n⟩, hline, hglobal⟩ := List.mem_filterMap.mp h
  dsimp only [globalOn?] at hglobal
  split at hglobal
  · next kind name hshape =>
    cases hglobal
    exact ⟨line, name, List.mk_mem_zipIdx_iff_getElem?.mp hline, hshape, rfl, rfl⟩
  · cases hglobal

/-! ## Diverts -/

theorem diverts_ofLines (number : Nat) (ls : List (List Char)) :
    (ofLines number ls).diverts =
      (ls.zipIdx number).flatMap fun (line, n) => divertsOn n line := by
  induction ls generalizing number with
  | nil => rfl
  | cons line ls ih =>
    have hstep : (addLine number line (ofLines (number + 1) ls)).diverts =
        divertsOn number line ++ (ofLines (number + 1) ls).diverts := by
      unfold addLine
      cases LineShape.classify line <;> rfl
    rw [ofLines, hstep, ih, List.zipIdx_cons, List.flatMap_cons]

theorem divert_on {ls : List (List Char)} {divert : Divert} (h : divert ∈ (ofLines 0 ls).diverts) :
    ∃ line, ls[divert.line]? = some line ∧ ∃ token ∈ Divert.targets line,
      divert.target = token.text ∧
        divert.range = .onLine divert.line line token.start token.stop := by
  rw [diverts_ofLines] at h
  obtain ⟨⟨line, n⟩, hline, hdivert⟩ := List.mem_flatMap.mp h
  obtain ⟨token, htoken, rfl⟩ := List.mem_map.mp hdivert
  exact ⟨line, List.mk_mem_zipIdx_iff_getElem?.mp hline, token, htoken, rfl, rfl⟩

theorem diverts_before (number : Nat) (ls : List (List Char)) :
    (ofLines number ls).diverts.Pairwise fun a b => a.range.Before b.range := by
  rw [diverts_ofLines, List.pairwise_flatMap]
  constructor
  · rintro ⟨line, n⟩ -
    refine List.pairwise_map.mpr ((Divert.targets_apart line).imp fun hapart => ?_)
    exact Range.onLine_before_of_apart hapart n
  · refine (zipIdx_rising ls number).imp ?_
    intro a b hab x hx y hy
    obtain ⟨_, -, rfl⟩ := List.mem_map.mp hx
    obtain ⟨_, -, rfl⟩ := List.mem_map.mp hy
    exact Range.onLine_before_of_lt hab ..

/-- The diverts of a text stand in the order of their places. -/
theorem diverts_rising (ls : List (List Char)) :
    (ofLines 0 ls).diverts.Pairwise fun a b => a.range.start.Before b.range.start := by
  refine (diverts_before 0 ls).imp_of_mem ?_
  intro a b ha _ hbefore
  obtain ⟨line, -, token, htoken, -, hrange⟩ := divert_on ha
  obtain ⟨_, _, _, _, -, -, hon⟩ := Divert.targets_on htoken
  have hstart := hon.start_column
  have hstop := hon.stop_column
  simp only [Range.Before, Position.Before, hrange, Range.onLine] at hbefore ⊢
  omega

/-- No position is in a header and in a divert. -/
theorem header_disjoint_divert {ls : List (List Char)} {header : Header}
    (hheader : header ∈ (ofLines 0 ls).headers) {divert : Divert}
    (hdivert : divert ∈ (ofLines 0 ls).diverts) {position : Position}
    (h : header.range.contains position = true) : divert.range.contains position = false := by
  obtain ⟨line, name, hline, hname, -, hrange⟩ := header_on hheader
  obtain ⟨other, hother, token, htoken, -, hdivertRange⟩ := divert_on hdivert
  rcases Nat.lt_trichotomy header.line divert.line with hlt | heq | hgt
  · refine Range.Before.contains_eq_false ?_ h
    rw [hrange, hdivertRange]
    exact Range.onLine_before_of_lt hlt ..
  · rw [← heq, hline] at hother
    cases hother
    refine Range.Before.contains_eq_false ?_ h
    rw [hrange, hdivertRange, ← heq]
    exact Range.onLine_before_of_apart (LineShape.headerName?_apart hname htoken) _
  · have hbefore : divert.range.Before header.range := by
      rw [hrange, hdivertRange]
      exact Range.onLine_before_of_lt hgt ..
    cases hcontains : divert.range.contains position with
    | false => rfl
    | true =>
      rw [hbefore.contains_eq_false hcontains] at h
      cases h

end Contents

/-! ## Definitions -/

namespace InkFile

/-- The knots of a file, each with its stitches, in the order of their headers. -/
def definitions (file : InkFile) : List Definition :=
  file.knots.flatMap fun knot =>
    .knot file.path knot :: knot.stitches.map (.stitch file.path knot)

theorem definition_path {file : InkFile} {definition : Definition}
    (h : definition ∈ file.definitions) : definition.path = file.path := by
  obtain ⟨knot, -, hknot⟩ := List.mem_flatMap.mp h
  rcases List.mem_cons.mp hknot with rfl | hstitch
  · rfl
  · obtain ⟨stitch, -, rfl⟩ := List.mem_map.mp hstitch
    rfl

theorem definitions_places (file : InkFile) :
    (file.definitions.map fun definition => (definition.line, definition.range)).Sublist
      (file.headers.map fun header => (header.line, header.range)) := by
  rw [Contents.headers, List.map_append]
  refine List.Sublist.trans ?_ (List.sublist_append_right _ _)
  simp [definitions, List.map_flatMap, Function.comp_def, Definition.line, Definition.range]

theorem definitions_rising (path : Path) (text : String) :
    (read path text).definitions.Pairwise fun a b => a.line < b.line := by
  have hheaders : ((read path text).headers.map fun header => (header.line, header.range)).Pairwise
      fun a b => a.1 < b.1 :=
    List.pairwise_map.mpr (Contents.headers_rising 0 (lines text.toList))
  have hplaces := hheaders.sublist (definitions_places _)
  rwa [List.pairwise_map] at hplaces

/-- A line of a file defines one thing at most. -/
theorem definition_eq_of_line {path : Path} {text : String} {a b : Definition}
    (ha : a ∈ (read path text).definitions) (hb : b ∈ (read path text).definitions)
    (h : a.line = b.line) : a = b := by
  rcases pairwise_cases (definitions_rising path text) ha hb with heq | hlt | hgt
  · exact heq
  · exact absurd h (Nat.ne_of_lt hlt)
  · exact absurd h.symm (Nat.ne_of_lt hgt)

theorem definitions_before (path : Path) (text : String) :
    (read path text).definitions.Pairwise fun a b => a.range.Before b.range := by
  have hheaders : ((read path text).headers.map fun header => (header.line, header.range)).Pairwise
      fun a b => a.2.Before b.2 :=
    List.pairwise_map.mpr (Contents.headers_before (lines text.toList))
  have hplaces := hheaders.sublist (definitions_places _)
  rwa [List.pairwise_map] at hplaces

theorem definition_disjoint_divert {path : Path} {text : String} {definition : Definition}
    (hdefinition : definition ∈ (read path text).definitions) {divert : Divert}
    (hdivert : divert ∈ (read path text).diverts) {position : Position}
    (h : definition.range.contains position = true) : divert.range.contains position = false := by
  have hplace := (definitions_places _).subset (List.mem_map_of_mem hdefinition)
  obtain ⟨header, hheader, heq⟩ := List.mem_map.mp hplace
  rw [← (Prod.mk.inj heq).2] at h
  exact Contents.header_disjoint_divert hheader hdivert h

end InkFile

end InkWorkspace
