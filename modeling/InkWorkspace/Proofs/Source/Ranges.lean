import InkWorkspace.Proofs.Line.Target
import InkWorkspace.Proofs.Source.Place

/- The ranges of an index. A name is a piece of its line (`Token.On`), and the range of a piece runs from
   the column behind what stands in front of it to the column behind the piece itself, so the
   characters between these columns are the name again (`spans_onLine`).

   Two names of a text do not touch: between any two of them on one line stands an arrow, and an arrow
   takes two columns. So a position is in the range of one header or divert at most, even if both ends of
   a range count (`ranges_sound`). -/
namespace InkWorkspace

open Text

namespace Range

/-- The range lies on one line of the text, and the characters between its columns are `name`. -/
structure Spans (ls : List (List Char)) (line : Nat) (range : Range) (name : String) : Prop where
  start_line : range.start.line = line
  stop_line : range.stop.line = line
  ne_nil : range.start.character < range.stop.character
  text : ∃ chars, ls[line]? = some chars ∧ range.stop.character ≤ chars.length ∧
    (chars.drop range.start.character).take (range.stop.character - range.start.character) =
      name.toList

theorem spans_onLine {ls : List (List Char)} {n : Nat} {line front word : List Char} {token : Token}
    (hline : ls[n]? = some line) (hon : token.On line front word) (hne : word ≠ []) :
    Spans ls n (onLine n line token.start token.stop) token.text := by
  have hpos := List.length_pos_iff.mpr hne
  have hstart : (onLine n line token.start token.stop).start.character = front.length :=
    hon.start_column
  have hstop : (onLine n line token.start token.stop).stop.character = front.length + word.length :=
    hon.stop_column
  obtain ⟨rfl, back, rfl⟩ := hon
  refine ⟨rfl, rfl, ?_, _, hline, ?_, ?_⟩
  · omega
  · rw [hstop]
    simp
  · rw [hstart, hstop, Nat.add_sub_cancel_left, List.append_assoc, List.drop_left, List.take_left]
    exact String.toList_ofList.symm

end Range

namespace Contents

variable {ls : List (List Char)}

theorem header_spans {header : Header} (h : header ∈ (ofLines 0 ls).headers) :
    Range.Spans ls header.line header.range header.name := by
  obtain ⟨line, name, hline, hname, htext, hrange⟩ := header_on h
  obtain ⟨front, word, hnamed⟩ := LineShape.headerName?_on hname
  rw [htext, hrange]
  exact Range.spans_onLine hline hnamed.on hnamed.ne_nil

theorem global_spans {global : Variable} (h : global ∈ (ofLines 0 ls).globals) :
    Range.Spans ls global.line global.range global.name := by
  obtain ⟨line, name, hline, hshape, htext, hrange⟩ := global_on h
  obtain ⟨front, word, hon, hne⟩ := LineShape.declaration_on hshape
  rw [htext, hrange]
  exact Range.spans_onLine hline hon hne

theorem divert_spans {divert : Divert} (h : divert ∈ (ofLines 0 ls).diverts) :
    Range.Spans ls divert.line divert.range divert.target := by
  obtain ⟨line, hline, token, htoken, htext, hrange⟩ := divert_on h
  obtain ⟨before, mark, point, gap, word, back, hcut, -, -, htarget, hafter⟩ :=
    Divert.targets_cut htoken
  rw [htext, hrange]
  exact Range.spans_onLine hline ⟨hafter, back, hcut⟩ (Divert.target?_eq_some_iff.mp htarget).1

theorem countP_contains_le_one (ls : List (List Char)) (position : Position) :
    ((ofLines 0 ls).headers.countP fun header => header.range.contains position) +
      ((ofLines 0 ls).diverts.countP fun divert => divert.range.contains position) ≤ 1 := by
  have hheaders := Range.countP_contains_le_one (headers_before ls) position
  have hdiverts := Range.countP_contains_le_one (diverts_before 0 ls) position
  by_cases h : ∃ header ∈ (ofLines 0 ls).headers, header.range.contains position = true
  · obtain ⟨header, hheader, hcontains⟩ := h
    have hnone : ((ofLines 0 ls).diverts.countP fun divert => divert.range.contains position) = 0 :=
      List.countP_eq_zero.mpr fun divert hdivert => by
        simp [header_disjoint_divert hheader hdivert hcontains]
    omega
  · have hnone : ((ofLines 0 ls).headers.countP fun header => header.range.contains position) = 0 :=
      List.countP_eq_zero.mpr fun header hheader hcontains => h ⟨header, hheader, hcontains⟩
    omega

end Contents

namespace InkFile

/-- The ranges of a file are the places of its names, and no place belongs to two headers or diverts:
    whatever the position, at most one of all headers and diverts contains it. -/
theorem ranges_sound (path : Path) (text : String) :
    let file := read path text
    let ls := lines text.toList
    (∀ knot ∈ file.knots, Range.Spans ls knot.line knot.range knot.name ∧
      ∀ stitch ∈ knot.stitches, Range.Spans ls stitch.line stitch.range stitch.name) ∧
    (∀ header ∈ file.loose, Range.Spans ls header.line header.range header.name) ∧
    (∀ global ∈ file.globals, Range.Spans ls global.line global.range global.name) ∧
    (∀ divert ∈ file.diverts, Range.Spans ls divert.line divert.range divert.target) ∧
    ∀ position : Position,
      (file.headers.countP fun header => header.range.contains position) +
        (file.diverts.countP fun divert => divert.range.contains position) ≤ 1 := by
  have hheader (header : Header) (h : header ∈ (read path text).headers) := Contents.header_spans h
  refine ⟨fun knot hknot => ⟨?_, fun stitch hstitch => ?_⟩, fun header hloose => ?_,
    fun _ => Contents.global_spans, fun _ => Contents.divert_spans,
    Contents.countP_contains_le_one (lines text.toList)⟩
  · exact hheader knot.toHeader (List.mem_append_right _
      (List.mem_flatMap.mpr ⟨knot, hknot, List.mem_cons_self⟩))
  · exact hheader stitch.toHeader (List.mem_append_right _
      (List.mem_flatMap.mpr ⟨knot, hknot, List.mem_cons_of_mem _ (List.mem_map_of_mem hstitch)⟩))
  · exact hheader header (List.mem_append_left _ hloose)

end InkFile

end InkWorkspace
