import InkWorkspace.Proofs.Source.Ranges
import InkWorkspace.Proofs.Text.EditorLines

/- Fetching the lines of an ordinary text by number. The editor shows the lines that the index was made
   from, and one open line behind a final break or in an empty text (`line?_eq`). So below the number of
   the compiler's lines a fetch gives what the index saw, behind them at most the open line, and then
   nothing (`ordinary_lines_agree`).

   Hence an item finds its name again: the range of the name lies on the line of the item, and the line
   that is fetched by this number is the one that the name was cut from (`Fetches.of_spans`). -/
namespace InkWorkspace

open Text

namespace InkFile

section Lines

variable {text : String} (path : Path) (h : isOrdinary text.toList = true)

include h

/-- The lines of an ordinary text by number: the compiler's, and the open one behind them. -/
theorem line?_eq (n : Nat) :
    (read path text).line? n = (lines text.toList ++ openLine text.toList)[n]? := by
  rw [line?, ← List.getElem?_map, ← editorLines_of_ordinary h]
  rfl

theorem lineCount_eq :
    (read path text).lineCount = (lines text.toList ++ openLine text.toList).length := by
  rw [← editorLines_of_ordinary h, List.length_map]
  rfl

theorem line?_of_lines {n : Nat} {line : List Char} (hline : (lines text.toList)[n]? = some line) :
    (read path text).line? n = some line := by
  rw [line?_eq path h, List.getElem?_append_left (List.getElem?_eq_some_iff.mp hline).1, hline]

end Lines

/-- The line that is fetched by number, cut at the columns of the range, is the name. -/
structure Fetches (file : InkFile) (line : Nat) (range : Range) (name : String) : Prop where
  start_line : range.start.line = line
  stop_line : range.stop.line = line
  slice : ∃ cs, file.line? line = some cs ∧ range.start.character ≤ range.stop.character ∧
    range.stop.character ≤ cs.length ∧
    (cs.drop range.start.character).take (range.stop.character - range.start.character) = name.toList

theorem Fetches.of_spans {text : String} (path : Path) (h : isOrdinary text.toList = true) {line : Nat}
    {range : Range} {name : String} (hspans : Range.Spans (lines text.toList) line range name) :
    Fetches (read path text) line range name where
  start_line := hspans.start_line
  stop_line := hspans.stop_line
  slice := by
    obtain ⟨cs, hline, hstop, hslice⟩ := hspans.text
    exact ⟨cs, line?_of_lines path h hline, Nat.le_of_lt hspans.ne_nil, hstop, hslice⟩

/-- In a text without the rarer breaks, in which a carriage return stands only directly before a line
    feed, the two ways to cut lines agree. A line that the index was made from is fetched by its number;
    one more, empty line follows if the text is empty or ends in a line feed; and there are no others.
    So the names and targets of the index are what stands at their ranges. -/
theorem ordinary_lines_agree (path : Path) (text : String)
    (hrare : ∀ c ∈ text.toList, c.toNat ∉ [0x0B, 0x0C, 0x85, 0x2028, 0x2029])
    (hreturn : ∀ front back, text.toList = front ++ '\r' :: back → back.head? = some '\n') :
    let file := read path text
    let ls := lines text.toList
    (∀ i < ls.length, file.line? i = ls[i]?) ∧
    (file.line? ls.length = some [] ↔ text = "" ∨ text.toList.getLast? = some '\n') ∧
    file.lineCount = ls.length + (if text = "" ∨ text.toList.getLast? = some '\n' then 1 else 0) ∧
    (∀ i, file.lineCount ≤ i → file.line? i = none) ∧
    (∀ knot ∈ file.knots, file.Fetches knot.line knot.range knot.name ∧
      ∀ stitch ∈ knot.stitches, file.Fetches stitch.line stitch.range stitch.name) ∧
    (∀ header ∈ file.loose, file.Fetches header.line header.range header.name) ∧
    (∀ global ∈ file.globals, file.Fetches global.line global.range global.name) ∧
    ∀ divert ∈ file.diverts, file.Fetches divert.line divert.range divert.target := by
  intro file ls
  have h : isOrdinary text.toList = true := isOrdinary_iff.mpr ⟨hrare, hreturn⟩
  -- To the compiler's lines, the editor adds the one that a break at the end leaves open.
  have hopen : openLine text.toList =
      if text = "" ∨ text.toList.getLast? = some '\n' then [[]] else [] := by
    simp only [openLine, String.toList_eq_nil_iff]
  have hline (n : Nat) : file.line? n = (ls ++ openLine text.toList)[n]? := line?_eq path h n
  have hcount : file.lineCount = (ls ++ openLine text.toList).length := lineCount_eq path h
  have fetches (header : Header) (hheader : header ∈ file.headers) :
      file.Fetches header.line header.range header.name :=
    .of_spans path h (Contents.header_spans hheader)
  refine ⟨fun i hi => ?_, ?_, ?_, fun i hi => ?_, fun knot hknot => ⟨?_, fun stitch hstitch => ?_⟩,
    fun header hloose => ?_, fun global hglobal => ?_, fun divert hdivert => ?_⟩
  · rw [hline, List.getElem?_append_left hi]
  · rw [hline, List.getElem?_append_right (Nat.le_refl _), Nat.sub_self, hopen]
    split <;> simp_all
  · rw [hcount, List.length_append, hopen]
    split <;> rfl
  · rw [hline, List.getElem?_eq_none (hcount ▸ hi)]
  · exact fetches knot.toHeader (Contents.knot_mem_headers hknot)
  · exact fetches stitch.toHeader (Contents.stitch_mem_headers hknot hstitch)
  · exact fetches header (Contents.loose_mem_headers hloose)
  · exact .of_spans path h (Contents.global_spans hglobal)
  · exact .of_spans path h (Contents.divert_spans hdivert)

/-! ## A text with carriage returns -/

namespace Returns

def path : Path := .ofString "/a.ink"

/-- Two lines end in a carriage return and a line feed, two in a line feed alone. -/
def text : String := "VAR á = 1\r\n== é ==\r\n= s\n-> é.s\n"

def divert : Divert := ⟨"é.s", 3, ⟨⟨3, 3⟩, ⟨3, 6⟩⟩⟩

/-- The divert is found on the line of its number. An empty line follows it, and then there is none. -/
theorem fetches_divert :
    (∀ c ∈ text.toList, c.toNat ∉ [0x0B, 0x0C, 0x85, 0x2028, 0x2029]) ∧
      (∀ front back, text.toList = front ++ '\r' :: back → back.head? = some '\n') ∧
      (read path text).line? 3 = some "-> é.s".toList ∧ (read path text).line? 4 = some [] ∧
      (read path text).line? 5 = none ∧
      (read path text).Fetches divert.line divert.range divert.target := by
  have hordinary : isOrdinary text.toList = true := by decide +kernel
  obtain ⟨hrare, hreturn⟩ := isOrdinary_iff.mp hordinary
  obtain ⟨hlines, hopen, hcount, hnone, -, -, -, hdiverts⟩ :=
    ordinary_lines_agree path text hrare hreturn
  have hlength : (lines text.toList).length = 4 := by decide +kernel
  have hfeed : text.toList.getLast? = some '\n' := by decide +kernel
  rw [hlength] at hlines hopen hcount
  refine ⟨hrare, hreturn, (hlines 3 (by decide)).trans (by decide +kernel), hopen.mpr (Or.inr hfeed),
    hnone 5 (Nat.le_of_eq ?_), hdiverts divert (by decide +kernel)⟩
  rw [hcount, if_pos (Or.inr hfeed)]

end Returns

end InkFile

end InkWorkspace
