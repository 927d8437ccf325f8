import InkWorkspace.Editor.Answer
import InkWorkspace.Proofs.Line.Word
import InkWorkspace.Proofs.Text.Column

/- An editor may ask about any column, also one that no character of the line has. To answer, the line is
   cut at the byte of the column, and a text can be cut between two characters only. The byte of a
   column is such a place, so the cut succeeds (`cutAtCursor`): the look-up key of a divert is put
   together from both parts, and completions are offered for the part in front.

   That is one half of what columns have to do. The other is that ranges, which are found in bytes and
   shown in columns, come back to the bytes they were found at. Both are in `columns_invert`, with the
   word that stands at a column. -/
namespace InkWorkspace

open Text

namespace Cursor

/-- The look-up key of a divert that is put together from the texts in front of the cursor and behind
    it. -/
def keyBetween? (before behind : List Char) : Option String := do
  let opened ← openDivert? before
  let rest ← Divert.dropArrow? opened
  keyOfTarget? (trimLeft rest ++ behind.takeWhile isWordOrDot)

theorem divertKey?_eq (line : List Char) (column : Nat) :
    divertKey? line column = keyBetween? (line.take column) (line.drop column) :=
  rfl

end Cursor

namespace Story

/-- The knots and stitches that are offered behind a text, if it asks for a divert target. -/
def offers? (story : Story) (settings : Settings) (before : List Char) : Option (List Completion) :=
  if Cursor.asksForTarget before then
    some (story.knots.map (fun (path, knot) => story.knotCompletion settings.markup path knot) ++
      story.stitches.map fun (path, knot, stitch) =>
        story.stitchCompletion settings.markup path knot stitch)
  else none

theorem completions?_of_line {story : Story} {settings : Settings} {path : Path}
    {position : Position} {line : List Char} (hline : story.line? path position.line = some line) :
    story.completions? settings path position =
      story.offers? settings (line.take position.character) := by
  rw [completions?, hline]
  rfl

end Story

namespace Cursor

/-- The line can be cut at the byte of the column, and what is answered there is read from the two
    parts. -/
structure CutAt (line : List Char) (column : Nat) (before behind : String) : Prop where
  parts : splitAt? (String.ofList line) (byteOfColumn line column) = some (before, behind)
  key : divertKey? line column = keyBetween? before.toList behind.toList
  offers : ∀ (story : Story) (settings : Settings) (path : Path) (n : Nat),
    story.line? path n = some line →
      story.completions? settings path ⟨n, column⟩ = story.offers? settings before.toList

theorem cutAtCursor (line : List Char) (column : Nat) :
    CutAt line column (String.ofList (line.take column)) (String.ofList (line.drop column)) where
  parts := splitAt?_byteOfColumn line column
  key := by rw [divertKey?_eq, String.toList_ofList, String.toList_ofList]
  offers := by
    intro story settings path n hline
    rw [Story.completions?_of_line hline, String.toList_ofList]

/-- Bytes and columns of a line lead back to each other, the line can be cut at every column, and the
    word there is the one run of words and dots that touches the column. -/
theorem columns_invert (line : List Char) :
    ColumnsAgree line ∧
    (∀ column, ∃ before behind, CutAt line column before behind) ∧
    ∀ column,
      (∀ token, wordAt? line column = some token ↔
        ∃ front word, Touches line (byteOfColumn line column) front word ∧
          token = .after front word) ∧
      ∀ front word other run, Touches line (byteOfColumn line column) front word →
        Touches line (byteOfColumn line column) other run → front = other ∧ word = run := by
  refine ⟨columns_agree line, ?_, ?_⟩
  · intro column
    exact ⟨_, _, cutAtCursor line column⟩
  · intro column
    refine ⟨fun token => wordAt?_eq_some_iff, ?_⟩
    intro front word other run htouches hother
    exact htouches.unique hother

namespace Accented

/-- The word behind the arrow begins with a character of two bytes, and so does the line. -/
def line : List Char := "é-> ü.x".toList

theorem touches : Touches line (byteOfColumn line 5) "é-> ".toList "ü.x".toList where
  run := by
    refine ⟨[], rfl, by decide, List.all_eq_true.mp (by decide), ?_, nofun⟩
    intro c hc
    obtain rfl : ' ' = c := Option.some.inj hc
    decide
  start_le := by decide
  le_stop := by decide

/-- Column 5 is byte 7, and back; the word there takes the bytes from 5 to 9. -/
theorem word_behind_accents :
    byteOfColumn line 5 = 7 ∧ columnOfByte line 7 = 5 ∧
      wordAt? line 5 = some ⟨"ü.x", 5, 9⟩ := by
  have hbyte : byteOfColumn line 5 = 7 := by decide
  obtain ⟨hagree, -, hwords⟩ := columns_invert line
  refine ⟨hbyte, ?_, ?_⟩
  · calc columnOfByte line 7 = columnOfByte line (byteOfColumn line 5) := by rw [hbyte]
      _ = 5 := hagree.column_of_byte 5
  · exact ((hwords 5).1 _).mpr ⟨_, _, touches, by decide⟩

end Accented

end Cursor

end InkWorkspace
