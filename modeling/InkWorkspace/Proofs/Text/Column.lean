import InkWorkspace.Proofs.Text.Scan

/- Columns and bytes as places in a line. A byte offset is a place between two characters if the bytes in
   front of it are a text of their own, and these are the offsets of columns (`isBoundary_iff`). So
   counting the columns of an offset and the bytes of a column lead back to where they began
   (`columns_agree`): a column behind the end of the line counts as the end.

   Cutting a text at a byte takes such a place and fails at all others. It never fails at the byte of a
   column, and cuts the line at the column (`splitAt?_byteOfColumn`). -/
namespace InkWorkspace.Text

theorem utf8Length_eq (cs : List Char) : utf8Length cs = (String.ofList cs).utf8ByteSize := by
  induction cs with
  | nil => rfl
  | cons c cs ih =>
    have hcons : String.ofList (c :: cs) = String.singleton c ++ String.ofList cs := by
      rw [String.singleton_eq_ofList, ← String.ofList_append]
      rfl
    rw [utf8Length_cons, ih, hcons, String.utf8ByteSize_append, String.utf8ByteSize_singleton]

/-! ## Bytes of columns -/

theorem byteOfColumn_append (front back : List Char) :
    byteOfColumn (front ++ back) front.length = utf8Length front := by
  rw [byteOfColumn, List.take_left]

theorem byteOfColumn_min (line : List Char) (column : Nat) :
    byteOfColumn line (min column line.length) = byteOfColumn line column := by
  rw [byteOfColumn, ← List.take_eq_take_min, byteOfColumn]

theorem byteOfColumn_mono (line : List Char) {a b : Nat} (h : a ≤ b) :
    byteOfColumn line a ≤ byteOfColumn line b := by
  have hsplit : line.take b = line.take a ++ (line.take b).drop a := by
    calc line.take b = (line.take b).take a ++ (line.take b).drop a :=
          (List.take_append_drop a _).symm
      _ = line.take a ++ (line.take b).drop a := by rw [List.take_take, Nat.min_eq_left h]
  rw [byteOfColumn, byteOfColumn, hsplit, utf8Length_append]
  exact Nat.le_add_right _ _

theorem byteOfColumn_le (line : List Char) (column : Nat) :
    byteOfColumn line column ≤ utf8Length line := by
  calc byteOfColumn line column
      ≤ byteOfColumn line column + utf8Length (line.drop column) := Nat.le_add_right _ _
    _ = utf8Length line := by rw [byteOfColumn, ← utf8Length_append, List.take_append_drop]

theorem columnOfByte_byteOfColumn (line : List Char) (column : Nat) :
    columnOfByte line (byteOfColumn line column) = min column line.length := by
  have h := columnOfByte_append (line.take column) (line.drop column)
  rwa [List.take_append_drop, List.length_take] at h

/-! ## Places between characters -/

/-- The byte offset lies between two characters of the line, or at one of its ends: the bytes in front of
    it are those of a text. -/
def IsBoundary (line : List Char) (offset : Nat) : Prop :=
  (String.Pos.Raw.mk offset).IsValid (String.ofList line)

/-- The places between characters are the columns. -/
theorem isBoundary_iff {line : List Char} {offset : Nat} :
    IsBoundary line offset ↔ ∃ column, offset = byteOfColumn line column := by
  simp only [IsBoundary, String.Pos.Raw.isValid_ofList, byteOfColumn, utf8Length_eq]

/-- How the bytes and the columns of a line go together. -/
structure ColumnsAgree (line : List Char) : Prop where
  boundary : ∀ column, IsBoundary line (byteOfColumn line column)
  le_size : ∀ column, byteOfColumn line column ≤ (String.ofList line).utf8ByteSize
  mono : ∀ a b, a ≤ b → byteOfColumn line a ≤ byteOfColumn line b
  column_of_byte : ∀ column, columnOfByte line (byteOfColumn line column) = min column line.length
  byte_of_column : ∀ offset, IsBoundary line offset →
    byteOfColumn line (columnOfByte line offset) = offset

theorem columns_agree (line : List Char) : ColumnsAgree line where
  boundary column := isBoundary_iff.mpr ⟨column, rfl⟩
  le_size column := utf8Length_eq line ▸ byteOfColumn_le line column
  mono _ _ h := byteOfColumn_mono line h
  column_of_byte := columnOfByte_byteOfColumn line
  byte_of_column offset h := by
    obtain ⟨column, rfl⟩ := isBoundary_iff.mp h
    rw [columnOfByte_byteOfColumn, byteOfColumn_min]

/-! ## Cutting at a byte -/

/-- The parts of a text in front of a byte offset and behind it. There are none if the offset is not
    between two characters. -/
def splitAt? (text : String) (offset : Nat) : Option (String × String) :=
  if h : (String.Pos.Raw.mk offset).IsValid text then
    some ((text.sliceTo ⟨_, h⟩).copy, (text.sliceFrom ⟨_, h⟩).copy)
  else none

theorem splitAt?_byteOfColumn (line : List Char) (column : Nat) :
    splitAt? (String.ofList line) (byteOfColumn line column) =
      some (String.ofList (line.take column), String.ofList (line.drop column)) := by
  have hvalid : (String.Pos.Raw.mk (byteOfColumn line column)).IsValid (String.ofList line) :=
    (columns_agree line).boundary column
  have hsplits : (String.Pos.mk _ hvalid).Splits (String.ofList (line.take column))
      (String.ofList (line.drop column)) := by
    refine ⟨?_, ?_⟩
    · rw [← String.ofList_append, List.take_append_drop]
    · exact String.Pos.Raw.ext (utf8Length_eq (line.take column))
  rw [splitAt?, dif_pos hvalid, hsplits.copy_sliceTo_eq, hsplits.copy_sliceFrom_eq]

end InkWorkspace.Text
