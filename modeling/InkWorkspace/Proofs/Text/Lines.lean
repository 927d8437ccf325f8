import InkWorkspace.Text.Lines

/- The lines of a text that is put together from pieces. A line feed ends everything in front of it, so
   the pieces in front of one are all lines, the last of them without the carriage return at its end
   (`lines_append`). A text that nothing follows differs from this in its last piece only
   (`lines_eq`): that is a line as it stands, or none if it is empty. -/
namespace InkWorkspace.Text

theorem splitOn_ne_nil (sep : Char) (cs : List Char) : splitOn sep cs ≠ [] := by
  cases cs with
  | nil => exact List.cons_ne_nil _ _
  | cons c cs =>
    simp only [splitOn]
    split
    · exact List.cons_ne_nil _ _
    · split <;> exact List.cons_ne_nil _ _

theorem splitOn_append (sep : Char) (front back : List Char) :
    splitOn sep (front ++ sep :: back) = splitOn sep front ++ splitOn sep back := by
  induction front with
  | nil => simp [splitOn]
  | cons c front ih =>
    simp only [List.cons_append, splitOn, ih]
    split
    · rfl
    · cases hfront : splitOn sep front with
      | nil => exact absurd hfront (splitOn_ne_nil sep front)
      | cons piece pieces => rfl

theorem splitOn_of_not_mem {sep : Char} {cs : List Char} (h : sep ∉ cs) :
    splitOn sep cs = [cs] := by
  induction cs with
  | nil => rfl
  | cons c cs ih =>
    rw [List.mem_cons, not_or] at h
    simp only [splitOn, if_neg (Ne.symm h.1), ih h.2]

theorem not_mem_of_mem_splitOn {sep : Char} {piece cs : List Char} (h : piece ∈ splitOn sep cs) :
    sep ∉ piece := by
  induction cs generalizing piece with
  | nil =>
    rw [List.mem_singleton.mp h]
    exact List.not_mem_nil
  | cons c cs ih =>
    simp only [splitOn] at h
    split at h
    · rcases List.mem_cons.mp h with rfl | h
      · exact List.not_mem_nil
      · exact ih h
    · next hne =>
      cases hrest : splitOn sep cs with
      | nil => exact absurd hrest (splitOn_ne_nil sep cs)
      | cons first pieces =>
        rw [hrest] at h ih
        rcases List.mem_cons.mp h with rfl | h
        · simp [Ne.symm hne, ih List.mem_cons_self]
        · exact ih (List.mem_cons_of_mem first h)

theorem mem_of_mem_splitOn {sep c : Char} {piece cs : List Char} (h : piece ∈ splitOn sep cs)
    (hc : c ∈ piece) : c ∈ cs := by
  induction cs generalizing piece with
  | nil =>
    rw [List.mem_singleton.mp h] at hc
    exact hc
  | cons d cs ih =>
    simp only [splitOn] at h
    split at h
    · rcases List.mem_cons.mp h with rfl | h
      · cases hc
      · exact List.mem_cons_of_mem d (ih h hc)
    · cases hrest : splitOn sep cs with
      | nil => exact absurd hrest (splitOn_ne_nil sep cs)
      | cons first pieces =>
        rw [hrest] at h ih
        rcases List.mem_cons.mp h with rfl | h
        · rcases List.mem_cons.mp hc with rfl | hc
          · exact List.mem_cons_self
          · exact List.mem_cons_of_mem d (ih List.mem_cons_self hc)
        · exact List.mem_cons_of_mem d (ih (List.mem_cons_of_mem first h) hc)

/-- Pieces without the separator are cut apart again when they are joined. -/
theorem splitOn_intercalate {sep : Char} {pieces : List (List Char)} (hne : pieces ≠ [])
    (h : ∀ piece ∈ pieces, sep ∉ piece) : splitOn sep ([sep].intercalate pieces) = pieces := by
  induction pieces with
  | nil => exact absurd rfl hne
  | cons piece pieces ih =>
    have hpiece : splitOn sep piece = [piece] :=
      splitOn_of_not_mem (h piece List.mem_cons_self)
    cases pieces with
    | nil => rwa [List.intercalate_singleton]
    | cons next pieces =>
      have hrest := ih (List.cons_ne_nil next pieces)
        fun other hother => h other (List.mem_cons_of_mem piece hother)
      rw [List.intercalate_cons_cons, List.append_assoc, List.singleton_append, splitOn_append,
        hpiece, hrest]
      rfl

theorem mem_dropReturn {c : Char} {line : List Char} (h : c ∈ dropReturn line) : c ∈ line := by
  unfold dropReturn at h
  split at h
  · exact (List.dropLast_sublist line).subset h
  · exact h

theorem feed_not_mem_of_mem_endLines {pieces : List (List Char)}
    (h : ∀ piece ∈ pieces, '\n' ∉ piece) : ∀ line ∈ endLines pieces, '\n' ∉ line := by
  fun_induction endLines pieces with
  | case1 => nofun
  | case2 last hempty => nofun
  | case3 last hfull =>
    intro line hline
    rw [List.mem_singleton.mp hline]
    exact h last List.mem_cons_self
  | case4 piece pieces hmore ih =>
    intro line hline
    rcases List.mem_cons.mp hline with rfl | hline
    · intro hfeed
      exact h piece List.mem_cons_self (mem_dropReturn hfeed)
    · exact ih (fun other hother => h other (List.mem_cons_of_mem piece hother)) line hline

theorem feed_not_mem_of_mem_lines {line cs : List Char} (h : line ∈ lines cs) : '\n' ∉ line :=
  feed_not_mem_of_mem_endLines (fun _ hpiece => not_mem_of_mem_splitOn hpiece) line h

theorem endLines_append (front : List (List Char)) {back : List (List Char)} (h : back ≠ []) :
    endLines (front ++ back) = front.map dropReturn ++ endLines back := by
  induction front with
  | nil => rfl
  | cons piece front ih =>
    cases hrest : front ++ back with
    | nil => exact absurd (List.append_eq_nil_iff.mp hrest).2 h
    | cons next rest =>
      rw [List.cons_append, hrest, endLines, ← hrest, ih, List.map_cons, List.cons_append]
      simp

/-- The lines of a text that something follows. -/
def endedLines (cs : List Char) : List (List Char) :=
  (splitOn '\n' cs).map dropReturn

theorem lines_append (front back : List Char) :
    lines (front ++ '\n' :: back) = endedLines front ++ lines back := by
  rw [lines, splitOn_append, endLines_append _ (splitOn_ne_nil _ _)]
  rfl

theorem lines_line_append {line : List Char} (hfeed : '\n' ∉ line) (hreturn : '\r' ∉ line)
    (back : List Char) : lines (line ++ '\n' :: back) = line :: lines back := by
  rw [lines_append, endedLines, splitOn_of_not_mem hfeed, List.map_singleton, dropReturn,
    if_neg (mt List.mem_of_getLast? hreturn)]
  rfl

theorem dropReturn_cases (line : List Char) :
    dropReturn line = line ∨ line = dropReturn line ++ ['\r'] := by
  unfold dropReturn
  split
  · next hlast =>
    obtain ⟨front, rfl⟩ := List.getLast?_eq_some_iff.mp hlast
    exact Or.inr (by rw [List.dropLast_concat])
  · exact Or.inl rfl

/-- What stands behind the last line feed of a text. -/
def lastPiece (cs : List Char) : List Char :=
  (splitOn '\n' cs).getLast (splitOn_ne_nil '\n' cs)

/-- Whether something follows a text concerns its last piece only. -/
theorem lines_eq (cs : List Char) :
    ∃ front, lines cs = front ++ (if (lastPiece cs).isEmpty then [] else [lastPiece cs]) ∧
      endedLines cs = front ++ [dropReturn (lastPiece cs)] := by
  have hsplit : splitOn '\n' cs = (splitOn '\n' cs).dropLast ++ [lastPiece cs] :=
    (List.dropLast_concat_getLast (splitOn_ne_nil '\n' cs)).symm
  refine ⟨(splitOn '\n' cs).dropLast.map dropReturn, ?_, ?_⟩
  · rw [lines, hsplit, endLines_append _ (List.cons_ne_nil _ []), List.dropLast_concat]
    rfl
  · rw [endedLines, hsplit, List.map_append, List.map_singleton, List.dropLast_concat]

end InkWorkspace.Text
