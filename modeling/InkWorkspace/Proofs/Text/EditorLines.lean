import InkWorkspace.Proofs.Text.Lines
import InkWorkspace.Proofs.Text.Scan

/- Where the two ways of cutting a text agree. In an ordinary text every break is a line feed, or a
   carriage return directly before one. Then the editor's lines are the compiler's lines, and behind a
   final break there is an empty one more (`editorLines_of_ordinary`); so a line has the same number in
   both views (`editorLine_of_line`).

   Both sides are cut from the front, one character at a time. The compiler's view looks ahead, since
   the carriage return of an ending is a part of the piece in front of the line feed and is taken off
   afterwards; in an ordinary text it is the last character of that piece, and the only one of its
   kind in it. -/
namespace InkWorkspace.Text

/-- Whether every break of the text is a line feed, or a carriage return directly before one. -/
def isOrdinary : List Char → Bool
  | [] => true
  | c :: cs =>
    (!isLineBreak c || c == '\n' || (c == '\r' && cs.head? == some '\n')) && isOrdinary cs

/-- The empty line that an editor shows in a text without characters, and behind a final line feed. -/
def openLine (cs : List Char) : List (List Char) :=
  if cs = [] ∨ cs.getLast? = some '\n' then [[]] else []

theorem openLine_cons {c : Char} {cs : List Char} (h : c = '\n' ∨ cs ≠ []) :
    openLine (c :: cs) = openLine cs := by
  cases cs with
  | nil =>
    obtain rfl : c = '\n' := h.resolve_right (fun hne => hne rfl)
    rfl
  | cons d cs => simp [openLine]

theorem isLineBreak_iff {c : Char} : isLineBreak c = true ↔
    c = '\n' ∨ c = '\r' ∨ c.toNat ∈ [0x0B, 0x0C, 0x85, 0x2028, 0x2029] := by
  simp [isLineBreak, or_assoc]

theorem isOrdinary_cons {c : Char} {cs : List Char} : isOrdinary (c :: cs) = true ↔
    (isLineBreak c = true → c = '\n' ∨ c = '\r' ∧ cs.head? = some '\n') ∧ isOrdinary cs = true := by
  simp only [isOrdinary, Bool.and_eq_true, Bool.or_eq_true, Bool.not_eq_true', beq_iff_eq]
  refine and_congr_left fun _ => ?_
  cases isLineBreak c <;> simp

/-- An ordinary text holds none of the rarer breaks, and a carriage return only directly before a line
    feed. -/
theorem isOrdinary_iff {cs : List Char} : isOrdinary cs = true ↔
    (∀ c ∈ cs, c.toNat ∉ [0x0B, 0x0C, 0x85, 0x2028, 0x2029]) ∧
      ∀ front back, cs = front ++ '\r' :: back → back.head? = some '\n' := by
  induction cs with
  | nil => simp [isOrdinary]
  | cons c cs ih =>
    rw [isOrdinary_cons, ih, List.forall_mem_cons]
    constructor
    · intro h
      obtain ⟨hbreak, hrare, hreturn⟩ := h
      refine ⟨⟨fun hmem => ?_, hrare⟩, fun front back heq => ?_⟩
      · rcases hbreak (isLineBreak_iff.mpr (Or.inr (Or.inr hmem))) with rfl | ⟨rfl, -⟩
        · exact absurd hmem (by decide)
        · exact absurd hmem (by decide)
      · -- A carriage return in front is checked here, one behind by induction.
        cases front with
        | nil =>
          obtain ⟨rfl, rfl⟩ := List.cons.inj heq
          exact ((hbreak (by decide)).resolve_left (by decide)).2
        | cons d front => exact hreturn front back (List.cons.inj heq).2
    · intro h
      obtain ⟨⟨hc, hrare⟩, hreturn⟩ := h
      have hbehind (front back : List Char) (heq : cs = front ++ '\r' :: back) :=
        hreturn (c :: front) back (congrArg (c :: ·) heq)
      refine ⟨fun hbreak => ?_, hrare, hbehind⟩
      rcases isLineBreak_iff.mp hbreak with hfeed | rfl | hmem
      · exact Or.inl hfeed
      · exact Or.inr ⟨rfl, hreturn [] cs rfl⟩
      · exact absurd hmem hc

/-! ## The compiler's lines from the front -/

theorem lines_feed (cs : List Char) : lines ('\n' :: cs) = [] :: lines cs :=
  lines_append [] cs

theorem lines_return (cs : List Char) : lines ('\r' :: '\n' :: cs) = [] :: lines cs :=
  lines_append ['\r'] cs

theorem dropReturn_cons {c : Char} (h : c ≠ '\r') (cs : List Char) :
    dropReturn (c :: cs) = c :: dropReturn cs := by
  cases cs with
  | nil => simp [dropReturn, h]
  | cons d cs =>
    simp only [dropReturn, List.getLast?_cons_cons, List.dropLast_cons_cons]
    split <;> rfl

theorem lines_char {c : Char} (hfeed : c ≠ '\n') (hreturn : c ≠ '\r') (cs : List Char) :
    lines (c :: cs) = (c :: (lines cs).headD []) :: (lines cs).tail := by
  cases hsplit : splitOn '\n' cs with
  | nil => exact absurd hsplit (splitOn_ne_nil '\n' cs)
  | cons piece pieces =>
    have hcons : splitOn '\n' (c :: cs) = (c :: piece) :: pieces := by
      simp only [splitOn, if_neg hfeed, hsplit]
    simp only [lines, hcons, hsplit]
    cases pieces with
    | nil => cases piece <;> simp [endLines]
    | cons next pieces => simp [endLines, dropReturn_cons hreturn]

theorem lines_ne_nil {cs : List Char} (h : cs ≠ []) : lines cs ≠ [] := by
  cases cs with
  | nil => exact absurd rfl h
  | cons c cs =>
    by_cases hfeed : c = '\n'
    · rw [hfeed, lines_feed]
      exact List.cons_ne_nil _ _
    · cases hsplit : splitOn '\n' cs with
      | nil => exact absurd hsplit (splitOn_ne_nil '\n' cs)
      | cons piece pieces => cases pieces <;> simp [lines, splitOn, hfeed, hsplit, endLines]

/-! ## The editor's lines -/

theorem dropLineEnd_cons {c : Char} (hfeed : c ≠ '\n') (hreturn : c ≠ '\r') (cs : List Char) :
    dropLineEnd (c :: cs) = c :: dropLineEnd cs := by
  have hstays : (c == '\r' || c == '\n') = false := by simp [hfeed, hreturn]
  simp only [dropLineEnd, List.reverse_cons]
  rw [dropWhile_append_stop hstays, List.reverse_append]
  rfl

theorem editorLines_ne_nil (cs : List Char) : editorLines cs ≠ [] := by
  fun_cases editorLines cs <;> simp_all

/-- In an ordinary text the editor shows the compiler's lines, and behind a final line feed, as in a
    text without characters, an empty one more. -/
theorem editorLines_of_ordinary {cs : List Char} (h : isOrdinary cs = true) :
    (editorLines cs).map dropLineEnd = lines cs ++ openLine cs := by
  fun_induction editorLines cs with
  | case1 => rfl
  | case2 cs ih =>
    have hrest : isOrdinary cs = true := (isOrdinary_cons.mp (isOrdinary_cons.mp h).2).2
    rw [List.map_cons, ih hrest, lines_return, openLine_cons (Or.inr (List.cons_ne_nil _ _)),
      openLine_cons (Or.inl rfl)]
    rfl
  | case3 c cs hpair hbreak ih =>
    obtain ⟨hends, hrest⟩ := isOrdinary_cons.mp h
    -- A carriage return is followed by a line feed here, so it falls under the case before.
    have hfeed : c = '\n' := by
      rcases hends hbreak with rfl | ⟨rfl, hnext⟩
      · rfl
      · obtain ⟨rest, rfl⟩ : ∃ rest, cs = '\n' :: rest := List.head?_eq_some_iff.mp hnext
        exact absurd rfl (hpair rest rfl)
    subst hfeed
    rw [List.map_cons, ih hrest, lines_feed, openLine_cons (Or.inl rfl)]
    rfl
  | case4 c cs hpair hstays hnone ih => exact absurd hnone (editorLines_ne_nil cs)
  | case5 c cs hpair hstays line rest heq ih =>
    have hfeed : c ≠ '\n' := by
      rintro rfl
      exact hstays (by decide)
    have hreturn : c ≠ '\r' := by
      rintro rfl
      exact hstays (by decide)
    have hlines := ih (isOrdinary_cons.mp h).2
    rw [List.map_cons, dropLineEnd_cons hfeed hreturn, lines_char hfeed hreturn]
    by_cases hcs : cs = []
    · subst hcs
      cases heq
      simp [lines, splitOn, endLines, openLine, hfeed, dropLineEnd]
    · cases hrest : lines cs with
      | nil => exact absurd hrest (lines_ne_nil hcs)
      | cons first more =>
        rw [heq, hrest, List.map_cons, List.cons_append] at hlines
        obtain ⟨hfirst, hmore⟩ := List.cons.inj hlines
        rw [hfirst, hmore, openLine_cons (Or.inr hcs)]
        rfl

theorem editorLine_of_line {cs : List Char} (h : isOrdinary cs = true) {n : Nat} {line : List Char}
    (hline : (lines cs)[n]? = some line) : (editorLines cs)[n]?.map dropLineEnd = some line := by
  have hlt : n < (lines cs).length := (List.getElem?_eq_some_iff.mp hline).1
  rw [← List.getElem?_map, editorLines_of_ordinary h, List.getElem?_append_left hlt, hline]

end InkWorkspace.Text
