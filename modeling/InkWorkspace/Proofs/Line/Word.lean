import InkWorkspace.Proofs.Line.Cursor

/- The words of a line and the one at a byte. A word is a run of words and dots that goes on as far as it
   can on both sides (`RunIn`), and the scan of a line finds these runs and no others
   (`mem_dottedWords_iff`). Two of them never touch the same byte: the characters around a run are parts
   of no run, so the first that touches is the only one. The word at a column is thus the run that
   touches the byte of the column, if there is one (`wordAt?_eq_some_iff`, `Touches.unique`). -/
namespace InkWorkspace

open Text

namespace Cursor

/-- The piece `word` of the line behind `front` is a run of words and dots, and nothing beside it belongs
    to it. -/
structure RunIn (line front word back : List Char) : Prop where
  line_eq : line = front ++ word ++ back
  ne_nil : word ≠ []
  word : ∀ c ∈ word, isWordOrDot c = true
  begins : Ends front.getLast?
  ends : Ends back.head?

/-- The run `word` behind `front` holds the byte offset or ends at it. -/
structure Touches (line : List Char) (offset : Nat) (front word : List Char) : Prop where
  run : ∃ back, RunIn line front word back
  start_le : (String.ofList front).utf8ByteSize ≤ offset
  le_stop : offset ≤ (String.ofList (front ++ word)).utf8ByteSize

/-! ## The words of a line -/

theorem runIn_read {before word behind : List Char} (hword : ∀ c ∈ word, isWordOrDot c = true)
    (hne : ¬ word.isEmpty = true) (hbefore : Ends before.head?) (hbehind : Ends behind.head?) :
    RunIn (before.reverse ++ word.reverse ++ behind) before.reverse word.reverse behind where
  line_eq := rfl
  ne_nil := by simpa using hne
  word := fun c hc => hword c (List.mem_reverse.mp hc)
  begins := by rwa [List.getLast?_reverse]
  ends := hbehind

theorem run_of_mem_dottedWords {before word cs : List Char} {token : Token}
    (hword : ∀ c ∈ word, isWordOrDot c = true) (hbefore : Ends before.head?)
    (h : token ∈ dottedWords before word cs) :
    ∃ front run back, RunIn (before.reverse ++ word.reverse ++ cs) front run back ∧
      token = .after front run := by
  fun_induction dottedWords before word cs with
  | case1 before word hempty => cases h
  | case2 before word hne =>
    rw [List.mem_singleton.mp h]
    exact ⟨_, _, _, runIn_read hword hne hbefore nofun, rfl⟩
  | case3 before word c cs hc ih =>
    have hmore : ∀ d ∈ c :: word, isWordOrDot d = true := by
      intro d hd
      rcases List.mem_cons.mp hd with rfl | hd
      · exact hc
      · exact hword d hd
    simpa using ih hmore hbefore h
  | case4 before word c cs hc hempty ih =>
    have hstop : Ends (c :: before).head? := by simpa [Ends] using hc
    rw [List.isEmpty_iff.mp hempty]
    simpa using ih nofun hstop h
  | case5 before word c cs hc hne ih =>
    have hstop : isWordOrDot c = false := by simpa using hc
    rcases List.mem_cons.mp h with rfl | h
    · exact ⟨_, _, _, runIn_read hword hne hbefore (by simpa [Ends] using hstop), rfl⟩
    · simpa using ih nofun (by simpa [Ends] using hstop) h

/-- The words of a line are its runs. -/
theorem mem_dottedWords_iff {line : List Char} {token : Token} :
    token ∈ dottedWords [] [] line ↔
      ∃ front word back, RunIn line front word back ∧ token = .after front word := by
  constructor
  · intro h
    exact run_of_mem_dottedWords (by nofun) (by nofun) h
  · intro h
    obtain ⟨front, word, back, ⟨rfl, hne, hword, hbegins, hends⟩, rfl⟩ := h
    obtain ⟨ahead, behind, hwords, -⟩ := dottedWords_of_run hword hne hbegins hends
    rw [hwords]
    exact List.mem_append_right ahead List.mem_cons_self

/-! ## The word at a column -/

variable {line : List Char} {column : Nat}

/-- The word at a column is the run that touches the byte of the column. -/
theorem wordAt?_eq_some_iff {token : Token} :
    wordAt? line column = some token ↔
      ∃ front word, Touches line (byteOfColumn line column) front word ∧
        token = .after front word := by
  constructor
  · intro h
    obtain ⟨front, word, back, hrun, rfl⟩ := mem_dottedWords_iff.mp (List.mem_of_find?_eq_some h)
    have htouches := List.find?_some h
    simp only [Token.after, Bool.and_eq_true, decide_eq_true_eq, ← utf8Length_append] at htouches
    refine ⟨front, word, ⟨⟨back, hrun⟩, ?_, ?_⟩, rfl⟩
    · rw [← utf8Length_eq]
      exact htouches.1
    · rw [← utf8Length_eq]
      exact htouches.2
  · intro h
    obtain ⟨front, word, ⟨⟨back, rfl, hne, hword, hbegins, hends⟩, hstart, hstop⟩, rfl⟩ := h
    rw [← utf8Length_eq] at hstart hstop
    exact wordAt?_of_touched hword hne hbegins hends hstart hstop

theorem Touches.unique {front word other run : List Char}
    (h : Touches line (byteOfColumn line column) front word)
    (hother : Touches line (byteOfColumn line column) other run) : front = other ∧ word = run := by
  have htokens : Token.after front word = Token.after other run := by
    have hword := wordAt?_eq_some_iff.mpr ⟨front, word, h, rfl⟩
    have hrun := wordAt?_eq_some_iff.mpr ⟨other, run, hother, rfl⟩
    exact Option.some.inj (hword.symm.trans hrun)
  obtain ⟨htext, hstart, -⟩ := Token.mk.inj htokens
  obtain ⟨back, hcut⟩ := h.run
  obtain ⟨behind, hcut'⟩ := hother.run
  -- Pieces of one line that begin at one byte stand behind the same characters.
  have hlength : front.length = other.length := by
    calc front.length = columnOfByte line (utf8Length front) := by
          rw [hcut.line_eq, List.append_assoc, columnOfByte_append]
      _ = columnOfByte line (utf8Length other) := by rw [hstart]
      _ = other.length := by rw [hcut'.line_eq, List.append_assoc, columnOfByte_append]
  have hline : front ++ (word ++ back) = other ++ (run ++ behind) := by
    rw [← List.append_assoc, ← hcut.line_eq, hcut'.line_eq, List.append_assoc]
  exact ⟨(List.append_inj hline hlength).1, String.ofList_injective htext⟩

end Cursor

end InkWorkspace
