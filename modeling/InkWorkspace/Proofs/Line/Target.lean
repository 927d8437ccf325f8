import InkWorkspace.Proofs.Line

/- What stands around a divert target. A target is a run of words and dots that begins with a word or
   a dot in front of one (`dottedRun_dot`), ends in a word (`isWord_of_getLast?_dottedRun`) and goes on
   as far as it can, so no word stands behind it (`isWord_behind_dottedRun`).

   `targets_cut` cuts a line around a target that the index finds. In front of the target stand an
   arrow and blanks, and the target is the longest one there. The index looks for it in the code in
   front of a line comment only, but the comment begins with a slash, which no target contains, so it
   is the longest one of the whole line as well. -/
namespace InkWorkspace

open Text

namespace Text

theorem isWord_dot : isWord '.' = false := by decide

theorem isWordOrDot_of_isWord {c : Char} (h : isWord c = true) : isWordOrDot c = true := by
  simp [isWordOrDot, h]

theorem isBlank_eq_false_of_isWordOrDot {c : Char} (h : isWordOrDot c = true) :
    isBlank c = false := by
  rw [isWordOrDot, Bool.or_eq_true, beq_iff_eq] at h
  rcases h with hword | rfl
  · exact isBlank_eq_false_of_isWord hword
  · decide

theorem trimLeft_blanks_append {gap word : List Char} (hgap : ∀ c ∈ gap, isBlank c = true)
    (hword : ∀ c ∈ word, isWordOrDot c = true) : trimLeft (gap ++ word) = word := by
  rw [trimLeft, List.dropWhile_append_of_pos hgap]
  cases word with
  | nil => rfl
  | cons c word =>
    have hfirst := isBlank_eq_false_of_isWordOrDot (hword c List.mem_cons_self)
    rw [List.dropWhile_cons_of_neg (by simp [hfirst])]

end Text

namespace Divert

/-! ## Targets -/

theorem dottedRun_word {c : Char} (h : isWord c = true) (cs : List Char) :
    dottedRun (c :: cs) = c :: dottedRun cs := by
  cases cs <;> simp [dottedRun, h]

theorem dottedRun_append_stop {stop : Char} (h : isWordOrDot stop = false) (cs back : List Char) :
    dottedRun (cs ++ stop :: back) = dottedRun cs := by
  simp only [isWordOrDot, Bool.or_eq_false_iff, beq_eq_false_iff_ne] at h
  have hstop : dottedRun (stop :: back) = [] := by
    cases back <;> simp [dottedRun, h.1, h.2]
  fun_induction dottedRun cs with
  | case1 => exact hstop
  | case2 c hword => rw [List.singleton_append, dottedRun_word hword, hstop]
  | case3 c hword => simp [dottedRun, hword, h.1]
  | case4 c d cs hgoes ih =>
    rw [List.cons_append, List.cons_append, dottedRun, if_pos hgoes, ← List.cons_append, ih]
  | case5 c d cs hstops =>
    rw [List.cons_append, List.cons_append, dottedRun, if_neg hstops]

theorem isWordOrDot_of_mem_dottedRun {c : Char} {cs : List Char} (h : c ∈ dottedRun cs) :
    isWordOrDot c = true := by
  fun_induction dottedRun cs with
  | case1 => cases h
  | case2 d hword =>
    rw [List.mem_singleton.mp h]
    exact isWordOrDot_of_isWord hword
  | case3 d hword => cases h
  | case4 d e cs hgoes ih =>
    rcases List.mem_cons.mp h with rfl | h
    · simp only [Bool.or_eq_true, Bool.and_eq_true] at hgoes
      rw [isWordOrDot, Bool.or_eq_true]
      exact hgoes.imp_right And.left
    · exact ih h
  | case5 d e cs hstops => cases h

theorem isWord_of_getLast?_dottedRun {c : Char} {cs : List Char}
    (h : (dottedRun cs).getLast? = some c) : isWord c = true := by
  fun_induction dottedRun cs with
  | case1 => cases h
  | case2 d hword =>
    cases h
    exact hword
  | case3 d hword => cases h
  | case4 d e cs hgoes ih =>
    cases hrun : dottedRun (e :: cs) with
    | nil =>
      -- A dot is taken up only in front of a word, which is taken up then too.
      simp only [Bool.or_eq_true, Bool.and_eq_true] at hgoes
      rw [hrun] at h
      cases h
      rcases hgoes with hword | ⟨-, hword⟩
      · exact hword
      · rw [dottedRun_word hword] at hrun
        cases hrun
    | cons f run =>
      rw [hrun, List.getLast?_cons_cons] at h
      rw [hrun] at ih
      exact ih h
  | case5 d e cs hstops => cases h

theorem isWord_behind_dottedRun {c : Char} {cs back : List Char}
    (h : cs = dottedRun cs ++ c :: back) : isWord c = false := by
  fun_induction dottedRun cs with
  | case1 => cases h
  | case2 d hword => cases h
  | case3 d hword =>
    cases h
    simpa using hword
  | case4 d e cs hgoes ih => exact ih (List.cons.inj h).2
  | case5 d e cs hstops =>
    cases h
    simp only [Bool.or_eq_true, Bool.and_eq_true, not_or] at hstops
    simpa using hstops.1

theorem dottedRun_dot {cs rest : List Char} (h : dottedRun cs = '.' :: rest) :
    ∃ c more, rest = c :: more ∧ isWord c = true := by
  match cs with
  | [] => cases h
  | [c] =>
    unfold dottedRun at h
    split at h
    · next hword =>
      cases h
      rw [isWord_dot] at hword
      cases hword
    · cases h
  | c :: d :: cs =>
    unfold dottedRun at h
    split at h
    · next hgoes =>
      obtain ⟨rfl, hrest⟩ := List.cons.inj h
      have hword : isWord d = true := by simpa [isWord_dot] using hgoes
      rw [dottedRun_word hword] at hrest
      exact ⟨d, dottedRun cs, hrest.symm, hword⟩
    · cases h

theorem target?_eq_some_iff {cs word : List Char} :
    target? cs = some word ↔ word ≠ [] ∧ dottedRun cs = word := by
  unfold target?
  split
  · next hnil =>
    rw [hnil]
    constructor
    · intro h
      cases h
    · rintro ⟨hne, rfl⟩
      exact absurd rfl hne
  · next hne =>
    constructor
    · intro h
      cases h
      exact ⟨hne, rfl⟩
    · rintro ⟨-, rfl⟩
      rfl

/-! ## Diverts on a line -/

theorem target?_head {cs word : List Char} (h : target? cs = some word) :
    ∃ c rest, cs = c :: rest ∧ isBlank c = false := by
  obtain ⟨back, rfl⟩ := target?_append h
  obtain ⟨hne, hrun⟩ := target?_eq_some_iff.mp h
  obtain ⟨c, more, rfl⟩ := List.exists_cons_of_ne_nil hne
  have hc : c ∈ dottedRun (c :: more ++ back) := by
    rw [hrun]
    exact List.mem_cons_self
  exact ⟨c, more ++ back, rfl, isBlank_eq_false_of_isWordOrDot (isWordOrDot_of_mem_dottedRun hc)⟩

/-- A divert at the start of a text is an arrow, blanks and a target behind them. -/
theorem at?_eq_some_iff {cs arrow word : List Char} :
    at? cs = some (arrow, word) ↔
      ∃ mark point gap rest, cs = mark :: point :: (gap ++ rest) ∧ IsArrow mark point ∧
        (∀ c ∈ gap, isBlank c = true) ∧ arrow = mark :: point :: gap ∧
        target? rest = some word := by
  constructor
  · intro h
    unfold at? at h
    obtain ⟨behind, harrow, h⟩ := Option.bind_eq_some_iff.mp h
    obtain ⟨target, htarget, h⟩ := Option.bind_eq_some_iff.mp h
    cases h
    obtain ⟨mark, point, hpair, rfl⟩ := dropArrow?_eq_some_iff.mp harrow
    refine ⟨mark, point, behind.takeWhile isBlank, trimLeft behind, ?_, hpair,
      List.all_eq_true.mp List.all_takeWhile, rfl, htarget⟩
    rw [trimLeft, List.takeWhile_append_dropWhile]
  · intro h
    obtain ⟨mark, point, gap, rest, rfl, hpair, hgap, rfl, htarget⟩ := h
    obtain ⟨c, more, rfl, hc⟩ := target?_head htarget
    have hdrop : dropArrow? (mark :: point :: (gap ++ c :: more)) = some (gap ++ c :: more) :=
      dropArrow?_eq_some_iff.mpr ⟨mark, point, hpair, rfl⟩
    have htrim : trimLeft (gap ++ c :: more) = c :: more := dropWhile_run hgap hc more
    simp only [at?, hdrop, Option.bind_eq_bind, Option.bind_some, htrim, htarget,
      takeWhile_run hgap hc]
    rfl

/-- What a target that the index finds has around it: in front of it an arrow and blanks, and behind
    it nothing that extends it. -/
theorem targets_cut {line : List Char} {token : Token} (h : token ∈ targets line) :
    ∃ before mark point gap word back,
      line = before ++ mark :: point :: gap ++ word ++ back ∧ IsArrow mark point ∧
      (∀ c ∈ gap, isBlank c = true) ∧ target? (word ++ back) = some word ∧
      token = .after (before ++ mark :: point :: gap) word := by
  obtain ⟨front, found, arrow, word, hcode, -, hat, rfl⟩ := mem_scan h
  obtain ⟨mark, point, gap, rest, rfl, hpair, hgap, rfl, htarget⟩ := at?_eq_some_iff.mp hat
  obtain ⟨back, rfl⟩ := target?_append htarget
  rcases codeOf_comment line with hline | ⟨comment, hline⟩
  · refine ⟨front, mark, point, gap, word, back, ?_, hpair, hgap, htarget, by simp⟩
    rw [hline, hcode]
    simp
  · refine ⟨front, mark, point, gap, word, back ++ '/' :: '/' :: comment, ?_, hpair, hgap, ?_,
      by simp⟩
    · rw [hline, hcode]
      simp
    · -- The slash of the comment is no part of a target.
      rw [target?_eq_some_iff, ← List.append_assoc, dottedRun_append_stop (by decide)]
      exact target?_eq_some_iff.mp htarget

end Divert

end InkWorkspace
