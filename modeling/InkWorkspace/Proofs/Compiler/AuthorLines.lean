import InkWorkspace.Proofs.Compiler.Rendered

/- Issues of a repaired text and the lines of the author's text. The loop starts without repairs, and
   every repair it makes is one that an issue asks for (`Patches.Reached`); all the texts it compiles
   are repaired in this way (`Compiler.heal_reached`). The names that issues ask for are words
   (`Repair.ofIssue?_word`), so no name brings a line ending with it, and every declaration takes two
   lines. Between declarations and stubs stand the author's lines as they are (`render_line`), but for
   a carriage return at the end of the text, which a stub makes part of a line ending. -/
namespace InkWorkspace

open Text

/-! ## Repairs that issues ask for -/

namespace Repair

theorem wordBetween?_word {lead close cs : List Char} {name : String}
    (h : wordBetween? lead close cs = some name) :
    name.toList ≠ [] ∧ ∀ c ∈ name.toList, isWord c = true := by
  induction cs with
  | nil => cases h
  | cons c cs ih =>
    unfold wordBetween? at h
    rw [Option.orElse_eq_orElse, Option.orElse_eq_or, Option.or_eq_some_iff] at h
    rcases h with hfound | ⟨-, hlater⟩
    · obtain ⟨rest, -, hfound⟩ := Option.bind_eq_some_iff.mp hfound
      dsimp only at hfound
      split at hfound
      · cases hfound
      · next hne =>
        obtain ⟨-, -, hword⟩ := Option.bind_eq_some_iff.mp hfound
        cases hword
        rw [String.toList_ofList]
        exact ⟨mt List.isEmpty_iff.mpr hne, List.all_eq_true.mp List.all_takeWhile⟩
    · exact ih hlater

theorem ofIssue?_word {issue : Issue} {repair : Repair} (h : ofIssue? issue = some repair) :
    (Mini.repairName repair).toList ≠ [] ∧
      ∀ c ∈ (Mini.repairName repair).toList, isWord c = true := by
  unfold ofIssue? at h
  rw [Option.orElse_eq_orElse, Option.orElse_eq_or, Option.or_eq_some_iff] at h
  rcases h with hknot | ⟨-, hglobal⟩
  · obtain ⟨name, hname, rfl⟩ := Option.map_eq_some_iff.mp hknot
    exact wordBetween?_word hname
  · obtain ⟨name, hname, rfl⟩ := Option.map_eq_some_iff.mp hglobal
    exact wordBetween?_word hname

end Repair

namespace Patches

/-- The patches that the loop can come to: none, or one more repair, which an issue asks for and which
    has not been made. -/
inductive Reached : Patches → Prop where
  | none : Reached {}
  | repaired {patches : Patches} {issue : Issue} {repair : Repair} : Reached patches →
    Repair.ofIssue? issue = some repair → patches.contains repair = false →
    Reached (patches.apply repair)

theorem Reached.words {patches : Patches} (h : patches.Reached) :
    ∀ name ∈ patches.globals ++ patches.knots,
      name.toList ≠ [] ∧ ∀ c ∈ name.toList, isWord c = true := by
  induction h with
  | none => nofun
  | @repaired patches issue repair _ hasks _ ih =>
    have hword := Repair.ofIssue?_word hasks
    intro name hname
    cases repair with
    | stubKnot new =>
      rw [apply, ← List.append_assoc] at hname
      rcases List.mem_append.mp hname with hname | hname
      · exact ih name hname
      · rw [List.mem_singleton.mp hname]
        exact hword
    | declareVariable new =>
      rw [apply, List.append_assoc, List.mem_append, List.mem_append] at hname
      rcases hname with hname | hname | hname
      · exact ih name (List.mem_append_left _ hname)
      · rw [List.mem_singleton.mp hname]
        exact hword
      · exact ih name (List.mem_append_right _ hname)

theorem Reached.wordPatches {patches : Patches} (h : patches.Reached) :
    Mini.WordPatches patches :=
  ⟨fun name hname => (h.words name (List.mem_append_left _ hname)).2,
    fun name hname => (h.words name (List.mem_append_right _ hname)).2⟩

end Patches

/-! ## The texts that the loop compiles -/

/-- The issues that a run ends with. -/
def Healed.issues : Healed → List Issue
  | compiled story => story.issues
  | failed issues _ _ => issues

namespace Compiler

theorem Ends.issues_eq {text : String} {limit left : Nat} {repairs : List Repair}
    {reply : CompileReply} {healed : Healed} (h : Ends text limit left repairs reply healed) :
    healed.issues = issuesOf text repairs reply := by
  cases h <;> rfl

theorem reached_repair {done : List Repair} (h : (Patches.ofRepairs done).Reached)
    {reply : CompileReply} {repair : Repair} (hasks : reply.repair? = some repair)
    (hnew : repair ∉ done) : (Patches.ofRepairs (done ++ [repair])).Reached := by
  obtain ⟨message, -, hissue⟩ := Option.bind_eq_some_iff.mp hasks
  rw [Patches.ofRepairs_concat]
  refine h.repaired hissue ?_
  rw [← Bool.not_eq_true, Patches.contains_ofRepairs]
  exact hnew

namespace Heals

variable {text : String} {handler : Option FileHandler} {limit left : Nat} {done made : List Repair}
  {healed : Healed} {log : List Exchange}

theorem reached (h : Heals text handler limit done left made healed log)
    (hdone : (Patches.ofRepairs done).Reached) :
    ∀ i, (Patches.ofRepairs (done ++ made.take i)).Reached := by
  induction h with
  | ends _ =>
    intro i
    rwa [List.take_nil, List.append_nil]
  | repairs _ hasks hnew _ ih =>
    intro i
    cases i with
    | zero => rwa [List.take_zero, List.append_nil]
    | succ i =>
      rw [List.take_succ_cons, List.append_cons]
      exact ih (reached_repair hdone hasks hnew) i

theorem call_of_getElem? (h : Heals text handler limit done left made healed log) {i : Nat}
    {exchange : Exchange} (hexchange : log[i]? = some exchange) :
    exchange.call = repairedCall text handler (done ++ made.take i) := by
  have hi : i < made.length + 1 := h.length_log ▸ (List.getElem?_eq_some_iff.mp hexchange).1
  have hcall := h.call_eq i (Nat.le_of_lt_succ hi)
  rw [hexchange] at hcall
  exact Option.some.inj hcall

end Heals

/-- Whatever the compiler answers, a run's calls are on texts with patches that are reached, and its
    issues are those of the last reply, mapped back with the patches of the last call. -/
theorem heal_reached {σ : Type} (compiler : Compiler σ) (text : String)
    (handler : Option FileHandler) (limit : Nat) (s : σ) :
    ∃ healed log last next, compiler.heal text handler limit s = (healed, next) ∧
      compiler.recorded.heal text handler limit (s, []) = (healed, next, log) ∧
      (∀ exchange ∈ log, ∃ patches : Patches, patches.Reached ∧
        exchange.call = ⟨patches.render text, .standard, handler⟩) ∧
      log.getLast? = some last ∧ healed.patches.Reached ∧
      last.call = ⟨healed.patches.render text, .standard, handler⟩ ∧
      healed.issues = healed.patches.mapIssues text (last.reply.messages.map Issue.ofMessage) := by
  obtain ⟨made, healed, log, next, hheals, hrecorded⟩ :=
    compiler.healFrom_heals text handler limit limit [] s []
  obtain ⟨last, hlast, hends⟩ := hheals.getLast?_ends
  have hplain : compiler.heal text handler limit s = (healed, next) := by
    obtain ⟨all, hall⟩ := compiler.recorded_healFrom text handler limit limit {} s []
    cases hall.symm.trans hrecorded
    rfl
  have hreached := hheals.reached .none
  have hlastCall : last.call = repairedCall text handler made := by
    rw [List.getLast?_eq_getElem?, hheals.length_log] at hlast
    rw [hheals.call_of_getElem? hlast, Nat.add_sub_cancel, List.take_length, List.nil_append]
  refine ⟨healed, log, last, next, hplain, hrecorded, fun exchange hmem => ?_, hlast, ?_⟩
  · obtain ⟨i, hi⟩ := List.mem_iff_getElem?.mp hmem
    exact ⟨_, hreached i, hheals.call_of_getElem? hi⟩
  · have hall := hreached made.length
    rw [List.take_length, List.nil_append] at hall
    rw [hends.patches_eq, hends.issues_eq, hlastCall, List.nil_append]
    exact ⟨hall, rfl, rfl⟩

end Compiler

/-! ## Issues of a repaired text -/

namespace Patches

/-- The issue is about the whole file or about a line of the author's text. -/
def Concerns (patches : Patches) (text : String) (issue : Issue) : Prop :=
  ∀ line, issue.line = some line →
    patches.linesAbove < line ∧ line ≤ patches.linesAbove + max 1 (lines text.toList).length

instance (patches : Patches) (text : String) (issue : Issue) :
    Decidable (patches.Concerns text issue) :=
  inferInstanceAs (Decidable (∀ line ∈ issue.line, _))

/-- The issue with its line counted in the author's text. -/
def below (patches : Patches) (issue : Issue) : Issue :=
  { issue with line := issue.line.map (· - patches.linesAbove) }

theorem mapIssue?_eq (patches : Patches) (text : String) (issue : Issue) :
    patches.mapIssue? text issue =
      if patches.Concerns text issue then some (patches.below issue) else none := by
  rcases issue with ⟨severity, message, _ | line⟩
  · rfl
  · have hiff : patches.Concerns text ⟨severity, message, some line⟩ ↔
        ¬ (line ≤ patches.linesAbove ∨
          line - patches.linesAbove > max 1 (lines text.toList).length) := by
      simp only [Concerns, Option.some.injEq, forall_eq']
      omega
    simp only [mapIssue?, hiff, Bool.or_eq_true, decide_eq_true_eq, ite_not]
    rfl

theorem mapIssues_eq (patches : Patches) (text : String) (issues : List Issue) :
    patches.mapIssues text issues =
      (issues.filter (patches.Concerns text)).map patches.below := by
  induction issues with
  | nil => rfl
  | cons issue issues ih =>
    have hkept := patches.mapIssue?_eq text issue
    split at hkept
    · next hconcerns =>
      rw [List.filter_cons, if_pos (decide_eq_true hconcerns), List.map_cons, ← ih]
      exact List.filterMap_cons_some hkept
    · next hconcerns =>
      rw [List.filter_cons, if_neg (by simpa using hconcerns), ← ih]
      exact List.filterMap_cons_none hkept

/-! ## Lines of a repaired text -/

/-- A line of the author's text has lost at most a carriage return when stubs follow. -/
theorem bodyLines_line (patches : Patches) {text : String} {i : Nat}
    (hi : i < (lines text.toList).length) :
    ∃ written author, (Mini.bodyLines patches text)[i]? = some written ∧
      (lines text.toList)[i]? = some author ∧ (author = written ∨ author = written ++ ['\r']) := by
  have hauthor := List.getElem?_eq_getElem hi
  rcases Mini.bodyLines_cases patches text with heq | heq | ⟨front, hlines, heq⟩
  · exact ⟨_, _, by rw [heq, hauthor], hauthor, Or.inl rfl⟩
  · exact ⟨_, _, by rw [heq, List.getElem?_append_left hi, hauthor], hauthor, Or.inl rfl⟩
  · rw [heq, hlines]
    rw [hlines, List.length_append, List.length_singleton, Nat.lt_succ_iff] at hi
    rcases Nat.lt_or_eq_of_le hi with hfront | rfl
    · have hboth := List.getElem?_eq_getElem hfront
      exact ⟨_, _, by rw [List.getElem?_append_left hfront, hboth],
        by rw [List.getElem?_append_left hfront, hboth], Or.inl rfl⟩
    · refine ⟨_, _, List.getElem?_concat_length, List.getElem?_concat_length, ?_⟩
      exact (dropReturn_cases _).imp_left Eq.symm

theorem length_declarationLines (names : List String) :
    (names.flatMap Mini.declarationLines).length = 2 * names.length := by
  induction names with
  | nil => rfl
  | cons name names ih =>
    rw [List.flatMap_cons, List.length_append, ih, Mini.declarationLines]
    simp only [List.length_cons, List.length_nil]
    omega

theorem Reached.render_line {patches : Patches} (h : patches.Reached) {text : String} {i : Nat}
    (hi : i < (lines text.toList).length) :
    ∃ written author, (lines (patches.render text).toList)[patches.linesAbove + i]? = some written ∧
      (lines text.toList)[i]? = some author ∧ (author = written ∨ author = written ++ ['\r']) := by
  obtain ⟨written, author, hwritten, hauthor, hsame⟩ := bodyLines_line patches hi
  refine ⟨written, author, ?_, hauthor, hsame⟩
  have hlength : (patches.globals.reverse.flatMap Mini.declarationLines).length =
      patches.linesAbove := by
    rw [length_declarationLines, List.length_reverse, linesAbove]
  have hbody := (List.getElem?_eq_some_iff.mp hwritten).1
  rw [Mini.lines_render h.wordPatches, List.getElem?_append_right (by omega), hlength,
    Nat.add_sub_cancel_left, List.getElem?_append_left hbody, hwritten]

/-- With patches that the loop can come to, issues of the repaired text point at the author's text. One
    with a line is kept if that is below the declarations and no further down than the author's lines,
    and is moved up by the declarations; what it then points at is the line it was about, but for a
    carriage return at its end. Issues without a line stay as they are, and what is kept keeps its
    order, its severity and its message. -/
theorem mapIssues_point_at_author {patches : Patches} (h : patches.Reached) (text : String) :
    let above := 2 * patches.globals.length
    let count := max 1 (lines text.toList).length
    (∀ name ∈ patches.globals ++ patches.knots,
      name.toList ≠ [] ∧ ∀ c ∈ name.toList, isWord c = true) ∧
    (∀ issue, issue.line = none → patches.mapIssue? text issue = some issue) ∧
    (∀ issue line, issue.line = some line →
      if above < line ∧ line ≤ above + count then
        patches.mapIssue? text issue = some { issue with line := some (line - above) } ∧
          1 ≤ line - above ∧ line - above ≤ count
      else patches.mapIssue? text issue = none) ∧
    (∀ line, above < line → line ≤ above + (lines text.toList).length →
      ∃ written author, (lines (patches.render text).toList)[line - 1]? = some written ∧
        (lines text.toList)[line - above - 1]? = some author ∧
        (author = written ∨ author = written ++ ['\r'])) ∧
    ∀ issues, patches.mapIssues text issues =
      (issues.filter (patches.Concerns text)).map patches.below := by
  intro above count
  refine ⟨h.words, ?_, ?_, ?_, patches.mapIssues_eq text⟩
  · rintro ⟨severity, message, line⟩ rfl
    rfl
  · rintro ⟨severity, message, _⟩ line rfl
    have hconcerns : patches.Concerns text ⟨severity, message, some line⟩ ↔
        above < line ∧ line ≤ above + count := by
      simp only [Concerns, Option.some.injEq, forall_eq']
      rfl
    rw [mapIssue?_eq]
    split
    · next hline =>
      rw [if_pos (hconcerns.mpr hline)]
      refine ⟨rfl, ?_, ?_⟩ <;> omega
    · next hline => rw [if_neg (mt hconcerns.mp hline)]
  · intro line habove hline
    -- Lines are counted from one, and places in a list from zero.
    obtain ⟨i, rfl⟩ : ∃ i, line = above + i + 1 := ⟨line - above - 1, by omega⟩
    have hi : above + i + 1 - above - 1 = i := by omega
    rw [Nat.add_sub_cancel, hi]
    exact h.render_line (by omega)

namespace Finish

/-- A text that ends with a carriage return. -/
def text : String := "\x7ba\x7d\nTODO: finish\r"

/-- A declaration and a stub. -/
def patches : Patches := ⟨["End"], ["a"]⟩

/-- The note on the fourth line of the repaired text is the author's second line. -/
theorem todo_on_second_line :
    patches.Reached ∧
    patches.mapIssue? text ⟨.information, "TODO: finish", some 4⟩ =
      some ⟨.information, "TODO: finish", some 2⟩ ∧
    ∃ written author, (lines (patches.render text).toList)[3]? = some written ∧
      (lines text.toList)[1]? = some author ∧ (author = written ∨ author = written ++ ['\r']) := by
  have hdeclared : Repair.ofIssue? ⟨.error, "Unresolved variable: a", some 1⟩ =
      some (.declareVariable "a") := by decide +kernel
  have hstub : Repair.ofIssue? ⟨.error, "Divert target not found: '-> End'", some 3⟩ =
      some (.stubKnot "End") := by decide +kernel
  have hreached : patches.Reached := (Reached.none.repaired hdeclared rfl).repaired hstub rfl
  obtain ⟨-, -, hmapped, hline, -⟩ := mapIssues_point_at_author hreached text
  have hcount : (lines text.toList).length = 2 := by decide +kernel
  refine ⟨hreached, ?_, hline 4 (by decide) (by rw [hcount]; decide)⟩
  have hnote := hmapped ⟨.information, "TODO: finish", some 4⟩ 4 rfl
  rw [hcount, if_pos (by decide)] at hnote
  exact hnote.1

end Finish

end Patches

end InkWorkspace
