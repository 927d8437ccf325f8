import InkWorkspace.Compiler.Heal

/- Compiling with repairs where there is nothing to repair. The one run is the run on the author's text
   (`render_empty`), and the story and the patches are those of a plain compile. The issues need not
   be: mapping them back to the author's text drops what lies outside it, be there additions or not, and
   the line behind the last line break does not count as one of the text (`mapIssues_empty`). So both
   ways agree exactly where every issue with a line is on one that counts (`heal_unrepaired`). -/
namespace InkWorkspace

open Text

namespace Issue

/-- The issue is about the whole file or about one of the lines of the text. -/
def LiesIn (text : String) (issue : Issue) : Prop :=
  ∀ line ∈ issue.line, 1 ≤ line ∧ line ≤ max 1 (lines text.toList).length

instance (text : String) (issue : Issue) : Decidable (issue.LiesIn text) :=
  inferInstanceAs (Decidable (∀ line ∈ issue.line, _))

/-- The issues of a text that are about the whole file or about one of its lines. -/
def within (text : String) (issues : List Issue) : List Issue :=
  issues.filter fun issue => issue.LiesIn text

theorem within_eq_self {text : String} {issues : List Issue} :
    within text issues = issues ↔ ∀ issue ∈ issues, issue.LiesIn text := by
  simp [within]

end Issue

namespace Patches

theorem render_empty (text : String) : ({} : Patches).render text = text := by
  simp [render, String.join]

theorem mapIssue?_empty (text : String) (issue : Issue) :
    ({} : Patches).mapIssue? text issue = Option.guard (fun issue => issue.LiesIn text) issue := by
  obtain ⟨severity, message, line⟩ := issue
  cases line with
  | none => simp [mapIssue?, Issue.LiesIn, Option.guard]
  | some line =>
    have hiff : Issue.LiesIn text ⟨severity, message, some line⟩ ↔
        1 ≤ line ∧ line ≤ max 1 (lines text.toList).length := by
      simp [Issue.LiesIn]
    have habove : ({} : Patches).linesAbove = 0 := rfl
    simp only [mapIssue?, Option.guard, habove, decide_eq_true_eq, hiff, Nat.sub_zero,
      Bool.or_eq_true]
    by_cases hline : 1 ≤ line ∧ line ≤ max 1 (lines text.toList).length
    · rw [if_neg (by omega), if_pos hline]
    · rw [if_pos (by omega), if_neg hline]

theorem mapIssues_empty (text : String) (issues : List Issue) :
    ({} : Patches).mapIssues text issues = Issue.within text issues := by
  rw [mapIssues, funext (mapIssue?_empty text), Issue.within, List.filterMap_eq_filter]

end Patches

namespace Compiler

variable {σ : Type}

/-- If the author's text compiles, the first run is the only one. -/
theorem heal_first (compiler : Compiler σ) (text : String) (handler : Option FileHandler)
    (limit : Nat) (s : σ) {json : String}
    (h : (compiler.attempt text handler s).1.result = .ok json) :
    compiler.heal text handler limit s =
      (.compiled ⟨json, Issue.within text (compiler.attempt text handler s).1.issues, {}⟩,
        (compiler.attempt text handler s).2) := by
  rw [heal, healFrom, Patches.render_empty]
  simp only [h, Patches.mapIssues_empty]

/-- If the author's text compiles, repairing it gives the story, the patches and all that the compiler
    remembers as a plain compile does, and those of its issues that lie in the text. The two agree
    exactly if all issues do. -/
theorem heal_unrepaired (compiler : Compiler σ) (settings : Settings) (text : String)
    (handler : Option FileHandler) (limit : Nat) (s : σ) {json : String}
    (h : (compiler.attempt text handler s).1.result = .ok json) :
    ∃ issues after,
      compiler.compileWith { settings with engine := .ink } text handler s =
        (.ok ⟨json, issues, {}⟩, after) ∧
      compiler.collectIssues text handler s = (issues, after) ∧
      compiler.healStory text handler limit s =
        (.ok ⟨json, Issue.within text issues, {}⟩, after) ∧
      compiler.healIssues text handler limit s = (⟨Issue.within text issues, {}⟩, after) ∧
      (compiler.healStory text handler limit s =
          compiler.compileWith { settings with engine := .ink } text handler s ↔
        ∀ issue ∈ issues, issue.LiesIn text) ∧
      ((compiler.healIssues text handler limit s).1.issues =
          (compiler.collectIssues text handler s).1 ↔
        ∀ issue ∈ issues, issue.LiesIn text) := by
  -- The first run compiles, so there is no repair and no second run.
  have hfirst := compiler.heal_first text handler limit s h
  have hplain : compiler.compileWith { settings with engine := .ink } text handler s =
      (.ok ⟨json, (compiler.attempt text handler s).1.issues, {}⟩,
        (compiler.attempt text handler s).2) := by
    simp only [compileWith, h]
  have hstory : compiler.healStory text handler limit s =
      (.ok ⟨json, Issue.within text (compiler.attempt text handler s).1.issues, {}⟩,
        (compiler.attempt text handler s).2) := by
    rw [healStory, hfirst]
  have hissues : compiler.healIssues text handler limit s =
      (⟨Issue.within text (compiler.attempt text handler s).1.issues, {}⟩,
        (compiler.attempt text handler s).2) := by
    rw [healIssues, hfirst]
  refine ⟨_, _, hplain, rfl, hstory, hissues, ?_, ?_⟩
  · rw [hplain, hstory, ← Issue.within_eq_self]
    simp
  · rw [hissues]
    exact Issue.within_eq_self

/-- Warns of the second line and of the third, whatever it compiles. -/
def wary : Compiler Unit where
  run _ _ := (⟨[⟨.warning, "WARNING: line 2: odd"⟩, ⟨.warning, "WARNING: line 3: odd"⟩],
    .ok "story"⟩, ())

/-- What is said about a line of the text is kept, and so is the story. -/
theorem wary_unrepaired :
    (wary.attempt "a\nb" none ()).1.result = .ok "story" ∧
      ∃ issues, wary.collectIssues "a\nb" none () = (issues, ()) ∧
        issues = [⟨.warning, "odd", some 2⟩, ⟨.warning, "odd", some 3⟩] ∧
        wary.healStory "a\nb" none 4 () = (.ok ⟨"story", Issue.within "a\nb" issues, {}⟩, ()) ∧
        wary.healIssues "a\nb" none 4 () = (⟨Issue.within "a\nb" issues, {}⟩, ()) ∧
        Issue.within "a\nb" issues = [⟨.warning, "odd", some 2⟩] := by
  have hresult : (wary.attempt "a\nb" none ()).1.result = .ok "story" := rfl
  obtain ⟨issues, after, -, hissues, hstory, hhealed, -, -⟩ :=
    heal_unrepaired wary {} "a\nb" none 4 () hresult
  have hfound : issues = [⟨.warning, "odd", some 2⟩, ⟨.warning, "odd", some 3⟩] := by
    have hcollected : (wary.collectIssues "a\nb" none ()).1 =
        [⟨.warning, "odd", some 2⟩, ⟨.warning, "odd", some 3⟩] := by
      decide +kernel
    rwa [hissues] at hcollected
  refine ⟨hresult, issues, hissues, hfound, hstory, hhealed, ?_⟩
  rw [hfound]
  decide +kernel

/-- What is said about the empty line behind the last line break is lost, although nothing was
    added. -/
theorem wary_loses_last_line :
    (wary.attempt "a\nb\n" none ()).1.result = .ok "story" ∧
      wary.collectIssues "a\nb\n" none () =
        ([⟨.warning, "odd", some 2⟩, ⟨.warning, "odd", some 3⟩], ()) ∧
      wary.healStory "a\nb\n" none 4 () = (.ok ⟨"story", [⟨.warning, "odd", some 2⟩], {}⟩, ()) ∧
      wary.healIssues "a\nb\n" none 4 () = (⟨[⟨.warning, "odd", some 2⟩], {}⟩, ()) ∧
      wary.healStory "a\nb\n" none 4 () ≠
        wary.compileWith { engine := .ink } "a\nb\n" none () := by
  have hcollected : wary.collectIssues "a\nb\n" none () =
      ([⟨.warning, "odd", some 2⟩, ⟨.warning, "odd", some 3⟩], ()) := by
    decide +kernel
  have hstory : wary.healStory "a\nb\n" none 4 () =
      (.ok ⟨"story", [⟨.warning, "odd", some 2⟩], {}⟩, ()) := by
    have hwithin : Issue.within "a\nb\n" (wary.attempt "a\nb\n" none ()).1.issues =
        [⟨.warning, "odd", some 2⟩] := by
      decide +kernel
    rw [healStory, heal_first wary "a\nb\n" none 4 () rfl, hwithin]
  have hplain : wary.compileWith { engine := .ink } "a\nb\n" none () =
      (.ok ⟨"story", [⟨.warning, "odd", some 2⟩, ⟨.warning, "odd", some 3⟩], {}⟩, ()) := by
    show (Except.ok (HealedStory.mk "story" (wary.collectIssues "a\nb\n" none ()).1 {}), ()) = _
    rw [hcollected]
  refine ⟨rfl, hcollected, hstory, by decide +kernel, ?_⟩
  rw [hstory, hplain]
  simp

end Compiler

end InkWorkspace
