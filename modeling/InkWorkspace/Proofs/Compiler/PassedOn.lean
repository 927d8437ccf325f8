import InkWorkspace.Proofs.Compiler.Scratch
import InkWorkspace.Proofs.Line.Signature

/- How the lines of a text are passed on when it is staged. A line stays as it is unless it includes a
   name that is moved. Then the target takes the place of the name and of nothing else
   (`passedOn_retargetLine`): the replacement is made where the name occurs first, and that is not in
   front of where it is written, since a moved name has a slash or a dot and what stands in front of it
   has neither (`LineShape.length_front_le`).

   Neither a line nor a target holds a line feed (`feed_not_mem_retargetLine`), so joining the lines
   gives a text with a line for each of them (`splitOn_retarget`), and every line keeps its number
   (`stagedAs_retarget`). This holds of the root text and of each file that it includes
   (`stage_rewrites_names`). -/
namespace InkWorkspace

open Text

namespace LineShape

/-- An include line, written out: blanks, the keyword, blanks, the name, and blanks again. The name
    begins and ends with a character that is no blank. -/
structure Written (line indent gap name tail : List Char) : Prop where
  line_eq : line = indent ++ includeWord ++ gap ++ name ++ tail
  indent : Blanks indent
  gap_ne_nil : gap ≠ []
  gap : Blanks gap
  name_ne_nil : name ≠ []
  name_trimmed : trim name = name
  tail : Blanks tail

theorem blanks_endBlanks (cs : List Char) : Blanks (endBlanks cs) := by
  intro c hc
  rw [endBlanks, List.mem_reverse] at hc
  exact List.all_eq_true.mp List.all_takeWhile c hc

theorem written_of_includePath? {line : List Char} {name : String} (hline : '\n' ∉ line)
    (h : includePath? line = some name) :
    ∃ indent gap tail, Written line indent gap name.toList tail ∧
      inclusion? line = some ⟨indent ++ includeWord ++ gap, name.toList, tail⟩ := by
  obtain ⟨inclusion, hinclusion, hname⟩ := inclusion?_of_includePath? h
  obtain ⟨indent, gap, path, -, hindent, hgap, hblanks, rfl⟩ := inclusion?_parts hinclusion
  obtain ⟨-, -, rest, -, -, -, hne, hrest⟩ := (includePath?_eq_some_iff hline).mp h
  have htrim : name.toList = trim rest := by rw [hrest, String.toList_ofList]
  refine ⟨indent, gap, endBlanks path, ?_, ?_⟩
  · exact
      { line_eq := by
          rw [← hname]
          exact line_eq hinclusion
        indent := hindent
        gap_ne_nil := hgap
        gap := hblanks
        name_ne_nil := htrim ▸ hne
        name_trimmed := by rw [htrim, trim_trim]
        tail := blanks_endBlanks path }
  · rw [hinclusion, ← hname]

end LineShape

namespace Staging

open LineShape (includePath? includeWord inclusion? Written)

/-- How a line is passed on, given the targets of all includes. If it includes a name with another
    target, the target stands where the name is written, and nowhere in front of that does the name
    occur in the line. All other lines stay as they are. -/
inductive PassedOn (staged : Names) : List Char → List Char → Prop where
  | kept {line : List Char} :
      (∀ name, includePath? line = some name → staged.lookup name = some name) →
        PassedOn staged line line
  | pointed {line indent gap tail : List Char} {name target : String} :
      includePath? line = some name → staged.lookup name = some target → target ≠ name →
        Written line indent gap name.toList tail →
          (∀ before rest, line = before ++ name.toList ++ rest →
            (indent ++ includeWord ++ gap).length ≤ before.length) →
            PassedOn staged line (indent ++ includeWord ++ gap ++ target.toList ++ tail)

/-- A text is staged as another one: line by line, each under its own number, and with no line more. A
    text without lines is staged as the empty one. -/
structure StagedAs (staged : Names) (text result : String) : Prop where
  line_at : ∀ (n : Nat) (line : List Char), (lines text.toList)[n]? = some line →
    ∃ passed, (splitOn '\n' result.toList)[n]? = some passed ∧ PassedOn staged line passed
  length_eq : (splitOn '\n' result.toList).length = max 1 (lines text.toList).length

section Lines

variable {staged : Names} (hnumbered : Numbered staged) {line : List Char} (hline : '\n' ∉ line)

include hnumbered hline

theorem passedOn_retargetLine (hcovers : Covers staged [line]) :
    PassedOn staged line (retargetLine staged line) := by
  cases hpath : includePath? line with
  | none =>
    rw [retargetLine_of_none hpath]
    apply PassedOn.kept
    intro name hname
    rw [hpath] at hname
    cases hname
  | some name =>
    obtain ⟨target, htarget⟩ := Option.isSome_iff_exists.mp
      (hcovers name (by simp [includeNames, hpath]))
    obtain ⟨indent, gap, tail, hwritten, hinclusion⟩ :=
      LineShape.written_of_includePath? hline hpath
    have hretarget : retargetLine staged line =
        indent ++ includeWord ++ gap ++ target.toList ++ tail :=
      retargetLine_of_some hinclusion (by rw [String.ofList_toList, htarget])
    rw [hretarget]
    by_cases hsame : target = name
    · rw [hsame, ← hwritten.line_eq]
      apply PassedOn.kept
      intro other hother
      rw [← Option.some.inj (hpath.symm.trans hother), htarget, hsame]
    · refine .pointed hpath htarget hsame hwritten fun before rest hoccurs => ?_
      obtain ⟨mark, hmark, hblank, hword⟩ :=
        exists_mark_of_moved (moved_of_target_ne hnumbered htarget hsame)
      exact LineShape.length_front_le hinclusion hmark hblank hword hoccurs

theorem feed_not_mem_retargetLine : '\n' ∉ retargetLine staged line := by
  cases hinclusion : inclusion? line with
  | none => simpa only [retargetLine, hinclusion] using hline
  | some inclusion =>
    cases hlookup : staged.lookup (String.ofList inclusion.name) with
    | none => simpa only [retargetLine, hinclusion, hlookup] using hline
    | some target =>
      rw [LineShape.line_eq hinclusion] at hline
      rw [retargetLine_of_some hinclusion hlookup]
      simp only [LineShape.Inclusion.withName, List.mem_append, not_or] at hline ⊢
      refine ⟨⟨hline.1.1, ?_⟩, hline.2⟩
      obtain ⟨index, htarget⟩ := hnumbered.targetOf_lookup hlookup
      rw [htarget]
      exact feed_not_mem_targetOf (by simpa using hline.1.2) index

end Lines

section Texts

variable {staged : Names} (hnumbered : Numbered staged) {text : String}

include hnumbered

theorem splitOn_retarget (hne : lines text.toList ≠ []) :
    splitOn '\n' (retarget staged text).toList =
      (lines text.toList).map (retargetLine staged) := by
  have hpieces : ∀ piece ∈ (lines text.toList).map (retargetLine staged), '\n' ∉ piece := by
    intro piece hpiece
    obtain ⟨line, hline, rfl⟩ := List.mem_map.mp hpiece
    exact feed_not_mem_retargetLine hnumbered (feed_not_mem_of_mem_lines hline)
  rw [retarget, joinLines, String.toList_ofList]
  exact splitOn_intercalate (by simpa using hne) hpieces

/-- A text with its includes pointing at their targets has the lines of the text, passed on. -/
theorem stagedAs_retarget (hcovers : Covers staged (lines text.toList)) :
    StagedAs staged text (retarget staged text) where
  line_at := by
    intro n line hline
    have hmem : line ∈ lines text.toList := List.mem_of_getElem? hline
    have hpassed : PassedOn staged line (retargetLine staged line) := by
      apply passedOn_retargetLine hnumbered (feed_not_mem_of_mem_lines hmem)
      apply covers_line
      intro name hname
      exact hcovers name (List.mem_filterMap.mpr ⟨line, hmem, hname⟩)
    refine ⟨retargetLine staged line, ?_, hpassed⟩
    rw [splitOn_retarget hnumbered (List.ne_nil_of_mem hmem), List.getElem?_map, hline]
    rfl
  length_eq := by
    by_cases hempty : lines text.toList = []
    · have hnone : (retarget staged text).toList = [] := by
        rw [retarget, joinLines, String.toList_ofList, hempty]
        rfl
      rw [hnone, hempty]
      rfl
    · have hpos := List.length_pos_iff.mpr hempty
      rw [splitOn_retarget hnumbered hempty, List.length_map]
      omega

end Texts

/-- Staging a text writes the files of its plan and gives the result of the plan. In the result, and in
    each file, the lines of the text are passed on: the target of an include that is moved takes the
    place of its name, and the other lines stay. So all lines keep their numbers. -/
theorem stage_rewrites_names (root : Path) (texts : PathMap String) (disk : Disk) (text : String)
    (scratch : Disk) :
    let handler := FileHandler.ofFiles root texts disk
    let plan := Program.planFor handler text
    stage handler text ⟨[], scratch⟩ = plan.carryOut scratch ∧ Numbered plan.staged ∧
      StagedAs plan.staged text plan.result ∧
      ∀ file ∈ plan.files, ∃ name source, (name, file.1) ∈ plan.staged ∧
        handler.included? name = some source ∧ StagedAs plan.staged source file.2 := by
  intro handler plan
  have hsettled : SettledText handler.included? text plan :=
    Program.planFor_settled root texts disk text
  have hnumbered : Numbered plan.staged :=
    ((records handler.included?).planTo _ text []).numbered Numbered.nil
  refine ⟨stageTo_eq _ _ text ⟨[], scratch⟩, hnumbered, ?_, ?_⟩
  · rw [hsettled.result_eq]
    exact stagedAs_retarget hnumbered hsettled.covers
  · intro file hfile
    obtain ⟨name, source, hmem, hload, hcovers, hresult⟩ := hsettled.files file hfile
    refine ⟨name, source, hmem, hload, ?_⟩
    rw [hresult]
    exact stagedAs_retarget hnumbered hcovers

namespace NearMiss

def files : FileHandler :=
  .ofFiles (.ofString "/story") .empty .empty

/-- From the last letter of the keyword on, the line reads like the name, but for the end of it. -/
def text : String := "INCLUDE E E/..\n-> E\r\n"

/-- Its include and the target of that. -/
def targets : Names := [("E E/..", "__external__/0_include.ink")]

/-- The name is replaced where it is written, and the divert behind it stays. -/
theorem rewritten_behind_keyword :
    stage files text ⟨[], .empty⟩ =
        .ok ("INCLUDE __external__/0_include.ink\n-> E", ⟨targets, .empty⟩) ∧
      StagedAs targets text "INCLUDE __external__/0_include.ink\n-> E" := by
  have hstaged : (Program.planFor files text).staged = targets := by decide +kernel
  have hresult : (Program.planFor files text).result =
      "INCLUDE __external__/0_include.ink\n-> E" := by decide +kernel
  have hfiles : (Program.planFor files text).files = [] := by decide +kernel
  obtain ⟨hstage, -, hlines, -⟩ :
      stage files text ⟨[], .empty⟩ = (Program.planFor files text).carryOut .empty ∧ _ ∧
        StagedAs (Program.planFor files text).staged text (Program.planFor files text).result ∧ _ :=
    stage_rewrites_names (.ofString "/story") .empty .empty text .empty
  rw [hstaged, hresult] at hlines
  refine ⟨?_, hlines⟩
  rw [hstage, Plan.carryOut, hstaged, hresult, hfiles]
  rfl

end NearMiss

end Staging

end InkWorkspace
