import InkWorkspace.Proofs.Compiler.Containment
import InkWorkspace.Proofs.Compiler.Handler
import InkWorkspace.Proofs.Line.Inclusion
import InkWorkspace.Proofs.Lookup

/- The texts that are staged. A target never changes once an include has it, so each staged text is
   its own text with all includes pointing at the targets that they have in the end (`retarget`). This
   takes a depth at which no include is cut off (`planTo_settled`): only new includes are followed, and
   with each of them fewer are new (`HasRoom`).

   On a line, the target takes the place of the name: names are replaced only if they are moved, and
   then they have a slash or a dot, which tells them from the keyword in front of them
   (`LineShape.replaceFirst_name`). -/
namespace InkWorkspace

open Text

namespace Staging

/-! ## The targets of a line and of a text -/

/-- A line with its include, if it has one, pointing at its target. -/
def retargetLine (staged : Names) (line : List Char) : List Char :=
  match LineShape.inclusion? line with
  | none => line
  | some inclusion =>
    match staged.lookup (String.ofList inclusion.name) with
    | none => line
    | some target => inclusion.withName target.toList

/-- A text with its includes pointing at their targets. Its lines end in line feeds only, the last one
    in nothing. -/
def retarget (staged : Names) (text : String) : String :=
  joinLines ((lines text.toList).map (retargetLine staged))

/-- The names that lines include. -/
def includeNames (ls : List (List Char)) : List String :=
  ls.filterMap LineShape.includePath?

/-- All that the lines include has a target. -/
def Covers (staged : Names) (ls : List (List Char)) : Prop :=
  ∀ name ∈ includeNames ls, (staged.lookup name).isSome = true

variable {staged more : Names}

theorem lookup_of_grows (h : staged <+: more) {name target : String}
    (hname : staged.lookup name = some target) : more.lookup name = some target := by
  obtain ⟨others, rfl⟩ := h
  rw [List.lookup_append, hname, Option.some_or]

theorem lookup_met {name : String} (h : staged.lookup name = none) (target : String) :
    (staged ++ [(name, target)]).lookup name = some target := by
  rw [List.lookup_append, h, Option.none_or, Lookup.lookup_cons, if_pos rfl]

theorem Covers.mono {ls : List (List Char)} (hcovers : Covers staged ls) (h : staged <+: more) :
    Covers more ls := by
  intro name hname
  obtain ⟨target, htarget⟩ := Option.isSome_iff_exists.mp (hcovers name hname)
  rw [lookup_of_grows h htarget]
  rfl

theorem covers_nil (staged : Names) : Covers staged [] := by
  intro name hname
  cases hname

theorem covers_line {line : List Char} (h : ∀ name, LineShape.includePath? line = some name →
    (staged.lookup name).isSome = true) : Covers staged [line] := by
  intro name hname
  obtain ⟨other, hother, hinclude⟩ := List.mem_filterMap.mp hname
  rw [List.mem_singleton.mp hother] at hinclude
  exact h name hinclude

theorem Covers.cons {line : List Char} {ls : List (List Char)} (hline : Covers staged [line])
    (hls : Covers staged ls) : Covers staged (line :: ls) := by
  intro name hname
  rw [includeNames, ← List.singleton_append, List.filterMap_append] at hname
  exact (List.mem_append.mp hname).elim (hline name) (hls name)

theorem retargetLine_of_none {line : List Char} (h : LineShape.includePath? line = none) :
    retargetLine staged line = line := by
  rw [LineShape.includePath?_eq, Option.map_eq_none_iff] at h
  rw [retargetLine, h]

theorem retargetLine_of_some {line : List Char} {inclusion : LineShape.Inclusion}
    (h : LineShape.inclusion? line = some inclusion) {target : String}
    (htarget : staged.lookup (String.ofList inclusion.name) = some target) :
    retargetLine staged line = inclusion.withName target.toList := by
  simp only [retargetLine, h, htarget]

theorem retargetLine_of_grows (h : staged <+: more) {line : List Char}
    (hcovers : Covers staged [line]) : retargetLine more line = retargetLine staged line := by
  cases hline : LineShape.inclusion? line with
  | none => simp only [retargetLine, hline]
  | some inclusion =>
    have hname : LineShape.includePath? line = some (String.ofList inclusion.name) := by
      rw [LineShape.includePath?_eq, hline]
      rfl
    obtain ⟨target, htarget⟩ := Option.isSome_iff_exists.mp
      (hcovers (String.ofList inclusion.name) (by simp [includeNames, hname]))
    rw [retargetLine_of_some hline htarget,
      retargetLine_of_some hline (lookup_of_grows h htarget)]

theorem map_retargetLine_of_grows (h : staged <+: more) {ls : List (List Char)}
    (hcovers : Covers staged ls) :
    ls.map (retargetLine more) = ls.map (retargetLine staged) := by
  refine List.map_congr_left fun line hline => retargetLine_of_grows h fun name hname => ?_
  refine hcovers name (List.mem_filterMap.mpr ⟨line, hline, ?_⟩)
  simpa [includeNames] using hname

theorem retarget_of_grows (h : staged <+: more) {text : String}
    (hcovers : Covers staged (lines text.toList)) : retarget more text = retarget staged text := by
  rw [retarget, map_retargetLine_of_grows h hcovers, retarget]

theorem moved_of_target_ne (hnumbered : Numbered staged) {name target : String}
    (htarget : staged.lookup name = some target) (hne : target ≠ name) :
    isContained name = false := by
  obtain ⟨index, hindex⟩ := hnumbered.targetOf_lookup htarget
  cases hcontained : isContained name with
  | false => rfl
  | true => exact absurd (hindex.trans (targetOf_contained hcontained index)) hne

/-- A name that is moved has a character that neither the keyword of include lines nor a blank is. -/
theorem exists_mark_of_moved {name : String} (h : isContained name = false) :
    ∃ mark ∈ name.toList, isBlank mark = false ∧ mark ∉ LineShape.includeWord := by
  rcases mark_mem_of_moved h with hmark | hmark
  · exact ⟨'/', hmark, by decide, by decide⟩
  · exact ⟨'.', hmark, by decide, by decide⟩

/-- Replacing the first occurrence of a name that is not its own target is pointing the line at the
    target. -/
theorem replaced_eq (hnumbered : Numbered staged) {line : List Char} {name target : String}
    (hline : LineShape.includePath? line = some name)
    (htarget : staged.lookup name = some target) :
    (if target = name then line else replaceFirst name.toList target.toList line) =
      retargetLine staged line := by
  obtain ⟨inclusion, hinclusion, hname⟩ := LineShape.inclusion?_of_includePath? hline
  rw [retargetLine_of_some hinclusion (by rw [hname, String.ofList_toList, htarget])]
  split
  · next heq => rw [heq, ← hname, ← LineShape.line_eq hinclusion]
  · next hne =>
    obtain ⟨mark, hmark, hblank, hword⟩ :=
      exists_mark_of_moved (moved_of_target_ne hnumbered htarget hne)
    rw [← hname] at hmark ⊢
    exact LineShape.replaceFirst_name hinclusion hmark hblank hword _

/-! ## The texts of a plan -/

/-- Each file holds the text of an include that has the file as its target, with its own includes
    pointing at theirs. -/
def Faithful (load : Loader) (staged : Names) (files : Files) : Prop :=
  ∀ file ∈ files, ∃ name text, (name, file.1) ∈ staged ∧ load name = some text ∧
    Covers staged (lines text.toList) ∧ file.2 = retarget staged text

namespace Faithful

variable {load : Loader} {front back : Files}

theorem nil : Faithful load staged [] := by
  intro file hfile
  cases hfile

theorem append (hfront : Faithful load staged front) (hback : Faithful load staged back) :
    Faithful load staged (front ++ back) := by
  intro file hfile
  rcases List.mem_append.mp hfile with hfile | hfile
  · exact hfront file hfile
  · exact hback file hfile

theorem mono (hfront : Faithful load staged front) (h : staged <+: more) :
    Faithful load more front := by
  intro file hfile
  obtain ⟨name, text, hmem, hload, hcovers, htext⟩ := hfront file hfile
  exact ⟨name, text, h.subset hmem, hload, hcovers.mono h,
    htext.trans (retarget_of_grows h hcovers).symm⟩

end Faithful

/-- A plan whose result is what the targets make of some lines, and whose files hold what they should:
    nothing was cut off. -/
structure Settled {α : Type} (load : Loader) (ls : List (List Char)) (expected : Names → α)
    (plan : Plan α) : Prop where
  covers : Covers plan.staged ls
  result_eq : plan.result = expected plan.staged
  files : Faithful load plan.staged plan.files

theorem Settled.cons {load : Loader} {line : List Char} {ls : List (List Char)}
    {first : Plan (List Char)} {others : Plan (List (List Char))}
    (hfirst : Settled load [line] (retargetLine · line) first)
    (hothers : Settled load ls (fun staged => ls.map (retargetLine staged)) others)
    (hgrows : first.staged <+: others.staged) :
    Settled load (line :: ls) (fun staged => (line :: ls).map (retargetLine staged))
      ⟨first.result :: others.result, others.staged, first.files ++ others.files⟩ where
  covers := (hfirst.covers.mono hgrows).cons hothers.covers
  result_eq := by
    rw [hfirst.result_eq, hothers.result_eq, List.map_cons,
      retargetLine_of_grows hgrows hfirst.covers]
  files := (hfirst.files.mono hgrows).append hothers.files

/-- The plan of a text is settled. -/
abbrev SettledText (load : Loader) (text : String) (plan : Plan String) : Prop :=
  Settled load (lines text.toList) (retarget · text) plan

theorem Settled.joined {load : Loader} {text : String} {plan : Plan (List (List Char))}
    (h : Settled load (lines text.toList)
      (fun staged => (lines text.toList).map (retargetLine staged)) plan) :
    SettledText load text ⟨joinLines plan.result, plan.staged, plan.files⟩ where
  covers := h.covers
  result_eq := congrArg joinLines h.result_eq
  files := h.files

section Steps

variable {load : Loader} {planned : Planner}
  (hplanned : ∀ text staged,
    Records load staged (planned text staged).staged (planned text staged).files)

include hplanned

/-- An include has the target that is planned for it, and its file is as it should be if the plan of
    its text is settled. -/
theorem planPlace_settled {name : String}
    (hnested : staged.lookup name = none → ∀ text, load name = some text → SettledText load text
      (planned text (staged ++ [(name, targetOf name staged.length)]))) :
    (planPlace load planned name staged).staged.lookup name =
        some (planPlace load planned name staged).result ∧
      Faithful load (planPlace load planned name staged).staged
        (planPlace load planned name staged).files := by
  unfold planPlace
  cases hlookup : staged.lookup name with
  | some target => exact ⟨hlookup, Faithful.nil⟩
  | none =>
    have hmet := lookup_met hlookup (targetOf name staged.length)
    cases hload : load name with
    | none => exact ⟨hmet, Faithful.nil⟩
    | some text =>
      have hgrows := (hplanned text (staged ++ [(name, targetOf name staged.length)])).grows
      have hinner := hnested hlookup text hload
      refine ⟨lookup_of_grows hgrows hmet, hinner.files.append ?_⟩
      intro file hfile
      cases List.mem_singleton.mp hfile
      exact ⟨name, text, hgrows.subset (by simp), hload, hinner.covers, hinner.result_eq⟩

theorem planLine_settled (hnumbered : Numbered staged) {line : List Char}
    (hnested : ∀ name, LineShape.includePath? line = some name → staged.lookup name = none →
      ∀ text, load name = some text →
        SettledText load text (planned text (staged ++ [(name, targetOf name staged.length)]))) :
    Settled load [line] (retargetLine · line) (planLine load planned line staged) := by
  have hrecords := (records load).planLine hplanned line staged
  have hnumbered' := hrecords.numbered hnumbered
  unfold planLine at hnumbered' ⊢
  cases hline : LineShape.includePath? line with
  | none =>
    exact
      { covers := covers_line (by simp [hline])
        result_eq := (retargetLine_of_none hline).symm
        files := Faithful.nil }
  | some name =>
    rw [hline] at hnumbered'
    obtain ⟨hlookup, hfiles⟩ := planPlace_settled hplanned (hnested name hline)
    exact
      { covers := covers_line fun other hother => by
          rw [← Option.some.inj (hline.symm.trans hother), hlookup]
          rfl
        result_eq := replaced_eq hnumbered' hline hlookup
        files := hfiles }

end Steps

section Runs

variable {load : Loader} {bound : List String} {depth : Nat}

theorem hasRoom_tail {line : List Char} {ls : List (List Char)}
    (hroom : HasRoom bound depth (staged.map Prod.fst) (includeNames (line :: ls)))
    (h : staged <+: more) : HasRoom bound depth (more.map Prod.fst) (includeNames ls) :=
  hroom.mono (h.map Prod.fst).subset
    ((List.sublist_cons_self line ls).filterMap LineShape.includePath?).subset

theorem planLines_settled {planned : Planner}
    (hplanned : ∀ text staged,
      Records load staged (planned text staged).staged (planned text staged).files)
    (hnested : ∀ {name text staged}, Numbered staged → load name = some text →
      Include.fresh bound (staged.map Prod.fst) < depth →
        SettledText load text (planned text staged))
    {ls : List (List Char)} (hnumbered : Numbered staged)
    (hroom : HasRoom bound depth (staged.map Prod.fst) (includeNames ls)) :
    Settled load ls (fun staged => ls.map (retargetLine staged))
      (planLines load planned ls staged) := by
  induction ls generalizing staged with
  | nil => exact ⟨covers_nil _, rfl, Faithful.nil⟩
  | cons line ls ih =>
    have hfirst : Settled load [line] (retargetLine · line)
        (planLine load planned line staged) := by
      refine planLine_settled hplanned hnumbered fun name hline hlookup text hload => ?_
      have hmem : name ∈ includeNames (line :: ls) :=
        List.mem_filterMap.mpr ⟨line, List.mem_cons_self, hline⟩
      have hnew : name ∉ staged.map Prod.fst := by
        rw [Lookup.mem_keys_iff, hlookup]
        exact Bool.false_ne_true
      refine hnested (hnumbered.concat name) hload ?_
      rw [List.map_append]
      exact hroom name hmem hnew
    have hrecords := (records load).planLine hplanned line staged
    have hothers := ih (hrecords.numbered hnumbered) (hasRoom_tail hroom hrecords.grows)
    exact hfirst.cons hothers ((records load).planLines hplanned ls _).grows

/-- With a depth that has room for all includes that may still be new, no text is cut off. -/
theorem planTo_settled
    (hbound : ∀ name text, load name = some text →
      ∀ other ∈ includeNames (lines text.toList), other ∈ bound)
    {text : String} (hnumbered : Numbered staged)
    (hroom : HasRoom bound depth (staged.map Prod.fst) (includeNames (lines text.toList))) :
    SettledText load text (planTo load (depth + 1) text staged) := by
  induction depth generalizing text staged with
  | zero =>
    refine (planLines_settled ((records load).planTo 0) ?_ hnumbered hroom).joined
    exact fun _ _ hless => absurd hless (Nat.not_lt_zero _)
  | succ depth ih =>
    refine (planLines_settled ((records load).planTo (depth + 1)) ?_ hnumbered hroom).joined
    intro name included staged hnumbered hload hless
    -- The names of an included text are among those that are left, so each of them takes room.
    exact ih hnumbered (hasRoom_of_fresh_le (hbound name included hload) (Nat.le_of_lt_succ hless))

end Runs

end Staging

end InkWorkspace
