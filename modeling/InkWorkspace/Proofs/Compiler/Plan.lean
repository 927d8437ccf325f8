import InkWorkspace.Compiler.Staging

/- Staging without a disk. What is written where depends only on the texts, so it can be planned
   first: `planTo` follows the includes as `stageTo` does and lists the files, and staging is writing
   them in that order (`stageTo_eq`).

   A plan meets includes and lists files step by step, so what is shown of it is mostly shown of a
   step (`Stepwise`). -/
namespace InkWorkspace

open Text

namespace Staging

/-- Includes with their targets, in the order in which they are met. -/
abbrev Names := List (String × String)

/-- Texts with their targets, in the order in which they are written. -/
abbrev Files := List (String × String)

/-- What staging leads to as far as it does not depend on the disk. -/
structure Plan (α : Type) where
  result : α
  staged : Names
  files : Files

/-- How the staging of a text is planned. -/
abbrev Planner := String → Names → Plan String

/-- Plans the target of an include. -/
def planPlace (load : Loader) (nested : Planner) (name : String) (staged : Names) : Plan String :=
  match staged.lookup name with
  | some target => ⟨target, staged, []⟩
  | none =>
    let target := targetOf name staged.length
    let met := staged ++ [(name, target)]
    match load name with
    | none => ⟨target, met, []⟩
    | some text =>
      let inner := nested text met
      ⟨target, inner.staged, inner.files ++ [(target, inner.result)]⟩

/-- Plans the staging of one line. -/
def planLine (load : Loader) (nested : Planner) (line : List Char) (staged : Names) :
    Plan (List Char) :=
  match LineShape.includePath? line with
  | none => ⟨line, staged, []⟩
  | some name =>
    let placed := planPlace load nested name staged
    let target := placed.result
    ⟨if target = name then line else replaceFirst name.toList target.toList line, placed.staged,
      placed.files⟩

/-- Plans the staging of lines, one after the other. -/
def planLines (load : Loader) (nested : Planner) : List (List Char) → Names →
    Plan (List (List Char))
  | [], staged => ⟨[], staged, []⟩
  | line :: rest, staged =>
    let first := planLine load nested line staged
    let others := planLines load nested rest first.staged
    ⟨first.result :: others.result, others.staged, first.files ++ others.files⟩

/-- Plans the staging of a text whose includes nest at most `depth` deep. -/
def planTo (load : Loader) : (depth : Nat) → Planner
  | 0, text, staged => ⟨text, staged, []⟩
  | depth + 1, text, staged =>
    let plan := planLines load (planTo load depth) (lines text.toList) staged
    ⟨joinLines plan.result, plan.staged, plan.files⟩

variable {load : Loader}

/-! ## Writing what is planned -/

/-- Writes files, one after the other. -/
def perform (disk : Disk) (files : Files) : Except FileError Disk :=
  files.foldlM (fun disk file => writeFile disk file.1 file.2) disk

/-- The outcome of a plan once its files are written. -/
def Plan.carryOut {α : Type} (plan : Plan α) (scratch : Disk) : Except FileError (α × Staging) := do
  return (plan.result, ⟨plan.staged, ← perform scratch plan.files⟩)

theorem perform_append (disk : Disk) (front back : Files) :
    perform disk (front ++ back) = (perform disk front).bind (perform · back) :=
  List.foldlM_append

theorem perform_cons (disk : Disk) (file : String × String) (files : Files) :
    perform disk (file :: files) = (writeFile disk file.1 file.2).bind (perform · files) :=
  List.foldlM_cons

theorem carryOut_eq_map {α : Type} (plan : Plan α) (scratch : Disk) :
    plan.carryOut scratch =
      (perform scratch plan.files).map fun disk => (plan.result, ⟨plan.staged, disk⟩) := by
  unfold Plan.carryOut
  cases perform scratch plan.files <;> rfl

section Equality

variable {nested : Stager} {planned : Planner}
  (hnested : ∀ text staging,
    nested text staging = (planned text staging.staged).carryOut staging.scratch)

include hnested

theorem place_eq (name : String) (staging : Staging) :
    place load nested name staging =
      (planPlace load planned name staging.staged).carryOut staging.scratch := by
  unfold place planPlace
  cases staging.staged.lookup name with
  | some target => rfl
  | none =>
    cases load name with
    | none => rfl
    | some text =>
      dsimp only
      generalize targetOf name staging.staged.length = target
      rw [hnested, carryOut_eq_map, carryOut_eq_map, perform_append]
      dsimp only
      generalize planned text (staging.staged ++ [(name, target)]) = plan
      cases perform staging.scratch plan.files with
      | error e => rfl
      | ok disk =>
        simp only [Except.map, bind, Except.bind, perform_cons]
        cases writeFile disk target plan.result <;> rfl

theorem stageLine_eq (line : List Char) (staging : Staging) :
    stageLine load nested line staging =
      (planLine load planned line staging.staged).carryOut staging.scratch := by
  unfold stageLine planLine
  cases LineShape.includePath? line with
  | none => rfl
  | some name =>
    dsimp only
    rw [place_eq hnested, carryOut_eq_map, carryOut_eq_map]
    dsimp only
    generalize planPlace load planned name staging.staged = plan
    cases perform staging.scratch plan.files with
    | error e => rfl
    | ok disk =>
      simp only [Except.map, bind, Except.bind]
      split <;> rfl

theorem stageLines_eq (ls : List (List Char)) (staging : Staging) :
    stageLines load nested ls staging =
      (planLines load planned ls staging.staged).carryOut staging.scratch := by
  induction ls generalizing staging with
  | nil => rfl
  | cons line ls ih =>
    rw [stageLines, planLines, stageLine_eq hnested, carryOut_eq_map, carryOut_eq_map,
      perform_append]
    dsimp only
    generalize planLine load planned line staging.staged = first
    cases perform staging.scratch first.files with
    | error e => rfl
    | ok disk =>
      simp only [Except.map, bind, Except.bind, ih, carryOut_eq_map]
      cases perform disk (planLines load planned ls first.staged).files <;> rfl

end Equality

/-- Staging writes what is planned. -/
theorem stageTo_eq (load : Loader) (depth : Nat) (text : String) (staging : Staging) :
    stageTo load depth text staging =
      (planTo load depth text staging.staged).carryOut staging.scratch := by
  induction depth generalizing text staging with
  | zero => rfl
  | succ depth ih =>
    rw [stageTo, planTo, stageLines_eq ih, carryOut_eq_map, carryOut_eq_map]
    dsimp only
    generalize planLines load (planTo load depth) (lines text.toList) staging.staged = plan
    cases perform staging.scratch plan.files <;> rfl

/-! ## Step by step -/

/-- A relation between the includes met before and after, and the files in between, that holds of any
    number of steps if it holds of each. -/
structure Stepwise (load : Loader) (R : Names → Names → Files → Prop) : Prop where
  refl (staged : Names) : R staged staged []
  trans {before between after : Names} {front back : Files} :
    R before between front → R between after back → R before after (front ++ back)
  missing {name : String} {staged : Names} : staged.lookup name = none → load name = none →
    R staged (staged ++ [(name, targetOf name staged.length)]) []
  loaded {name text : String} {staged after : Names} {files : Files} :
    staged.lookup name = none → load name = some text →
      R (staged ++ [(name, targetOf name staged.length)]) after files →
        ∀ result, R staged after (files ++ [(targetOf name staged.length, result)])

namespace Stepwise

variable {R : Names → Names → Files → Prop} (h : Stepwise load R)

include h

section

variable {planned : Planner}
  (hplanned : ∀ text staged, R staged (planned text staged).staged (planned text staged).files)

include hplanned

theorem planPlace (name : String) (staged : Names) :
    R staged (planPlace load planned name staged).staged
      (planPlace load planned name staged).files := by
  unfold Staging.planPlace
  cases hlookup : staged.lookup name with
  | some target => exact h.refl staged
  | none =>
    cases hload : load name with
    | none => exact h.missing hlookup hload
    | some text => exact h.loaded hlookup hload (hplanned text _) _

theorem planLine (line : List Char) (staged : Names) :
    R staged (planLine load planned line staged).staged
      (planLine load planned line staged).files := by
  unfold Staging.planLine
  cases LineShape.includePath? line with
  | none => exact h.refl staged
  | some name => exact h.planPlace hplanned name staged

theorem planLines (ls : List (List Char)) (staged : Names) :
    R staged (planLines load planned ls staged).staged
      (planLines load planned ls staged).files := by
  induction ls generalizing staged with
  | nil => exact h.refl staged
  | cons line ls ih => exact h.trans (h.planLine hplanned line staged) (ih _)

end

theorem planTo (depth : Nat) (text : String) (staged : Names) :
    R staged (planTo load depth text staged).staged (planTo load depth text staged).files := by
  induction depth generalizing text staged with
  | zero => exact h.refl staged
  | succ depth ih => exact h.planLines ih (lines text.toList) staged

end Stepwise

end Staging

end InkWorkspace
