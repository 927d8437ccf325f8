import InkWorkspace.Include.Check
import InkWorkspace.Proofs.Line.Grammar
import InkWorkspace.Proofs.Source

/- The checker of include lines and the index see the same include lines. The index asks whether a line
   is a header before it asks whether it is an include, and the checker asks the second question only.
   No line is both, since behind its blanks a header begins with an equals sign
   (`classify_eq_inclusion_iff`). So a line makes an inclusion of the index if and only if it has an
   include path (`inclusionOn?_eq`), and what the checker says of a line it says of that inclusion
   (`lineProblem?_eq`).

   What it says depends on the file that the inclusion leads to: nothing stands there, something with
   another extension does, or an ink file (`problemOf?_eq`). -/
namespace InkWorkspace

open Text

namespace LineShape

theorem classify_eq_inclusion_iff {line : List Char} {path : String} :
    classify line = .inclusion path ↔ includePath? line = some path := by
  constructor
  · intro hshape
    have hsome : classify line ≠ .other := by
      rw [hshape]
      nofun
    rcases classify_cases hsome with hheader | ⟨found, hfound, heq⟩ | ⟨kind, hkind⟩
    · rw [hshape] at hheader
      cases (header?_iff.mp hheader).1 with
      | inclusion => cases (header?_iff.mp hheader).2
    · rw [hshape] at heq
      cases heq
      exact hfound
    · rw [hshape] at hkind
      obtain ⟨_, -, heq⟩ := declaration?_eq_some_iff.mp hkind
      cases heq
  · exact classify_of_includePath?

end LineShape

namespace Contents

open LineShape

theorem inclusionOn?_eq (number : Nat) (line : List Char) :
    inclusionOn? number line =
      (includePath? line).map fun path => ⟨path, number, Range.wholeLine number line⟩ := by
  cases hpath : includePath? line with
  | some path => exact inclusionOn?_eq_some_iff.mpr ⟨classify_of_includePath? hpath, rfl, rfl⟩
  | none =>
    refine Option.eq_none_iff_forall_ne_some.mpr fun inclusion hinclusion => ?_
    have hshape := (inclusionOn?_eq_some_iff.mp hinclusion).1
    rw [classify_eq_inclusion_iff, hpath] at hshape
    cases hshape

theorem includes_eq (ls : List (List Char)) :
    (ofLines 0 ls).includes = ls.zipIdx.filterMap fun (line, n) =>
      (includePath? line).map fun path => ⟨path, n, Range.wholeLine n line⟩ := by
  simp only [← inclusionOn?_eq]
  exact includes_ofLines 0 ls

theorem includes_paths (ls : List (List Char)) :
    (ofLines 0 ls).includes.map (·.path) = ls.filterMap includePath? := by
  calc (ofLines 0 ls).includes.map (·.path)
      = ls.zipIdx.filterMap fun (line, _) => includePath? line := by
        rw [includes_eq, List.map_filterMap]
        simp [Function.comp_def]
    _ = (ls.zipIdx.map Prod.fst).filterMap includePath? := by
        rw [List.filterMap_map]
        rfl
    _ = ls.filterMap includePath? := by
        rw [List.zipIdx_map_fst]

theorem includePath?_isSome_iff (ls : List (List Char)) (n : Nat) :
    (ls[n]?.bind includePath?).isSome = true ↔
      ∃ inclusion ∈ (ofLines 0 ls).includes, inclusion.line = n := by
  simp only [Option.isSome_iff_exists, Option.bind_eq_some_iff]
  rw [includes_eq]
  constructor
  · intro hpath
    obtain ⟨path, line, hline, hpath⟩ := hpath
    refine ⟨⟨path, n, Range.wholeLine n line⟩, List.mem_filterMap.mpr ⟨(line, n), ?_, ?_⟩, rfl⟩
    · exact List.mk_mem_zipIdx_iff_getElem?.mpr hline
    · exact Option.map_eq_some_iff.mpr ⟨path, hpath, rfl⟩
  · intro hmember
    obtain ⟨inclusion, hinclusion, rfl⟩ := hmember
    obtain ⟨⟨line, m⟩, hline, hmade⟩ := List.mem_filterMap.mp hinclusion
    obtain ⟨path, hpath, rfl⟩ := Option.map_eq_some_iff.mp hmade
    exact ⟨path, line, List.mk_mem_zipIdx_iff_getElem?.mp hline, hpath⟩

end Contents

namespace Include

open Contents LineShape

section Problems

variable (disk : Disk) (root : Path)

/-- The problem of an inclusion, if the file that it leads to has a fault. -/
def problemOf? (inclusion : Inclusion) : Option Problem :=
  let target := root.resolve (.ofString inclusion.path)
  (faultAt? disk target).map fun fault => ⟨fault, inclusion, target⟩

theorem problemOf?_eq (inclusion : Inclusion) :
    let target := root.resolve (.ofString inclusion.path)
    problemOf? disk root inclusion =
      if disk.has target = false then some ⟨.missing, inclusion, target⟩
      else if target.extension? ≠ some inkExtension then some ⟨.wrongExtension, inclusion, target⟩
      else none := by
  intro target
  simp only [problemOf?, faultAt?, Bool.not_eq_true']
  split
  · rfl
  · split <;> rfl

/-- What is wrong with a line is what is wrong with the inclusion that it makes. -/
theorem lineProblem?_eq (number : Nat) (line : List Char) :
    lineProblem? disk root number line = (inclusionOn? number line).bind (problemOf? disk root) := by
  rw [inclusionOn?_eq, lineProblem?]
  cases includePath? line with
  | none => rfl
  | some path => exact Option.map_eq_bind.symm

theorem problemsFrom_eq (number : Nat) (ls : List (List Char)) :
    problemsFrom disk root number ls =
      (ofLines number ls).includes.filterMap (problemOf? disk root) := by
  induction ls generalizing number with
  | nil => rfl
  | cons line ls ih =>
    rw [problemsFrom, ofLines, includes_addLine, List.filterMap_append, ih, lineProblem?_eq]
    cases inclusionOn? number line with
    | none => rfl
    | some inclusion => cases h : problemOf? disk root inclusion <;> simp [h]

theorem inclusion_of_problemOf? {inclusion : Inclusion} {problem : Problem}
    (h : problemOf? disk root inclusion = some problem) : problem.inclusion = inclusion := by
  obtain ⟨fault, -, rfl⟩ := Option.map_eq_some_iff.mp h
  rfl

end Problems

/-- Checking a text goes over the inclusions that the index lists for it, each once and in order. One
    that leads to nothing is missing, one that leads to something else than an ink file has the wrong
    extension, and nothing is said of the others. What the index lists are the lines with an include
    path, each with its path and its range. -/
theorem problems_follow_index (disk : Disk) (root path : Path) (text : String) :
    let listed := (InkFile.read path text).includes
    let ls := lines text.toList
    problems disk root text = listed.filterMap (fun inclusion =>
      let target := root.resolve (.ofString inclusion.path)
      if disk.has target = false then some ⟨.missing, inclusion, target⟩
      else if target.extension? ≠ some inkExtension then some ⟨.wrongExtension, inclusion, target⟩
      else none) ∧
    (problems disk root text).Pairwise (fun a b => a.inclusion.line < b.inclusion.line) ∧
    listed = ls.zipIdx.filterMap (fun (line, n) =>
      (includePath? line).map fun raw => ⟨raw, n, Range.wholeLine n line⟩) ∧
    ls.filterMap includePath? = listed.map (·.path) ∧
    ∀ n, (ls[n]?.bind includePath?).isSome = true ↔ ∃ inclusion ∈ listed, inclusion.line = n := by
  intro listed ls
  have hproblems : problems disk root text = listed.filterMap (problemOf? disk root) :=
    problemsFrom_eq disk root 0 ls
  refine ⟨?_, ?_, includes_eq ls, (includes_paths ls).symm, includePath?_isSome_iff ls⟩
  · exact hproblems.trans (congrArg listed.filterMap (funext (problemOf?_eq disk root)))
  · rw [hproblems]
    refine List.pairwise_filterMap.mpr ((includes_rising 0 ls).imp fun {a b} hab x hx y hy => ?_)
    rw [inclusion_of_problemOf? disk root hx, inclusion_of_problemOf? disk root hy]
    exact hab

end Include

end InkWorkspace
