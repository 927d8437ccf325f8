import InkWorkspace.Proofs.Compiler.Plan
import InkWorkspace.Proofs.Compiler.Target
import InkWorkspace.Proofs.Lookup

/- Staging stays in the scratch folder. Includes are numbered in the order in which they are met, and
   each file is written for one of them (`records`), so it goes where the number and the name of the
   include lead. That is below the scratch folder, and elsewhere for every moved include
   (`stageTo_descends`).

   The texts may come from anywhere: every name is loaded at most once, so whatever brings in the
   includes is a function from names. -/
namespace InkWorkspace

open Text

namespace Staging

/-- Every include has the target that goes with its number. -/
def Numbered (staged : Names) : Prop :=
  ∀ index entry, staged[index]? = some entry → entry.2 = targetOf entry.1 index

namespace Numbered

variable {staged : Names}

theorem nil : Numbered [] := by
  intro index entry h
  cases h

theorem concat (h : Numbered staged) (name : String) :
    Numbered (staged ++ [(name, targetOf name staged.length)]) := by
  intro index entry hentry
  rcases Nat.lt_trichotomy index staged.length with hless | rfl | hmore
  · rw [List.getElem?_append_left hless] at hentry
    exact h index entry hentry
  · rw [List.getElem?_concat_length] at hentry
    cases hentry
    rfl
  · rw [List.getElem?_eq_none (by simp; omega)] at hentry
    cases hentry

theorem target_eq (h : Numbered staged) {name target : String} (hmem : (name, target) ∈ staged) :
    ∃ index, staged[index]? = some (name, target) ∧ target = targetOf name index := by
  obtain ⟨index, hindex⟩ := List.mem_iff_getElem?.mp hmem
  exact ⟨index, hindex, h index _ hindex⟩

theorem targetOf_lookup (h : Numbered staged) {name target : String}
    (hlookup : staged.lookup name = some target) : ∃ index, target = targetOf name index := by
  obtain ⟨index, -, htarget⟩ := h.target_eq (Lookup.mem_of_lookup hlookup)
  exact ⟨index, htarget⟩

theorem eq_of_places_eq (h : Numbered staged) {entry other : String × String}
    (hentry : entry ∈ staged) (hother : other ∈ staged) (hmoved : isContained entry.1 = false)
    (hmoved' : isContained other.1 = false) (hplace : placeOf entry.2 = placeOf other.2) :
    entry = other := by
  obtain ⟨index, hindex, htarget⟩ := h.target_eq hentry
  obtain ⟨number, hnumber, htarget'⟩ := h.target_eq hother
  rw [htarget, htarget'] at hplace
  rw [index_eq_of_places_eq hmoved hmoved' hplace, hnumber] at hindex
  exact (Option.some.inj hindex).symm

end Numbered

/-- What steps of a plan do: they add includes with their numbers, and write one file for each that
    can be loaded. -/
structure Records (load : Loader) (before after : Names) (files : Files) : Prop where
  grows : before <+: after
  numbered : Numbered before → Numbered after
  sources : ∀ file ∈ files, ∃ name text, (name, file.1) ∈ after ∧ load name = some text
  written : ∀ entry ∈ after, entry ∉ before → ∀ text, load entry.1 = some text →
    ∃ result, (entry.2, result) ∈ files

theorem records (load : Loader) : Stepwise load (Records load) where
  refl staged :=
    { grows := List.prefix_refl staged
      numbered := id
      sources := by simp
      written := fun entry hentry hnew => absurd hentry hnew }
  trans {before between after front back} hfront hback :=
    { grows := hfront.grows.trans hback.grows
      numbered := hback.numbered ∘ hfront.numbered
      sources := by
        intro file hfile
        rcases List.mem_append.mp hfile with hfile | hfile
        · obtain ⟨name, text, hmem, hload⟩ := hfront.sources file hfile
          exact ⟨name, text, hback.grows.subset hmem, hload⟩
        · exact hback.sources file hfile
      written := by
        intro entry hentry hnew text hload
        -- An entry is added by one of the two parts, and that part writes its file.
        by_cases hbetween : entry ∈ between
        · obtain ⟨result, hresult⟩ := hfront.written entry hbetween hnew text hload
          exact ⟨result, List.mem_append_left back hresult⟩
        · obtain ⟨result, hresult⟩ := hback.written entry hentry hbetween text hload
          exact ⟨result, List.mem_append_right front hresult⟩ }
  missing {name staged} _ hload :=
    { grows := List.prefix_append staged _
      numbered := fun h => h.concat name
      sources := by simp
      written := by
        intro entry hentry hnew text hsome
        rcases List.mem_append.mp hentry with hentry | hentry
        · exact absurd hentry hnew
        · cases List.mem_singleton.mp hentry
          rw [hload] at hsome
          cases hsome }
  loaded {name text staged after files} _ hload hinner result :=
    { grows := (List.prefix_append staged _).trans hinner.grows
      numbered := fun h => hinner.numbered (h.concat name)
      sources := by
        intro file hfile
        rcases List.mem_append.mp hfile with hfile | hfile
        · exact hinner.sources file hfile
        · cases List.mem_singleton.mp hfile
          exact ⟨name, text, hinner.grows.subset (by simp), hload⟩
      written := by
        intro entry hentry hnew text' hsome
        by_cases hmet : entry = (name, targetOf name staged.length)
        · subst hmet
          exact ⟨result, by simp⟩
        · obtain ⟨inner, hfile⟩ := hinner.written entry hentry (by simp [hnew, hmet]) text' hsome
          exact ⟨inner, List.mem_append_left _ hfile⟩ }

/-- Whatever a text includes, and however the includes are loaded, all that staging writes lies below
    the scratch folder, at a way down from it, and different moved includes have different
    targets. -/
theorem stageTo_descends (load : Loader) (depth : Nat) (text : String) (scratch : Disk) :
    stageTo load depth text ⟨[], scratch⟩ = (planTo load depth text []).carryOut scratch ∧
      (∀ file ∈ (planTo load depth text []).files,
        (Path.ofString file.1).Descends ∧
          ∀ folder : Path, folder.absolute = true → folder.join (.ofString file.1) =
            ⟨true, folder.parts ++ (placeOf file.1).map .name⟩) ∧
      ∀ entry ∈ (planTo load depth text []).staged, ∀ other ∈ (planTo load depth text []).staged,
        isContained entry.1 = false → isContained other.1 = false → entry.1 ≠ other.1 →
          entry.2 ≠ other.2 := by
  have hrecords := (records load).planTo depth text []
  have hnumbered := hrecords.numbered Numbered.nil
  refine ⟨stageTo_eq load depth text ⟨[], scratch⟩, ?_, ?_⟩
  · intro file hfile
    obtain ⟨name, contents, hmem, -⟩ := hrecords.sources file hfile
    obtain ⟨index, -, htarget⟩ := hnumbered.target_eq hmem
    have hdescends : (Path.ofString file.1).Descends := htarget ▸ descends_targetOf name index
    exact ⟨hdescends, fun folder hfolder => hdescends.join_eq hfolder⟩
  · intro entry hentry other hother hmoved hmoved' hne htarget
    exact hne (congrArg Prod.fst
      (hnumbered.eq_of_places_eq hentry hother hmoved hmoved' (congrArg placeOf htarget)))

/-- Two files outside the folder of the root text, the first of which includes the second. -/
def outside : Loader := fun name =>
  if name = "../one.ink" then some "INCLUDE /lib/one.ink\n-> END\n"
  else if name = "/lib/one.ink" then some "-> DONE\n"
  else none

/-- Two includes from outside, both of a file of one name, are kept apart. -/
theorem outside_descends :
    (planTo outside 3 "INCLUDE ../one.ink" []).files =
        [("__external__/1_one.ink", "-> DONE"),
          ("__external__/0_one.ink", "INCLUDE __external__/1_one.ink\n-> END")] ∧
      (Path.ofString "__external__/1_one.ink").Descends ∧ isContained "../one.ink" = false ∧
      isContained "/lib/one.ink" = false ∧ "../one.ink" ≠ "/lib/one.ink" ∧
      "__external__/0_one.ink" ≠ "__external__/1_one.ink" := by
  have hfiles : (planTo outside 3 "INCLUDE ../one.ink" []).files =
      [("__external__/1_one.ink", "-> DONE"),
        ("__external__/0_one.ink", "INCLUDE __external__/1_one.ink\n-> END")] := by
    decide +kernel
  have hone : isContained "../one.ink" = false := by decide +kernel
  have hlib : isContained "/lib/one.ink" = false := by decide +kernel
  obtain ⟨-, hdescends, htargets⟩ := stageTo_descends outside 3 "INCLUDE ../one.ink" .empty
  exact ⟨hfiles, (hdescends ("__external__/1_one.ink", "-> DONE") (by simp [hfiles])).1, hone, hlib,
    by decide, htargets ("../one.ink", "__external__/0_one.ink") (by decide +kernel)
      ("/lib/one.ink", "__external__/1_one.ink") (by decide +kernel) hone hlib (by decide)⟩

end Staging

end InkWorkspace
