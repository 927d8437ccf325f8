import InkWorkspace.Proofs.Story.Closure

/- What a run of updates leaves in the index. Additions are exact: an update brings in its document
   and the readable files that include lines lead to from there (`contains_update_iff`). Nothing is
   ever taken back: a file stays when the last include line that led to it is gone. So after a run the
   index holds what was indexed at its start and what any of the updates reached at its time, which
   can be more than the texts at its end account for: `DroppedInclude` is such a run. -/
namespace InkWorkspace.Story

/-- The index after updates of documents, one after the other and all on one disk. -/
def updates (disk : Disk) (story : Story) (changes : List (Path × String)) : Story :=
  changes.foldl (fun story (path, text) => story.update disk path text) story

/-- The paths that the current texts account for: the ink files below the root, the main file, the
    given documents, and what the include lines of such a file name. -/
inductive Supported (disk : Disk) (settings : Settings) (documents : List Path) (story : Story) :
    Path → Prop where
  | scanned {path : Path} :
    path ∈ Include.inkPaths disk story.root → Supported disk settings documents story path
  | main {path : Path} :
    settings.mainPath? story.root = some path → Supported disk settings documents story path
  | document {path : Path} : path ∈ documents → Supported disk settings documents story path
  | included {path target : Path} :
    Supported disk settings documents story path → story.IncludesFile path target →
      Supported disk settings documents story target

/-- One of the updates reached the path: it is the document, or a readable file to which include
    lines led from the document right after the update. -/
def Reached (disk : Disk) (story : Story) (changes : List (Path × String)) (path : Path) : Prop :=
  ∃ done document text rest, changes = done ++ (document, text) :: rest ∧
    (path = document.normalize ∨ (disk.text? path).isSome = true ∧
      Relation.TransGen (story.updates disk (done ++ [(document, text)])).IncludesFile
        document.normalize path)

/-! ## One update -/

/-- What a closed index holds after an update: what it held before, the document, and the readable
    files that include lines lead to from the document. -/
theorem contains_update_iff {disk : Disk} {story : Story} (habs : story.root.absolute = true)
    (h : story.Closed disk) (document path : Path) (text : String) :
    (story.update disk document text).files.contains path = true ↔
      story.files.contains path = true ∨ path = document.normalize ∨
        (disk.text? path).isSome = true ∧
          Relation.TransGen (story.update disk document text).IncludesFile
            document.normalize path := by
  constructor
  · intro hafter
    obtain ⟨file, hfile⟩ := PathMap.contains_iff.mp hafter
    by_cases hdocument : path = document.normalize
    · exact Or.inr (Or.inl hdocument)
    · cases hbefore : story.files.find? path with
      | some old => exact Or.inl (PathMap.contains_iff.mpr ⟨old, hbefore⟩)
      | none =>
        obtain ⟨rfl, ⟨found, hfound, -⟩, hchain⟩ := update_adds hdocument hbefore hfile
        exact Or.inr (Or.inr ⟨Option.isSome_iff_exists.mpr ⟨found, hfound⟩, hchain⟩)
  · -- The index only grows; a chain of include lines ends at an indexed file because it is closed.
    have hkept {other : Path} {file : InkFile}
        (hfile : (story.replaced document text).find? other = some file) :
        (story.update disk document text).files.contains other = true :=
      PathMap.contains_iff.mpr ⟨file, find?_update_of_replaced hfile⟩
    rintro (hbefore | rfl | ⟨hread, hchain⟩)
    · obtain ⟨file, hfile⟩ := PathMap.contains_iff.mp hbefore
      by_cases hdocument : path = document.normalize
      · exact hkept (by rw [find?_replaced, if_pos hdocument])
      · exact hkept (by rw [find?_replaced, if_neg hdocument, hfile])
    · exact hkept (by rw [find?_replaced, if_pos rfl])
    · obtain ⟨source, -, file, hfile, htarget⟩ := Relation.TransGen.tail'_iff.mp hchain
      exact update_closed habs h document text source file hfile path htarget hread

/-! ## Runs of updates -/

theorem updates_root (disk : Disk) (story : Story) (changes : List (Path × String)) :
    (story.updates disk changes).root = story.root := by
  induction changes generalizing story with
  | nil => rfl
  | cons change changes ih =>
    exact (ih (story.update disk change.1 change.2)).trans (update_root disk story _ _)

theorem reached_cons_iff {disk : Disk} {story : Story} {document path : Path} {text : String}
    {changes : List (Path × String)} :
    story.Reached disk ((document, text) :: changes) path ↔
      (path = document.normalize ∨ (disk.text? path).isSome = true ∧
        Relation.TransGen (story.update disk document text).IncludesFile
          document.normalize path) ∨
      (story.update disk document text).Reached disk changes path := by
  constructor
  · rintro ⟨done, other, found, rest, heq, hpath⟩
    cases done with
    | nil =>
      cases heq
      exact Or.inl hpath
    | cons first done =>
      cases heq
      exact Or.inr ⟨done, other, found, rest, rfl, hpath⟩
  · rintro (hpath | ⟨done, other, found, rest, rfl, hpath⟩)
    · exact ⟨[], document, text, changes, rfl, hpath⟩
    · exact ⟨(document, text) :: done, other, found, rest, rfl, hpath⟩

/-- After a run of updates, a closed index holds what it held before and what an update reached. -/
theorem contains_updates_iff {disk : Disk} {story : Story} (habs : story.root.absolute = true)
    (h : story.Closed disk) (changes : List (Path × String)) (path : Path) :
    (story.updates disk changes).files.contains path = true ↔
      story.files.contains path = true ∨ story.Reached disk changes path := by
  induction changes generalizing story with
  | nil => simp [updates, Reached]
  | cons change changes ih =>
    obtain ⟨document, text⟩ := change
    have hroot : (story.update disk document text).root.absolute = true := by
      rw [update_root]
      exact habs
    have hrest := ih hroot (update_closed habs h document text)
    have hstep := contains_update_iff habs h document path text
    rw [reached_cons_iff, ← or_assoc, ← hstep]
    exact hrest

theorem contains_build_iff (disk : Disk) (settings : Settings) {root : Path}
    (habs : root.absolute = true) (path : Path) :
    (build disk settings root).files.contains path = true ↔
      Indexed disk settings root.normalize path := by
  have hroot : root.normalize.absolute = true := (Path.normalize_absolute root).trans habs
  rw [PathMap.contains_iff]
  constructor
  · rintro ⟨file, hfile⟩
    exact (complete_sound hroot (List.Perm.refl _) hfile).1
  · exact complete_covers hroot (List.Perm.refl _)

/-- After any run of updates on one disk, the index of a project holds exactly the files that were
    indexed at its start and those that one of the updates reached at its time. -/
theorem updates_hold_reached_files (disk : Disk) (settings : Settings) (root : Path)
    (habs : root.absolute = true) (changes : List (Path × String)) (path : Path) :
    path ∈ ((build disk settings root).updates disk changes).files.keys ↔
      Indexed disk settings root.normalize path ∨
        (build disk settings root).Reached disk changes path := by
  have hroot : root.normalize.absolute = true := (Path.normalize_absolute root).trans habs
  rw [PathMap.mem_keys_iff, contains_updates_iff hroot (build_closed disk settings habs),
    contains_build_iff disk settings habs]

/-! ## A file that is no longer included -/

namespace DroppedInclude

/-- A project with one file, and another file beside its folder. -/
def disk : Disk :=
  .ofTexts [("/p/a.ink", ""), ("/b.ink", "=== knot ===\n")]

def folder : Path := .ofString "/p"

/-- The file of the project. -/
def inside : Path := .ofString "/p/a.ink"

/-- The file beside the folder. -/
def outside : Path := .ofString "/b.ink"

/-- The file of the project includes the one outside, and then it no longer does. -/
def changes : List (Path × String) :=
  [(inside, "INCLUDE ../b.ink\n"), (inside, "")]

theorem reached_outside : (build disk {} folder).Reached disk changes outside := by
  refine ⟨[], inside, "INCLUDE ../b.ink\n", [(inside, "")], rfl, Or.inr ⟨by decide +kernel, ?_⟩⟩
  refine .single ⟨_, find?_update_of_replaced (by rw [find?_replaced, if_pos rfl]), ?_⟩
  rw [updates_root]
  decide +kernel

theorem indexed_inside : Indexed disk {} folder inside := by
  have hscan : inside ∈ Include.inkPaths disk folder := by decide +kernel
  have htext : disk.text? inside = some "" := by decide +kernel
  exact .scanned hscan htext

theorem eq_inside_of_supported {path : Path}
    (h : Supported disk {} [inside, inside] ((build disk {} folder).updates disk changes) path) :
    path = inside := by
  have hroot : ((build disk {} folder).updates disk changes).root = folder := updates_root ..
  induction h with
  | scanned hpath =>
    have hscan : Include.inkPaths disk folder = [inside] := by decide +kernel
    rw [hroot, hscan] at hpath
    exact List.mem_singleton.mp hpath
  | main hpath => cases hpath
  | document hpath => simpa using hpath
  | included hsource hincludes ih =>
    subst ih
    obtain ⟨file, hfile, htarget⟩ := hincludes
    have hlast : ((build disk {} folder).updates disk changes).files.find? inside =
        some (InkFile.read inside "") :=
      find?_update_of_replaced (by rw [find?_replaced, if_pos (by decide)]; rfl)
    rw [hlast] at hfile
    cases hfile
    cases htarget

/-- The file outside was reached by the first update, so the index holds it after both. -/
theorem updates_hold_dropped_include :
    folder.absolute = true ∧ outside ∈ ((build disk {} folder).updates disk changes).files.keys :=
  ⟨rfl, (updates_hold_reached_files disk {} folder rfl changes outside).mpr (Or.inr reached_outside)⟩

/-- Updates may leave files in the index that the current texts do not account for, even if they
    concern no other documents than indexed ones. -/
theorem updates_keep_unsupported_file :
    ¬ ∀ (disk : Disk) (settings : Settings) (root : Path) (changes : List (Path × String)),
      root.absolute = true →
      (∀ change ∈ changes, change.1.normalize ∈ (build disk settings root).files.keys) →
      ∀ path ∈ ((build disk settings root).updates disk changes).files.keys,
        Supported disk settings (changes.map (·.1.normalize))
          ((build disk settings root).updates disk changes) path := by
  intro hall
  have hroot : folder.normalize.absolute = true := rfl
  have hinside : inside.normalize ∈ (build disk {} folder).files.keys :=
    PathMap.mem_keys_iff.mpr ((contains_build_iff disk {} rfl inside).mpr indexed_inside)
  have houtside : outside ∈ ((build disk {} folder).updates disk changes).files.keys := by
    rw [PathMap.mem_keys_iff, contains_updates_iff hroot (build_closed disk {} rfl)]
    exact Or.inr reached_outside
  have hsupported := hall disk {} folder changes rfl (by simp [changes, hinside]) outside houtside
  have heq : outside = inside := eq_inside_of_supported hsupported
  exact absurd heq (by decide)

end DroppedInclude

end InkWorkspace.Story
