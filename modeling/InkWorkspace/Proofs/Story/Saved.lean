import InkWorkspace.Proofs.Story.Closure

/- Which indexed files carry the text that the disk holds. `SavedExcept` leaves out some paths, those of
   documents whose newest text may not be saved. A built index leaves out none (`build_saved`). After
   that every change takes one path in or out: an update with any text adds the path of its document
   (`SavedExcept.update`), an update with the disk's text and a removal take it away
   (`SavedExcept.update_onDisk`, `SavedExcept.remove`). What an update brings in besides is read from
   the disk, and what is indexed at other paths stays as it is (`find?_update_of_ne`). -/
namespace InkWorkspace

theorem InkFile.OnDisk.text?_eq {disk : Disk} {file : InkFile} (h : file.OnDisk disk) :
    disk.text? file.path = some file.text := by
  obtain ⟨text, htext, heq⟩ := h
  rw [htext, heq]
  rfl

namespace Story

/-- Every indexed file has the text that the disk holds at its path, `unsaved` paths left out. -/
def SavedExcept (disk : Disk) (unsaved : Path → Prop) (story : Story) : Prop :=
  ∀ path file, story.files.find? path = some file → ¬ unsaved path →
    disk.text? path = some file.text

/-! ## What a change does to the files -/

theorem find?_remove (story : Story) (path other : Path) :
    (story.remove path).2.files.find? other =
      if other = path.normalize then none else story.files.find? other := by
  unfold remove
  dsimp only
  split
  · next hnone =>
    split
    · next heq => rw [heq, hnone]
    · rfl
  · exact PathMap.find?_erase _ _ _

theorem find?_update_document (disk : Disk) (story : Story) (path : Path) (text : String) :
    (story.update disk path text).files.find? path.normalize =
      some (InkFile.read path.normalize text) :=
  find?_update_of_replaced (by rw [find?_replaced, if_pos rfl])

theorem find?_update_of_ne {disk : Disk} {story : Story} {path other : Path} {text : String}
    {file : InkFile} (hother : other ≠ path.normalize) (h : story.files.find? other = some file) :
    (story.update disk path text).files.find? other = some file :=
  find?_update_of_replaced (by rw [find?_replaced, if_neg hother, h])

theorem WellFormed.update_eq_self {story : Story} (h : story.WellFormed) {path : Path}
    {text : String}
    (hfile : story.files.find? path.normalize = some (InkFile.read path.normalize text))
    (disk : Disk) : story.update disk path text = story := by
  have hinsert : story.files.insert path.normalize (InkFile.read path.normalize text) =
      story.files :=
    h.files.ordered.insert_eq_self hfile
  simp only [update, hfile, hinsert, Option.all_some, ne_eq, not_true_eq_false, decide_false,
    Bool.false_eq_true, if_false]

/-- What is indexed after an update is the document, was indexed before, or comes from disk. -/
theorem find?_update_cases {disk : Disk} {story : Story} {path other : Path} {text : String}
    {file : InkFile} (h : (story.update disk path text).files.find? other = some file) :
    (other = path.normalize ∧ file = InkFile.read path.normalize text) ∨
      (other ≠ path.normalize ∧ story.files.find? other = some file) ∨
      (other ≠ path.normalize ∧ disk.text? other = some file.text) := by
  by_cases hother : other = path.normalize
  · subst hother
    rw [find?_update_document] at h
    exact Or.inl ⟨rfl, (Option.some.inj h).symm⟩
  · cases hbefore : story.files.find? other with
    | some old =>
      rw [find?_update_of_ne hother hbefore] at h
      exact Or.inr (Or.inl ⟨hother, h⟩)
    | none =>
      obtain ⟨rfl, hdisk, -⟩ := update_adds hother hbefore h
      exact Or.inr (Or.inr ⟨hother, hdisk.text?_eq⟩)

/-! ## Saved files -/

theorem mainFiles_onDisk (disk : Disk) (settings : Settings) (root : Path)
    (scanned : PathMap InkFile) : ∀ file ∈ mainFiles disk settings root scanned,
      file.OnDisk disk := by
  intro file hfile
  unfold mainFiles at hfile
  split at hfile
  · split at hfile
    · cases hfile
    · exact Include.loadFrom_onDisk disk root _ _ file hfile
  · cases hfile

theorem empty_saved (disk : Disk) (root : Path) :
    (empty root).SavedExcept disk (fun _ => False) := by
  intro path file hfile _
  rw [empty, PathMap.find?_empty] at hfile
  cases hfile

theorem build_saved (disk : Disk) (settings : Settings) (root : Path) :
    (build disk settings root).SavedExcept disk (fun _ => False) := by
  intro path file hfile _
  have hmore : ∀ found ∈ mainFiles disk settings root.normalize (scan disk root.normalize) ++
      (Include.loadFrom disk root.normalize
        ((scan disk root.normalize).values.flatMap (·.targets root.normalize))
        (scan disk root.normalize).keys).1, found.OnDisk disk := by
    intro found hfound
    rcases List.mem_append.mp hfound with hfound | hfound
    · exact mainFiles_onDisk disk settings _ _ found hfound
    · exact Include.loadFrom_onDisk disk _ _ _ found hfound
  rcases (find?_addFiles_onDisk (fun h => (find?_scan_iff.mp h).2) hmore).mp hfile with
    hscan | ⟨hmem, rfl⟩
  · obtain ⟨-, rfl, hdisk⟩ := find?_scan_iff.mp hscan
    exact InkFile.OnDisk.text?_eq hdisk
  · exact (hmore file hmem).text?_eq

namespace SavedExcept

variable {disk : Disk} {unsaved : Path → Prop} {story : Story}

theorem mono (h : story.SavedExcept disk unsaved) {more : Path → Prop}
    (hmore : ∀ path, unsaved path → more path) : story.SavedExcept disk more :=
  fun path file hfile hpath => h path file hfile (mt (hmore path) hpath)

protected theorem update (h : story.SavedExcept disk unsaved) (path : Path) (text : String) :
    (story.update disk path text).SavedExcept disk
      (fun other => unsaved other ∨ other = path.normalize) := by
  intro other file hfile hother
  rcases find?_update_cases hfile with ⟨heq, -⟩ | ⟨-, hbefore⟩ | ⟨-, hdisk⟩
  · exact absurd (Or.inr heq) hother
  · exact h other file hbefore (fun hun => hother (Or.inl hun))
  · exact hdisk

theorem update_onDisk (h : story.SavedExcept disk unsaved) {path : Path} {text : String}
    (htext : disk.text? path.normalize = some text) :
    (story.update disk path text).SavedExcept disk
      (fun other => unsaved other ∧ other ≠ path.normalize) := by
  intro other file hfile hother
  rcases find?_update_cases hfile with ⟨rfl, rfl⟩ | ⟨hne, hbefore⟩ | ⟨-, hdisk⟩
  · exact htext
  · exact h other file hbefore (fun hun => hother ⟨hun, hne⟩)
  · exact hdisk

protected theorem remove (h : story.SavedExcept disk unsaved) (path : Path) :
    (story.remove path).2.SavedExcept disk
      (fun other => unsaved other ∧ other ≠ path.normalize) := by
  intro other file hfile hother
  rw [find?_remove] at hfile
  split at hfile
  · cases hfile
  · next hne => exact h other file hfile (fun hun => hother ⟨hun, hne⟩)

end SavedExcept

end Story

end InkWorkspace
