import InkWorkspace.Proofs.Story.Index
import Mathlib.Logic.Relation

/- Updates and the files they may touch. An index is closed on a disk if every readable file that an
   indexed file includes is indexed. A fresh index and a built one are closed, and an update keeps an
   index closed, although it follows only the include lines of the document that changed, stops at
   every file that is indexed already, and loads nothing at all where the include lines have stayed
   the same: what it stops at is closed already. All else stays: other files keep the text they were
   indexed with, saved or not, and what comes in is read from disk and reached from the document. -/
namespace InkWorkspace.Story

/-- Every readable file that an indexed file includes is indexed. -/
def Closed (disk : Disk) (story : Story) : Prop :=
  ∀ path file, story.files.find? path = some file → ∀ target ∈ file.targets story.root,
    (disk.text? target).isSome = true → story.files.contains target = true

/-- An include line of the indexed file at `path` names `target`. -/
def IncludesFile (story : Story) (path target : Path) : Prop :=
  ∃ file, story.files.find? path = some file ∧ target ∈ file.targets story.root

theorem empty_closed (disk : Disk) (root : Path) : (empty root).Closed disk := by
  intro path file hfile
  cases hfile

theorem build_closed (disk : Disk) (settings : Settings) {root : Path}
    (habs : root.absolute = true) : (build disk settings root).Closed disk := by
  have hroot : root.normalize.absolute = true := (Path.normalize_absolute root).trans habs
  intro path file hfile target htarget hread
  obtain ⟨found, hfound⟩ := Option.isSome_iff_exists.mp hread
  obtain ⟨hindexed, rfl, text, htext, heq⟩ := complete_sound hroot (List.Perm.refl _) hfile
  rw [heq] at htarget
  have hnames : Include.Names root.normalize text target := InkFile.mem_targets_read.mp htarget
  exact PathMap.contains_iff.mpr
    (complete_covers hroot (List.Perm.refl _) (.included hindexed htext hnames hfound))

/-! ## Updates -/

theorem find?_replaced (story : Story) (path other : Path) (text : String) :
    (story.replaced path text).find? other =
      if other = path.normalize then some (InkFile.read path.normalize text)
      else story.files.find? other :=
  PathMap.find?_insert _ _ _ _

theorem broughtIn_onDisk (disk : Disk) (story : Story) (path : Path) (text : String) :
    ∀ file ∈ broughtIn disk story path text, file.OnDisk disk :=
  Include.loadFrom_onDisk disk story.root _ _

theorem broughtIn_new {disk : Disk} {story : Story} {path : Path} {text : String} {file : InkFile}
    (h : file ∈ broughtIn disk story path text) :
    (story.replaced path text).find? file.path = none := by
  have hfresh := (Include.loadFrom_fresh disk story.root _ _).2 file h
  rw [PathMap.mem_keys_iff, PathMap.contains] at hfresh
  simpa using hfresh

/-- What is indexed once the document is replaced stays, whatever is brought in after that. -/
theorem find?_update_of_replaced {disk : Disk} {story : Story} {path other : Path} {text : String}
    {file : InkFile} (h : (story.replaced path text).find? other = some file) :
    (story.update disk path text).files.find? other = some file := by
  rcases update_cases disk story path text with ⟨old, -, -, heq⟩ | ⟨files, rfl, heq⟩
  · rw [heq]
    exact h
  · rw [heq]
    dsimp only
    rw [find?_addFiles, h, Option.some_or]

theorem update_root (disk : Disk) (story : Story) (path : Path) (text : String) :
    (story.update disk path text).root = story.root :=
  edit_root story (.update disk path text)

theorem update_closed {disk : Disk} {story : Story} (habs : story.root.absolute = true)
    (h : story.Closed disk) (path : Path) (text : String) :
    (story.update disk path text).Closed disk := by
  -- What was indexed before stays indexed, whatever its text.
  have hkeep {target : Path} (ht : story.files.contains target = true) :
      (story.replaced path text).contains target = true := by
    rw [PathMap.contains, find?_replaced]
    split
    · rfl
    · exact ht
  intro other file hfile target htarget hread
  rw [update_root] at htarget
  rcases update_cases disk story path text with ⟨old, hold, hincludes, heq⟩ | ⟨files, rfl, heq⟩
  · rw [heq] at hfile ⊢
    dsimp only at hfile ⊢
    rw [find?_replaced] at hfile
    split at hfile
    · -- The new text has the include lines of the old one, and that was closed.
      cases hfile
      rw [InkFile.targets, hincludes] at htarget
      exact hkeep (h _ old hold target htarget hread)
    · exact hkeep (h other file hfile target htarget hread)
  · rw [heq] at hfile ⊢
    dsimp only at hfile ⊢
    obtain ⟨found, hfound⟩ := Option.isSome_iff_exists.mp hread
    have hwalk (hstart : target ∈ (InkFile.read path.normalize text).targets story.root ∨
        ∃ source ∈ broughtIn disk story path text, target ∈ source.targets story.root) :
        (addFiles (story.replaced path text) (broughtIn disk story path text)).contains target =
          true := by
      rw [contains_addFiles_iff, ← PathMap.mem_keys_iff]
      exact Include.loadFrom_complete (Include.askable_targets habs _) hfound hstart
    rw [find?_addFiles] at hfile
    rcases Option.or_eq_some_iff.mp hfile with hfile | ⟨-, hfile⟩
    · rw [find?_replaced] at hfile
      split at hfile
      · cases hfile
        exact hwalk (Or.inl htarget)
      · exact contains_addFiles_iff.mpr
          (Or.inl (hkeep (h other file hfile target htarget hread)))
    · exact hwalk (Or.inr ⟨file, List.mem_of_find?_eq_some hfile, htarget⟩)

/-- Files that an update adds are the disk's, and a chain of include lines leads to them from the
    document. -/
theorem update_adds {disk : Disk} {story : Story} {path other : Path} {text : String}
    {file : InkFile} (hother : other ≠ path.normalize) (hbefore : story.files.find? other = none)
    (hafter : (story.update disk path text).files.find? other = some file) :
    file.path = other ∧ file.OnDisk disk ∧
      Relation.TransGen (story.update disk path text).IncludesFile path.normalize other := by
  have hnone : (story.replaced path text).find? other = none := by
    rw [find?_replaced, if_neg hother, hbefore]
  have hdocument : (story.update disk path text).files.find? path.normalize =
      some (InkFile.read path.normalize text) :=
    find?_update_of_replaced (by rw [find?_replaced, if_pos rfl])
  have hroot := update_root disk story path text
  rcases update_cases disk story path text with ⟨old, -, -, heq⟩ | ⟨files, rfl, heq⟩
  · rw [heq] at hafter
    dsimp only at hafter
    rw [hnone] at hafter
    cases hafter
  · have hstored : ∀ found ∈ broughtIn disk story path text,
        (story.update disk path text).files.find? found.path = some found := by
      intro found hfound
      rw [heq]
      exact find?_addFiles_new (broughtIn_onDisk disk story path text) hfound
        (broughtIn_new hfound)
    have hfile : file ∈ broughtIn disk story path text ∧ file.path = other := by
      rw [heq] at hafter
      dsimp only at hafter
      rw [find?_addFiles, hnone, Option.none_or] at hafter
      exact ⟨List.mem_of_find?_eq_some hafter, by simpa using List.find?_some hafter⟩
    obtain ⟨hmem, rfl⟩ := hfile
    refine ⟨rfl, broughtIn_onDisk disk story path text file hmem, ?_⟩
    -- Every file on the way is stored, so the chain runs inside the new index.
    refine Include.loadFrom_induction
      (P := Relation.TransGen (story.update disk path text).IncludesFile path.normalize)
      ?_ ?_ file hmem
    · intro target htarget
      exact .single ⟨_, hdocument, hroot ▸ htarget⟩
    · intro source hsource hreach target htarget
      exact hreach.tail ⟨source, hstored source hsource, hroot ▸ htarget⟩

/-- On one disk and under an absolute root, fresh and built indexes are closed, and an update of a
    closed index gives a closed one: it holds the document's new parse, every other file that was
    indexed as it was, and beyond these only files as the disk has them, to which include lines lead
    from the document. -/
theorem update_keeps_closed (disk : Disk) (root : Path) (habs : root.absolute = true) :
    (empty root).Closed disk ∧
    (∀ settings, (build disk settings root).Closed disk) ∧
    ∀ story : Story, story.root.absolute = true → story.Closed disk →
      ∀ (path : Path) (text : String),
        let after := story.update disk path text
        after.Closed disk ∧
        after.files.find? path.normalize = some (InkFile.read path.normalize text) ∧
        (∀ other file, other ≠ path.normalize → story.files.find? other = some file →
          after.files.find? other = some file) ∧
        ∀ other file, other ≠ path.normalize → story.files.find? other = none →
          after.files.find? other = some file →
          (∃ found, disk.text? other = some found ∧ file = InkFile.read other found) ∧
            Relation.TransGen after.IncludesFile path.normalize other := by
  refine ⟨empty_closed disk root, fun settings => build_closed disk settings habs, ?_⟩
  intro story hroot hclosed path text after
  refine ⟨update_closed hroot hclosed path text, ?_, ?_, ?_⟩
  · exact find?_update_of_replaced (by rw [find?_replaced, if_pos rfl])
  · intro other file hother hfile
    exact find?_update_of_replaced (by rw [find?_replaced, if_neg hother, hfile])
  · intro other file hother hbefore hafter
    obtain ⟨rfl, hdisk, hreach⟩ := update_adds hother hbefore hafter
    exact ⟨hdisk, hreach⟩

/-- Two files that include each other, the first with text that is not saved: its update brings in
    the second, and an update of the second does not read the first from disk. -/
theorem update_keeps_unsaved_text :
    let disk : Disk := .ofTexts [("/a.ink", "saved\n"), ("/b.ink", "INCLUDE a.ink\n")]
    let root : Path := ⟨true, []⟩
    let a : Path := .ofString "/a.ink"
    let b : Path := .ofString "/b.ink"
    let first := (empty root).update disk a "INCLUDE b.ink\nunsaved\n"
    let second := first.update disk b "INCLUDE a.ink\nedited\n"
    root.absolute = true ∧ first.Closed disk ∧ first.files.contains b = true ∧
      second.Closed disk ∧
      second.files.find? a = some (InkFile.read a "INCLUDE b.ink\nunsaved\n") := by
  intro disk root a b first second
  obtain ⟨hempty, -, hupdate⟩ := update_keeps_closed disk root rfl
  obtain ⟨hfirst, ha, -, -⟩ := hupdate (empty root) rfl hempty a "INCLUDE b.ink\nunsaved\n"
  obtain ⟨hsecond, -, hkeeps, -⟩ :=
    hupdate first (by rw [update_root]; rfl) hfirst b "INCLUDE a.ink\nedited\n"
  have hb : first.files.contains b = true := by
    refine hfirst a _ ha b ?_ ?_
    · rw [update_root]
      decide +kernel
    · decide +kernel
  exact ⟨rfl, hfirst, hb, hsecond, hkeeps a _ (by decide) ha⟩

end InkWorkspace.Story
