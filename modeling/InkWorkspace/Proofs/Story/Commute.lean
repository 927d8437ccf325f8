import InkWorkspace.Proofs.Story.Closure

/- Updates of two indexed documents, in either order. An update replaces its document and adds what it
   loads, which is nothing if the include lines have stayed the same (`find?_update`). What is loaded is
   closed under include lines, but for what was indexed (`loadedBy_closed`), and it is part of
   everything that is closed in this way and holds what the text includes (`loadedBy_least`).

   The second of two updates stops where the first one has been, so neither loads the same files in
   both orders. Taken together they do: what both load in one order is closed (`loadedByBoth_closed`),
   so it holds all that is loaded in the other order (`loadedByBoth_covered`). -/
namespace InkWorkspace.Story

/-- The document is new, or the text has other include lines than the ones it is indexed with. -/
def ChangesIncludes (story : Story) (path : Path) (text : String) : Prop :=
  ∀ old, story.files.find? path.normalize = some old →
    old.includes ≠ (InkFile.read path.normalize text).includes

instance (story : Story) (path : Path) (text : String) :
    Decidable (story.ChangesIncludes path text) :=
  inferInstanceAs (Decidable (∀ old ∈ story.files.find? path.normalize, _))

/-- The files that an update loads. -/
def loadedBy (disk : Disk) (story : Story) (path : Path) (text : String) : List InkFile :=
  if story.ChangesIncludes path text then broughtIn disk story path text else []

/-! ## One update -/

section Update

variable {disk : Disk} {story : Story} {path : Path} {text : String}

theorem update_files : (story.update disk path text).files =
    addFiles (story.replaced path text) (story.loadedBy disk path text) := by
  have hchanges : ((story.files.find? path.normalize).all fun old =>
      old.includes ≠ (InkFile.read path.normalize text).includes) = true ↔
      story.ChangesIncludes path text := by
    simp [ChangesIncludes, Option.all_eq_true]
  unfold update loadedBy
  dsimp only
  by_cases h : story.ChangesIncludes path text
  · rw [if_pos (hchanges.mpr h), if_pos h]
    rfl
  · rw [if_neg (mt hchanges.mp h), if_neg h]
    rfl

theorem find?_update (other : Path) : (story.update disk path text).files.find? other =
    if other = path.normalize then some (InkFile.read path.normalize text)
    else (story.files.find? other).or
      ((story.loadedBy disk path text).find? (·.path = other)) := by
  rw [update_files, find?_addFiles, find?_replaced]
  split
  · rw [Option.some_or]
  · rfl

theorem loadedBy_onDisk : ∀ file ∈ story.loadedBy disk path text, file.OnDisk disk := by
  intro file hfile
  unfold loadedBy at hfile
  split at hfile
  · exact broughtIn_onDisk disk story path text file hfile
  · cases hfile

section Indexed

variable (hindexed : story.files.contains path.normalize = true)
include hindexed

theorem contains_replaced_iff {other : Path} :
    (story.replaced path text).contains other = true ↔ story.files.contains other = true := by
  rw [PathMap.contains, find?_replaced]
  split
  · next heq => simp [heq, hindexed]
  · rfl

theorem contains_update_iff_loadedBy {other : Path} :
    (story.update disk path text).files.contains other = true ↔
      story.files.contains other = true ∨
        ∃ file ∈ story.loadedBy disk path text, file.path = other := by
  rw [update_files, contains_addFiles_iff, contains_replaced_iff hindexed]

theorem loadedBy_closed {target : Path} (hread : (disk.text? target).isSome = true)
    (htarget : story.ChangesIncludes path text ∧
        target ∈ (InkFile.read path.normalize text).targets story.root ∨
      ∃ source ∈ story.loadedBy disk path text, target ∈ source.targets story.root) :
    story.files.contains target = true ∨
      ∃ file ∈ story.loadedBy disk path text, file.path = target := by
  obtain ⟨found, hfound⟩ := Option.isSome_iff_exists.mp hread
  unfold loadedBy at htarget ⊢
  split at htarget
  · next hchanges =>
    rw [if_pos hchanges, ← contains_replaced_iff hindexed, ← PathMap.mem_keys_iff]
    exact Include.loadFrom_complete_of_normal (fun _ h => InkFile.targets_normal h) hfound
      (htarget.imp_left And.right)
  · next hkeeps =>
    rcases htarget with ⟨hchanges, -⟩ | ⟨source, hsource, -⟩
    · exact absurd hchanges hkeeps
    · cases hsource

/-- What holds the readable files that the changed include lines name, and with a file those that it
    includes, but for indexed ones, holds all that is loaded. -/
theorem loadedBy_least {S : Path → Prop}
    (hstart : story.ChangesIncludes path text →
      ∀ target ∈ (InkFile.read path.normalize text).targets story.root,
        (disk.text? target).isSome = true → story.files.contains target = true ∨ S target)
    (hclosed : ∀ file : InkFile, file.OnDisk disk → S file.path →
      ∀ target ∈ file.targets story.root, (disk.text? target).isSome = true →
        story.files.contains target = true ∨ S target) :
    ∀ file ∈ story.loadedBy disk path text, S file.path := by
  have hseen {target : Path} (h : story.files.contains target = true ∨ S target) :
      target ∈ (story.replaced path text).keys ∨ S target := by
    rwa [PathMap.mem_keys_iff, contains_replaced_iff hindexed]
  intro file hfile
  unfold loadedBy at hfile
  split at hfile
  · next hchanges =>
    exact Include.loadFrom_least (fun target htarget hread => hseen (hstart hchanges target htarget hread))
      (fun source hsource hheld target htarget hread =>
        hseen (hclosed source hsource hheld target htarget hread)) file hfile
  · cases hfile

end Indexed

end Update

/-! ## Two updates -/

/-- The files that two updates load, one after the other. -/
def loadedByBoth (disk : Disk) (story : Story) (p : Path) (t : String) (q : Path) (u : String) :
    List InkFile :=
  story.loadedBy disk p t ++ (story.update disk p t).loadedBy disk q u

section Both

variable {disk : Disk} {story : Story} {p q : Path} {t u : String}

theorem loadedByBoth_onDisk : ∀ file ∈ story.loadedByBoth disk p t q u, file.OnDisk disk := by
  intro file hfile
  rcases List.mem_append.mp hfile with hfile | hfile
  · exact loadedBy_onDisk file hfile
  · exact loadedBy_onDisk file hfile

theorem changesIncludes_update (hq : story.files.contains q.normalize = true)
    (hne : p.normalize ≠ q.normalize) :
    (story.update disk p t).ChangesIncludes q u ↔ story.ChangesIncludes q u := by
  obtain ⟨file, hfile⟩ := PathMap.contains_iff.mp hq
  have hsame : (story.update disk p t).files.find? q.normalize = story.files.find? q.normalize := by
    rw [find?_update, if_neg (Ne.symm hne), hfile, Option.some_or]
  unfold ChangesIncludes
  rw [hsame]

theorem find?_update_update (other : Path) :
    ((story.update disk p t).update disk q u).files.find? other =
      if other = q.normalize then some (InkFile.read q.normalize u)
      else if other = p.normalize then some (InkFile.read p.normalize t)
      else (story.files.find? other).or
        ((story.loadedByBoth disk p t q u).find? (·.path = other)) := by
  rw [find?_update, find?_update]
  split
  · rfl
  · split
    · rw [Option.some_or]
    · rw [Option.or_assoc, loadedByBoth, List.find?_append]

section Indexed

variable (hp : story.files.contains p.normalize = true)
  (hq : story.files.contains q.normalize = true)
include hp hq

theorem contains_update_indexed : (story.update disk p t).files.contains q.normalize = true :=
  (contains_update_iff_loadedBy hp).mpr (Or.inl hq)

variable (hne : p.normalize ≠ q.normalize)
include hne

theorem loadedByBoth_closed {target : Path} (hread : (disk.text? target).isSome = true)
    (htarget : story.ChangesIncludes p t ∧
        target ∈ (InkFile.read p.normalize t).targets story.root ∨
      story.ChangesIncludes q u ∧ target ∈ (InkFile.read q.normalize u).targets story.root ∨
      ∃ source ∈ story.loadedByBoth disk p t q u, target ∈ source.targets story.root) :
    story.files.contains target = true ∨
      ∃ file ∈ story.loadedByBoth disk p t q u, file.path = target := by
  have hroot : (story.update disk p t).root = story.root := update_root disk story p t
  -- What the first update loads is closed by itself.
  have hfirst (h : story.ChangesIncludes p t ∧
        target ∈ (InkFile.read p.normalize t).targets story.root ∨
      ∃ source ∈ story.loadedBy disk p t, target ∈ source.targets story.root) :
      story.files.contains target = true ∨
        ∃ file ∈ story.loadedByBoth disk p t q u, file.path = target := by
    refine (loadedBy_closed hp hread h).imp_right ?_
    rintro ⟨file, hfile, hpath⟩
    exact ⟨file, List.mem_append_left _ hfile, hpath⟩
  have hsecond (h : (story.update disk p t).ChangesIncludes q u ∧
        target ∈ (InkFile.read q.normalize u).targets (story.update disk p t).root ∨
      ∃ source ∈ (story.update disk p t).loadedBy disk q u,
        target ∈ source.targets (story.update disk p t).root) :
      story.files.contains target = true ∨
        ∃ file ∈ story.loadedByBoth disk p t q u, file.path = target := by
    rcases loadedBy_closed (contains_update_indexed hp hq) hread h with hafter | ⟨file, hfile, hpath⟩
    · refine ((contains_update_iff_loadedBy hp).mp hafter).imp_right ?_
      rintro ⟨file, hfile, hpath⟩
      exact ⟨file, List.mem_append_left _ hfile, hpath⟩
    · exact Or.inr ⟨file, List.mem_append_right _ hfile, hpath⟩
  rw [changesIncludes_update hq hne, hroot] at hsecond
  rcases htarget with hstart | hstart | ⟨source, hsource, hincludes⟩
  · exact hfirst (Or.inl hstart)
  · exact hsecond (Or.inl hstart)
  · rcases List.mem_append.mp hsource with hsource | hsource
    · exact hfirst (Or.inr ⟨source, hsource, hincludes⟩)
    · exact hsecond (Or.inr ⟨source, hsource, hincludes⟩)

/-- What holds the readable files that changed include lines of either text name, and with a file those
    that it includes, but for indexed ones, holds all that both updates load. -/
theorem loadedByBoth_least {S : Path → Prop}
    (hstart : ∀ target, story.ChangesIncludes p t ∧
        target ∈ (InkFile.read p.normalize t).targets story.root ∨
      story.ChangesIncludes q u ∧ target ∈ (InkFile.read q.normalize u).targets story.root →
      (disk.text? target).isSome = true → story.files.contains target = true ∨ S target)
    (hclosed : ∀ file : InkFile, file.OnDisk disk → S file.path →
      ∀ target ∈ file.targets story.root, (disk.text? target).isSome = true →
        story.files.contains target = true ∨ S target) :
    ∀ file ∈ story.loadedByBoth disk p t q u, S file.path := by
  have hroot : (story.update disk p t).root = story.root := update_root disk story p t
  -- The first update takes nothing away, so the second one stops at all that was indexed.
  have hkept {target : Path} (h : story.files.contains target = true ∨ S target) :
      (story.update disk p t).files.contains target = true ∨ S target :=
    h.imp_left fun hindexed => (contains_update_iff_loadedBy hp).mpr (Or.inl hindexed)
  intro file hfile
  rcases List.mem_append.mp hfile with hfile | hfile
  · exact loadedBy_least hp (fun hchanges target htarget => hstart target (Or.inl ⟨hchanges, htarget⟩))
      hclosed file hfile
  · refine loadedBy_least (contains_update_indexed hp hq) (fun hchanges target htarget hread => ?_)
      (fun source hsource hheld target htarget hread => ?_) file hfile
    · rw [changesIncludes_update hq hne] at hchanges
      rw [hroot] at htarget
      exact hkept (hstart target (Or.inr ⟨hchanges, htarget⟩) hread)
    · rw [hroot] at htarget
      exact hkept (hclosed source hsource hheld target htarget hread)

/-- What the updates load in one order, they load in the other. -/
theorem loadedByBoth_covered :
    ∀ file ∈ story.loadedByBoth disk p t q u, file ∈ story.loadedByBoth disk q u p t := by
  intro file hfile
  have hheld : ∃ found ∈ story.loadedByBoth disk q u p t, found.path = file.path := by
    refine loadedByBoth_least hp hq hne
      (S := fun path => ∃ found ∈ story.loadedByBoth disk q u p t, found.path = path) ?_ ?_ file hfile
    · intro target hstart hread
      refine loadedByBoth_closed hq hp (Ne.symm hne) hread ?_
      exact hstart.elim (fun h => Or.inr (Or.inl h)) Or.inl
    · rintro source hsource ⟨found, hfound, hpath⟩ target htarget hread
      rw [← (loadedByBoth_onDisk found hfound).eq hsource hpath] at htarget
      exact loadedByBoth_closed hq hp (Ne.symm hne) hread (Or.inr (Or.inr ⟨found, hfound, htarget⟩))
  obtain ⟨found, hfound, hpath⟩ := hheld
  rw [← (loadedByBoth_onDisk found hfound).eq (loadedByBoth_onDisk file hfile) hpath]
  exact hfound

/-- In both orders the index holds the same. -/
theorem find?_update_comm (other : Path) :
    ((story.update disk p t).update disk q u).files.find? other =
      ((story.update disk q u).update disk p t).files.find? other := by
  have hloaded : (story.loadedByBoth disk p t q u).find? (·.path = other) =
      (story.loadedByBoth disk q u p t).find? (·.path = other) := by
    apply Option.ext
    intro file
    rw [find?_path_iff loadedByBoth_onDisk, find?_path_iff loadedByBoth_onDisk]
    exact and_congr_left fun _ => ⟨loadedByBoth_covered hp hq hne file,
      loadedByBoth_covered hq hp (Ne.symm hne) file⟩
  rw [find?_update_update, find?_update_update, hloaded]
  by_cases hfirst : other = p.normalize
  · rw [if_pos hfirst, if_neg fun hsecond => hne (hfirst.symm.trans hsecond), if_pos hfirst]
  · rw [if_neg hfirst, if_neg hfirst]

end Indexed

end Both

/-- Updates of two different indexed documents commute, on one disk and whatever was done to the index
    before: in both orders it holds the same files, and the graph has the same nodes and edges. -/
theorem updates_commute (disk : Disk) (origin : Origin) (changes : List Edit) (p q : Path)
    (t u : String) (hp : p ∈ (origin.story.edits changes).files.keys)
    (hq : q ∈ (origin.story.edits changes).files.keys) (hne : p ≠ q) :
    let story := origin.story.edits changes
    let first := (story.update disk p t).update disk q u
    let second := (story.update disk q u).update disk p t
    (∀ path, first.files.find? path = second.files.find? path) ∧ first.graph.Same second.graph := by
  intro story first second
  have h : story.WellFormed := edits_wellFormed (origin_wellFormed origin) changes
  have hnormal {path : Path} (hpath : path ∈ story.files.keys) :
      path.normalize = path ∧ story.files.contains path.normalize = true := by
    have hcontains := PathMap.mem_keys_iff.mp hpath
    obtain ⟨file, hfile⟩ := PathMap.contains_iff.mp hcontains
    obtain ⟨rfl, hparsed⟩ := h.files.sound hfile
    rw [hparsed.1]
    exact ⟨rfl, hcontains⟩
  obtain ⟨hpn, hpc⟩ := hnormal hp
  obtain ⟨hqn, hqc⟩ := hnormal hq
  -- The graph is made from the files alone, so the files decide.
  have hfiles : ∀ path, first.files.find? path = second.files.find? path :=
    find?_update_comm hpc hqc (by rwa [hpn, hqn])
  refine ⟨hfiles, ?_⟩
  have hfirst : first.WellFormed := update_wellFormed (update_wellFormed h disk p t) disk q u
  have hsecond : second.WellFormed := update_wellFormed (update_wellFormed h disk q u) disk p t
  have hroot : first.root = second.root := by
    simp only [first, second, update_root]
  have hperm := hfirst.files.ordered.entries_perm hsecond.files.ordered hfiles
  rw [hfirst.graph, hsecond.graph, hroot]
  exact IncludeGraph.same_of_perm (hperm.map Prod.snd) second.root

namespace CrossedIncludes

/-- Two files that include each other. -/
def disk : Disk :=
  .ofTexts [("/c.ink", "INCLUDE d.ink\n"), ("/d.ink", "INCLUDE c.ink\n")]

def a : Path := .ofString "/a.ink"

def b : Path := .ofString "/b.ink"

/-- Two documents without include lines. -/
def opened : List Edit := [.update .empty a "", .update .empty b ""]

/-- The document that is updated first loads both files, whichever of the two it includes. -/
theorem updates_of_a_and_b_commute :
    let story := (Origin.empty ⟨true, []⟩).story.edits opened
    let first := (story.update disk a "INCLUDE c.ink\n").update disk b "INCLUDE d.ink\n"
    let second := (story.update disk b "INCLUDE d.ink\n").update disk a "INCLUDE c.ink\n"
    a ∈ story.files.keys ∧ b ∈ story.files.keys ∧ a ≠ b ∧
      (∀ path, first.files.find? path = second.files.find? path) ∧ first.graph.Same second.graph := by
  intro story first second
  have hstory : story = ((empty ⟨true, []⟩).update .empty a "").update .empty b "" := rfl
  have ha : a ∈ story.files.keys := by
    rw [PathMap.mem_keys_iff, hstory, PathMap.contains, find?_update, find?_update,
      if_neg (by decide), if_pos (by decide)]
    rfl
  have hb : b ∈ story.files.keys := by
    rw [PathMap.mem_keys_iff, hstory, PathMap.contains, find?_update, if_pos (by decide)]
    rfl
  have hne : a ≠ b := by decide
  exact ⟨ha, hb, hne, updates_commute disk (.empty ⟨true, []⟩) opened a b _ _ ha hb hne⟩

end CrossedIncludes

end InkWorkspace.Story
