import InkWorkspace.Story.Basic
import InkWorkspace.Proofs.PathMap
import InkWorkspace.Proofs.Include.Load
import InkWorkspace.Proofs.Include.Graph

/- What every index satisfies, however it was made. `WellFormed` couples three facts: files are stored
   under their own, normal paths; each is the parse of its text; and the include graph is the one of
   the files at hand. Scanning, loading, replacing and dropping files keep them, also where an update
   leaves the graph alone because the include lines have not changed: a replaced file keeps its place,
   and the graph sees no more of it than its path and its include lines.

   `edits_wellFormed` carries the invariant through any run of changes, on a disk that may be another
   one at every step. -/
namespace InkWorkspace

/-- A file as it is stored: under a normal path, and the parse of its text. -/
def InkFile.Parsed (file : InkFile) : Prop :=
  file.path.normalize = file.path ∧ file = InkFile.read file.path file.text

theorem InkFile.parsed_read {path : Path} (h : path.normalize = path) (text : String) :
    (InkFile.read path text).Parsed :=
  ⟨h, rfl⟩

theorem Include.loadFrom_all_parsed {disk : Disk} {root : Path} {pending seen : List Path}
    (h : ∀ path ∈ pending, path.normalize = path) :
    ∀ file ∈ (loadFrom disk root pending seen).1, file.Parsed := by
  intro file hfile
  have hnormal : file.path.normalize = file.path :=
    loadFrom_induction (P := fun path => path.normalize = path) h
      (fun _ _ _ _ htarget => InkFile.targets_normal htarget) file hfile
  obtain ⟨text, -, heq⟩ := loadFrom_onDisk disk root pending seen file hfile
  rw [heq]
  exact InkFile.parsed_read hnormal text

namespace Story

/-! ## Files -/

/-- Files stored under their own paths, each path once, all parsed. -/
structure Stored (files : PathMap InkFile) : Prop where
  ordered : files.Ordered
  sound : ∀ {path file}, files.find? path = some file → file.path = path ∧ file.Parsed

theorem Stored.empty : Stored .empty where
  ordered := .empty
  sound := nofun

theorem Stored.insert {files : PathMap InkFile} (h : Stored files) {file : InkFile}
    (hfile : file.Parsed) : Stored (files.insert file.path file) where
  ordered := h.ordered.insert _ _
  sound := by
    intro path found hfound
    rw [PathMap.find?_insert] at hfound
    split at hfound
    · next heq => cases hfound; exact ⟨heq.symm, hfile⟩
    · exact h.sound hfound

theorem Stored.insertNew {files : PathMap InkFile} (h : Stored files) {file : InkFile}
    (hfile : file.Parsed) : Stored (files.insertNew file.path file) := by
  unfold PathMap.insertNew
  split
  · exact h
  · exact h.insert hfile

theorem Stored.erase {files : PathMap InkFile} (h : Stored files) (path : Path) :
    Stored (files.erase path) where
  ordered := h.ordered.erase path
  sound := by
    intro p found hfound
    rw [PathMap.find?_erase] at hfound
    split at hfound
    · cases hfound
    · exact h.sound hfound

theorem Stored.addFiles {files : PathMap InkFile} (h : Stored files) {more : List InkFile}
    (hmore : ∀ file ∈ more, file.Parsed) : Stored (addFiles files more) := by
  induction more generalizing files with
  | nil => exact h
  | cons file more ih =>
    exact ih (h.insertNew (hmore file List.mem_cons_self))
      (fun f hf => hmore f (List.mem_cons_of_mem file hf))

theorem Stored.mem_values_iff {files : PathMap InkFile} (h : Stored files) {file : InkFile} :
    file ∈ files.values ↔ files.find? file.path = some file := by
  constructor
  · intro hfile
    obtain ⟨⟨path, found⟩, hentry, rfl⟩ := List.mem_map.mp hfile
    have hfind := h.ordered.find?_of_mem hentry
    rw [(h.sound hfind).1, hfind]
  · intro hfind
    exact List.mem_map_of_mem (PathMap.mem_entries_of_find? hfind)

theorem Stored.paths_nodup {files : PathMap InkFile} (h : Stored files) :
    (files.values.map (·.path)).Nodup := by
  have : files.values.map (·.path) = files.keys := by
    simp only [PathMap.values, PathMap.keys, List.map_map]
    apply List.map_congr_left
    intro entry hentry
    exact (h.sound (h.ordered.find?_of_mem hentry)).1
  rw [this]
  exact h.ordered.keys_nodup

theorem inkPaths_normal {disk : Disk} {folder path : Path}
    (h : path ∈ Include.inkPaths disk folder) : path.normalize = path := by
  unfold Include.inkPaths at h
  split at h
  · cases h
  · obtain ⟨hpath, -⟩ := List.mem_filter.mp h
    obtain ⟨rest, -, rfl⟩ := List.mem_map.mp hpath
    exact Path.normalize_resolve folder _

theorem Stored.scan (disk : Disk) (root : Path) : Stored (scan disk root) := by
  refine Stored.empty.addFiles ?_
  intro file hfile
  obtain ⟨path, hpath, hread⟩ := List.mem_filterMap.mp hfile
  obtain ⟨text, -, rfl⟩ := Option.map_eq_some_iff.mp hread
  exact InkFile.parsed_read (inkPaths_normal hpath) text

/-! ## What an update does -/

/-- The files right after a document has been replaced, before anything it includes is loaded. -/
def replaced (story : Story) (path : Path) (text : String) : PathMap InkFile :=
  story.files.insert path.normalize (InkFile.read path.normalize text)

/-- The files that a replaced document brings in from disk. -/
def broughtIn (disk : Disk) (story : Story) (path : Path) (text : String) : List InkFile :=
  (Include.loadFrom disk story.root ((InkFile.read path.normalize text).targets story.root)
    (story.replaced path text).keys).1

/-- Either the document is indexed with the same include lines, and only its entry changes; or what
    it includes is loaded and the graph is built anew. -/
theorem update_cases (disk : Disk) (story : Story) (path : Path) (text : String) :
    (∃ old, story.files.find? path.normalize = some old ∧
      (InkFile.read path.normalize text).includes = old.includes ∧
      story.update disk path text = { story with files := story.replaced path text }) ∨
    ∃ files, files = addFiles (story.replaced path text) (broughtIn disk story path text) ∧
      story.update disk path text = ⟨story.root, files, .build files.values story.root⟩ := by
  unfold update
  dsimp only
  split
  · exact Or.inr ⟨_, rfl, rfl⟩
  · next hsame =>
    cases hold : story.files.find? path.normalize with
    | none => simp [hold] at hsame
    | some old =>
      simp only [hold, Option.all_some, decide_eq_true_eq, ne_eq, Decidable.not_not] at hsame
      exact Or.inl ⟨old, rfl, hsame.symm, rfl⟩

/-! ## The invariant -/

/-- The files are stored and the include graph is theirs. -/
structure WellFormed (story : Story) : Prop where
  files : Stored story.files
  graph : story.graph = .build story.files.values story.root

theorem empty_wellFormed (root : Path) : (empty root).WellFormed where
  files := .empty
  graph := rfl

theorem complete_wellFormed (disk : Disk) (settings : Settings) (root : Path)
    {scanned : PathMap InkFile} (hscanned : Stored scanned) (order : List InkFile) :
    (complete disk settings root scanned order).WellFormed where
  files := by
    refine hscanned.addFiles ?_
    intro file hfile
    rcases List.mem_append.mp hfile with hfile | hfile
    · unfold mainFiles at hfile
      split at hfile
      · split at hfile
        · cases hfile
        · refine Include.loadFrom_all_parsed ?_ file hfile
          intro path hpath
          rw [List.mem_singleton.mp hpath]
          exact Path.normalize_resolve root _
      · cases hfile
    · refine Include.loadFrom_all_parsed ?_ file hfile
      intro path hpath
      obtain ⟨source, -, htarget⟩ := List.mem_flatMap.mp hpath
      exact InkFile.targets_normal htarget
  graph := rfl

theorem build_wellFormed (disk : Disk) (settings : Settings) (root : Path) :
    (build disk settings root).WellFormed :=
  complete_wellFormed disk settings root.normalize (Stored.scan disk root.normalize) _

theorem update_wellFormed {story : Story} (h : story.WellFormed) (disk : Disk) (path : Path)
    (text : String) : (story.update disk path text).WellFormed := by
  have hreplaced : Stored (story.replaced path text) :=
    h.files.insert (InkFile.parsed_read (Path.normalize_normalize path) text)
  rcases update_cases disk story path text with ⟨old, hold, hincludes, heq⟩ | ⟨files, rfl, heq⟩
  · -- The graph sees the same path and the same include lines.
    have hview : IncludeGraph.view (InkFile.read path.normalize text) = IncludeGraph.view old := by
      simp only [IncludeGraph.view, hincludes, (h.files.sound hold).1, InkFile.read_path]
    rw [heq]
    refine ⟨hreplaced, ?_⟩
    dsimp only
    rw [h.graph]
    exact IncludeGraph.build_congr (h.files.ordered.map_insert hold hview).symm story.root
  · rw [heq]
    refine ⟨hreplaced.addFiles ?_, rfl⟩
    exact Include.loadFrom_all_parsed fun _ htarget => InkFile.targets_normal htarget

theorem remove_wellFormed {story : Story} (h : story.WellFormed) (path : Path) :
    (story.remove path).2.WellFormed := by
  unfold remove
  dsimp only
  split
  · exact h
  · exact ⟨h.files.erase _, rfl⟩

/-! ## Runs -/

/-- How an index begins. -/
inductive Origin where
  | empty (root : Path)
  | project (disk : Disk) (settings : Settings) (root : Path)

/-- The root that an index is begun with. -/
def Origin.root : Origin → Path
  | empty root => root
  | project _ _ root => root

def Origin.story : Origin → Story
  | empty root => .empty root
  | project disk settings root => .build disk settings root

/-- A change of an index. An update sees the disk of its moment. -/
inductive Edit where
  | update (disk : Disk) (path : Path) (text : String)
  | remove (path : Path)

/-- The index after a change. -/
def edit (story : Story) : Edit → Story
  | .update disk path text => story.update disk path text
  | .remove path => (story.remove path).2

/-- The index after a run of changes. -/
def edits (story : Story) (changes : List Edit) : Story :=
  changes.foldl edit story

theorem edit_wellFormed {story : Story} (h : story.WellFormed) (change : Edit) :
    (story.edit change).WellFormed := by
  cases change with
  | update disk path text => exact update_wellFormed h disk path text
  | remove path => exact remove_wellFormed h path

theorem edits_wellFormed {story : Story} (h : story.WellFormed) (changes : List Edit) :
    (story.edits changes).WellFormed := by
  induction changes generalizing story with
  | nil => exact h
  | cons change changes ih => exact ih (edit_wellFormed h change)

theorem origin_wellFormed (origin : Origin) : origin.story.WellFormed := by
  cases origin with
  | empty root => exact empty_wellFormed root
  | project disk settings root => exact build_wellFormed disk settings root

theorem edit_root (story : Story) (change : Edit) : (story.edit change).root = story.root := by
  cases change with
  | update disk path text =>
    simp only [edit, update]
    split <;> rfl
  | remove path =>
    simp only [edit, remove]
    split <;> rfl

theorem edits_root (story : Story) (changes : List Edit) :
    (story.edits changes).root = story.root := by
  induction changes generalizing story with
  | nil => rfl
  | cons change changes ih => exact (ih (story.edit change)).trans (edit_root story change)

/-- An update with a text that includes nothing changes nothing but the entry of the document. -/
theorem WellFormed.update_of_targets_nil {story : Story} (h : story.WellFormed) (disk : Disk)
    (path : Path) (text : String) (hpath : path.normalize = path)
    (htargets : (InkFile.read path text).targets story.root = []) :
    let files := story.files.insert path (.read path text)
    story.update disk path text = ⟨story.root, files, .build files.values story.root⟩ := by
  intro files
  have hfiles : (story.update disk path text).files = files := by
    rcases update_cases disk story path text with ⟨old, -, -, heq⟩ | ⟨_, rfl, heq⟩
    · rw [heq, replaced, hpath]
    · rw [heq, broughtIn, replaced, hpath, htargets, Include.loadFrom]
      rfl
  have hroot : (story.update disk path text).root = story.root :=
    edit_root story (.update disk path text)
  have hgraph := (update_wellFormed h disk path text).graph
  rw [hfiles, hroot] at hgraph
  rw [← hgraph, ← hfiles, ← hroot]

theorem WellFormed.includesOf_eq {story : Story} (h : story.WellFormed) {path : Path}
    {file : InkFile} (hfile : story.files.find? path = some file) :
    story.graph.includesOf path = file.targets story.root := by
  obtain ⟨hpath, hparsed⟩ := h.files.sound hfile
  have hmem : file ∈ story.files.values := h.files.mem_values_iff.mpr (hpath ▸ hfile)
  have hrising : file.includes.Pairwise fun a b => a.line < b.line := by
    rw [hparsed.2]
    exact Contents.includes_rising 0 _
  rw [h.graph, ← hpath]
  exact IncludeGraph.includesOf_build h.files.paths_nodup hmem hrising story.root

/-- After any run of changes, on any disks, an index holds every path once; each entry stands under
    its file's own, normal path and is the parse of its text; and the graph is the one of the files
    at hand, whatever order they are taken up in, so that it gives the include lines of each file. -/
theorem edits_represents_files (origin : Origin) (changes : List Edit) :
    let story := origin.story.edits changes
    story.root = origin.root.normalize ∧
    story.files.keys.Nodup ∧
    (∀ entry ∈ story.files.entries,
      entry.1.normalize = entry.1 ∧ entry.2.path = entry.1 ∧
      entry.2 = InkFile.read entry.2.path entry.2.text ∧
      story.graph.includesOf entry.1 = entry.2.targets story.root) ∧
    ∀ order : List InkFile, order.Perm story.files.values →
      story.graph.Same (.build order story.root) := by
  intro story
  have h : story.WellFormed := edits_wellFormed (origin_wellFormed origin) changes
  refine ⟨?_, h.files.ordered.keys_nodup, ?_, ?_⟩
  · rw [edits_root origin.story changes]
    cases origin <;> rfl
  · rintro ⟨path, file⟩ hentry
    have hfind := h.files.ordered.find?_of_mem hentry
    obtain ⟨rfl, hparsed⟩ := h.files.sound hfind
    exact ⟨hparsed.1, rfl, hparsed.2, h.includesOf_eq hfind⟩
  · intro order horder
    rw [h.graph]
    exact IncludeGraph.same_of_perm horder.symm story.root

end Story

end InkWorkspace
