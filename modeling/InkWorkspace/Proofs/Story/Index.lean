import InkWorkspace.Proofs.Story.Invariant

/- What the index of a project holds. `Indexed` is the specification: the ink files below the root, the
   main file, and whatever an indexed file includes, as far as they can be read. `Story.build` works in
   three passes that do not share what they have seen: a scan of the folder, a walk from the main file
   that starts with nothing seen, and a walk from the include lines of the scanned files that passes
   over everything scanned. Each pass is closed under includes up to what was scanned, so together they
   hold exactly the indexed files (`find?_complete_iff`), in whatever order the scanned files are
   taken up. -/
namespace InkWorkspace.Story

/-- The files of a project: the least set of readable files that holds the ink files below the root
    and the main file and, with a file, what the include lines of its text name. -/
inductive Indexed (disk : Disk) (settings : Settings) (root : Path) : Path → Prop where
  | scanned {path : Path} {text : String} :
    path ∈ Include.inkPaths disk root → disk.text? path = some text → Indexed disk settings root path
  | main {path : Path} {text : String} :
    settings.mainPath? root = some path → disk.text? path = some text →
      Indexed disk settings root path
  | included {path target : Path} {text found : String} :
    Indexed disk settings root path → disk.text? path = some text →
      Include.Names root text target → disk.text? target = some found →
      Indexed disk settings root target

/-! ## Adding files -/

theorem find?_addFiles (files : PathMap InkFile) (more : List InkFile) (path : Path) :
    (addFiles files more).find? path = (files.find? path).or (more.find? (·.path = path)) := by
  induction more generalizing files with
  | nil => simp [addFiles]
  | cons file more ih =>
    have hcons : addFiles files (file :: more) = addFiles (files.insertNew file.path file) more :=
      rfl
    rw [hcons, ih, PathMap.find?_insertNew, Option.or_assoc, List.find?_cons]
    by_cases h : path = file.path
    · simp [h]
    · simp [h, Ne.symm h]

theorem contains_addFiles_iff {files : PathMap InkFile} {more : List InkFile} {path : Path} :
    (addFiles files more).contains path = true ↔
      files.contains path = true ∨ ∃ file ∈ more, file.path = path := by
  simp [PathMap.contains, find?_addFiles]

theorem find?_addFiles_new {disk : Disk} {files : PathMap InkFile} {more : List InkFile}
    (hmore : ∀ file ∈ more, file.OnDisk disk) {file : InkFile} (hfile : file ∈ more)
    (hfree : files.find? file.path = none) :
    (addFiles files more).find? file.path = some file := by
  obtain ⟨first, hfirst⟩ : ∃ first, more.find? (·.path = file.path) = some first := by
    rw [← Option.isSome_iff_exists, List.find?_isSome]
    exact ⟨file, hfile, by simp⟩
  have hpath : first.path = file.path := by simpa using List.find?_some hfirst
  have heq := (hmore first (List.mem_of_find?_eq_some hfirst)).eq (hmore file hfile) hpath
  rw [find?_addFiles, hfree, Option.none_or, hfirst, heq]

/-- If all files are the disk's, adding them to a map loses none and favours none. -/
theorem find?_addFiles_onDisk {disk : Disk} {files : PathMap InkFile} {more : List InkFile}
    (hfiles : ∀ {path file}, files.find? path = some file → file.path = path ∧ file.OnDisk disk)
    (hmore : ∀ file ∈ more, file.OnDisk disk) {path : Path} {file : InkFile} :
    (addFiles files more).find? path = some file ↔
      files.find? path = some file ∨ file ∈ more ∧ file.path = path := by
  constructor
  · intro h
    rw [find?_addFiles] at h
    rcases Option.or_eq_some_iff.mp h with h | ⟨-, h⟩
    · exact Or.inl h
    · exact Or.inr ⟨List.mem_of_find?_eq_some h, by simpa using List.find?_some h⟩
  · rintro (h | ⟨hmem, rfl⟩)
    · rw [find?_addFiles, h, Option.some_or]
    · cases hold : files.find? file.path with
      | some old =>
        obtain ⟨hpath, hdisk⟩ := hfiles hold
        rw [find?_addFiles, hold, Option.some_or, hdisk.eq (hmore file hmem) hpath]
      | none => exact find?_addFiles_new hmore hmem hold

theorem find?_path_iff {disk : Disk} {files : List InkFile} (h : ∀ file ∈ files, file.OnDisk disk)
    {path : Path} {file : InkFile} :
    files.find? (·.path = path) = some file ↔ file ∈ files ∧ file.path = path := by
  have hempty {path : Path} {file : InkFile} (h : PathMap.empty.find? path = some file) :
      file.path = path ∧ file.OnDisk disk := by
    rw [PathMap.find?_empty] at h
    cases h
  have hadded : (addFiles .empty files).find? path = some file ↔
      PathMap.empty.find? path = some file ∨ file ∈ files ∧ file.path = path :=
    find?_addFiles_onDisk hempty h
  rw [find?_addFiles, PathMap.find?_empty, Option.none_or] at hadded
  rw [hadded]
  simp

/-! ## The passes -/

theorem find?_scan_iff {disk : Disk} {root path : Path} {file : InkFile} :
    (scan disk root).find? path = some file ↔
      path ∈ Include.inkPaths disk root ∧ file.path = path ∧ file.OnDisk disk := by
  have hread : ∀ file ∈ (Include.inkPaths disk root).filterMap (fun path =>
      (disk.text? path).map (InkFile.read path)),
      file.path ∈ Include.inkPaths disk root ∧ file.OnDisk disk := by
    intro file hfile
    obtain ⟨p, hp, hread⟩ := List.mem_filterMap.mp hfile
    obtain ⟨text, htext, rfl⟩ := Option.map_eq_some_iff.mp hread
    exact ⟨hp, InkFile.onDisk_read htext⟩
  unfold scan
  rw [find?_addFiles, PathMap.find?_empty, Option.none_or, find?_path_iff fun f hf => (hread f hf).2]
  constructor
  · rintro ⟨hmem, rfl⟩
    exact ⟨(hread file hmem).1, rfl, (hread file hmem).2⟩
  · rintro ⟨hpath, rfl, text, htext, heq⟩
    refine ⟨List.mem_filterMap.mpr ⟨file.path, hpath, ?_⟩, rfl⟩
    rw [htext, Option.map_some, ← heq]

theorem mainPath_askable {settings : Settings} {root path : Path} (habs : root.absolute = true)
    (h : settings.mainPath? root = some path) : Include.Askable path := by
  obtain ⟨main, -, rfl⟩ := Option.map_eq_some_iff.mp h
  exact ⟨Path.resolve_absolute habs _, Path.normalize_resolve root _⟩

theorem mainFiles_eq_loadFrom (disk : Disk) (settings : Settings) {root : Path}
    (habs : root.absolute = true) (scanned : PathMap InkFile) :
    ∃ pending, mainFiles disk settings root scanned = (Include.loadFrom disk root pending []).1 ∧
      (∀ path ∈ pending, settings.mainPath? root = some path) ∧
      ∀ path, settings.mainPath? root = some path →
        scanned.contains path = true ∨ path ∈ pending := by
  unfold mainFiles
  cases hmain : settings.mainPath? root with
  | none => exact ⟨[], by simp [Include.loadFrom], nofun, nofun⟩
  | some main =>
    dsimp only
    split
    · next h =>
      refine ⟨[], by simp [Include.loadFrom], nofun, ?_⟩
      rintro path ⟨⟩
      exact Or.inl h
    · obtain ⟨hma, hmn⟩ := mainPath_askable habs hmain
      refine ⟨[main], ?_, ?_, ?_⟩
      · rw [Include.load, Path.resolve_eq_self root hma hmn]
      · intro path hpath
        rw [List.mem_singleton.mp hpath]
      · rintro path ⟨⟩
        exact Or.inr List.mem_cons_self

/-- A walk that starts at indexed files returns indexed files. -/
theorem loadFrom_indexed {disk : Disk} {settings : Settings} {root : Path}
    {pending seen : List Path}
    (h : ∀ path ∈ pending, ∀ text, disk.text? path = some text → Indexed disk settings root path) :
    ∀ file ∈ (Include.loadFrom disk root pending seen).1, Indexed disk settings root file.path := by
  intro file hfile
  have hrun : ∀ text, disk.text? file.path = some text →
      Indexed disk settings root file.path := by
    refine Include.loadFrom_induction
      (P := fun path => ∀ text, disk.text? path = some text → Indexed disk settings root path)
      h ?_ file hfile
    intro source hsource hindexed target htarget found hfound
    obtain ⟨text, htext, heq⟩ := Include.loadFrom_onDisk disk root pending seen source hsource
    rw [heq] at htarget
    exact .included (hindexed text htext) htext (InkFile.mem_targets_read.mp htarget) hfound
  obtain ⟨text, htext, -⟩ := Include.loadFrom_onDisk disk root pending seen file hfile
  exact hrun text htext

/-! ## The whole index -/

/-- What is loaded after the scan. -/
def loaded (disk : Disk) (settings : Settings) (root : Path) (order : List InkFile) :
    List InkFile :=
  mainFiles disk settings root (scan disk root) ++
    (Include.loadFrom disk root (order.flatMap (·.targets root)) (scan disk root).keys).1

section Complete

variable {disk : Disk} {settings : Settings} {root : Path} {order : List InkFile}

theorem mem_order_iff (horder : order.Perm (scan disk root).values) {file : InkFile} :
    file ∈ order ↔ (scan disk root).find? file.path = some file :=
  horder.mem_iff.trans (Stored.scan disk root).mem_values_iff

theorem loaded_sound (habs : root.absolute = true) (horder : order.Perm (scan disk root).values)
    {file : InkFile} (hfile : file ∈ loaded disk settings root order) :
    file.OnDisk disk ∧ Indexed disk settings root file.path := by
  rcases List.mem_append.mp hfile with hfile | hfile
  · obtain ⟨pending, hmain, hpending, -⟩ :=
      mainFiles_eq_loadFrom disk settings habs (scan disk root)
    rw [hmain] at hfile
    refine ⟨Include.loadFrom_onDisk disk root pending [] file hfile, loadFrom_indexed ?_ file hfile⟩
    intro path hpath text htext
    exact .main (hpending path hpath) htext
  · refine ⟨Include.loadFrom_onDisk disk root _ _ file hfile, loadFrom_indexed ?_ file hfile⟩
    intro target htarget found hfound
    obtain ⟨source, hsource, htarget⟩ := List.mem_flatMap.mp htarget
    obtain ⟨hpath, -, text, htext, heq⟩ := find?_scan_iff.mp ((mem_order_iff horder).mp hsource)
    rw [heq] at htarget
    exact .included (.scanned hpath htext) htext (InkFile.mem_targets_read.mp htarget) hfound

/-- Everything that a scanned or loaded file includes is scanned or loaded, if it can be read. -/
theorem loaded_closed (habs : root.absolute = true) (horder : order.Perm (scan disk root).values)
    {source : InkFile} (hsource : (scan disk root).find? source.path = some source ∨
      source ∈ loaded disk settings root order) {target : Path}
    (htarget : target ∈ source.targets root) {found : String}
    (hfound : disk.text? target = some found) :
    (scan disk root).contains target = true ∨
      ∃ file ∈ loaded disk settings root order, file.path = target := by
  have hpending : ∀ path ∈ order.flatMap (·.targets root), Include.Askable path := by
    intro path hpath
    obtain ⟨file, -, hpath⟩ := List.mem_flatMap.mp hpath
    exact Include.askable_targets habs file path hpath
  -- The second walk settles what the scanned files include and what it returns itself.
  have hwalk (h : target ∈ order.flatMap (·.targets root) ∨ ∃ file ∈ (Include.loadFrom disk root
      (order.flatMap (·.targets root)) (scan disk root).keys).1, target ∈ file.targets root) :
      (scan disk root).contains target = true ∨
        ∃ file ∈ loaded disk settings root order, file.path = target := by
    rcases Include.loadFrom_complete hpending hfound h with h | ⟨file, hfile, hpath⟩
    · exact Or.inl (PathMap.mem_keys_iff.mp h)
    · exact Or.inr ⟨file, List.mem_append_right _ hfile, hpath⟩
  rcases hsource with hscan | hloaded
  · exact hwalk (Or.inl (List.mem_flatMap.mpr ⟨source, (mem_order_iff horder).mpr hscan, htarget⟩))
  · rcases List.mem_append.mp hloaded with hmem | hmem
    · obtain ⟨pending, hmain, hpend, -⟩ :=
        mainFiles_eq_loadFrom disk settings habs (scan disk root)
      rw [hmain] at hmem
      rcases Include.loadFrom_complete (fun p hp => mainPath_askable habs (hpend p hp)) hfound
        (Or.inr ⟨source, hmem, htarget⟩) with h | ⟨file, hfile, hpath⟩
      · cases h
      · exact Or.inr ⟨file, List.mem_append_left _ (hmain ▸ hfile), hpath⟩
    · exact hwalk (Or.inr ⟨source, hmem, htarget⟩)

theorem main_loaded (habs : root.absolute = true) {path : Path}
    (hpath : settings.mainPath? root = some path) {text : String}
    (htext : disk.text? path = some text) :
    (scan disk root).contains path = true ∨
      ∃ file ∈ loaded disk settings root order, file.path = path := by
  obtain ⟨pending, hmain, hpend, hstart⟩ :=
    mainFiles_eq_loadFrom disk settings habs (scan disk root)
  rcases hstart path hpath with h | h
  · exact Or.inl h
  · have hwalk : path ∈ [] ∨ ∃ file ∈ (Include.loadFrom disk root pending []).1,
        file.path = path :=
      Include.loadFrom_complete (fun p hp => mainPath_askable habs (hpend p hp)) htext
        (Or.inl h)
    rcases hwalk with h | ⟨file, hfile, hfp⟩
    · cases h
    · exact Or.inr ⟨file, List.mem_append_left _ (hmain ▸ hfile), hfp⟩

theorem find?_complete_iff_loaded (habs : root.absolute = true)
    (horder : order.Perm (scan disk root).values) {path : Path} {file : InkFile} :
    (complete disk settings root (scan disk root) order).files.find? path = some file ↔
      (scan disk root).find? path = some file ∨
        file ∈ loaded disk settings root order ∧ file.path = path :=
  find?_addFiles_onDisk (fun h => (find?_scan_iff.mp h).2)
    fun _ hfile => (loaded_sound habs horder hfile).1

theorem complete_sound (habs : root.absolute = true)
    (horder : order.Perm (scan disk root).values) {path : Path} {file : InkFile}
    (h : (complete disk settings root (scan disk root) order).files.find? path = some file) :
    Indexed disk settings root path ∧ file.path = path ∧ file.OnDisk disk := by
  rcases (find?_complete_iff_loaded habs horder).mp h with h | ⟨hfile, rfl⟩
  · obtain ⟨hpath, rfl, text, htext, heq⟩ := find?_scan_iff.mp h
    exact ⟨.scanned hpath htext, rfl, text, htext, heq⟩
  · obtain ⟨hdisk, hindexed⟩ := loaded_sound habs horder hfile
    exact ⟨hindexed, rfl, hdisk⟩

theorem complete_has (habs : root.absolute = true) (horder : order.Perm (scan disk root).values)
    {path : Path} (h : (scan disk root).contains path = true ∨
      ∃ file ∈ loaded disk settings root order, file.path = path) :
    ∃ file,
      (complete disk settings root (scan disk root) order).files.find? path = some file := by
  rcases h with h | ⟨file, hfile, hpath⟩
  · obtain ⟨file, hfile⟩ := PathMap.contains_iff.mp h
    exact ⟨file, (find?_complete_iff_loaded habs horder).mpr (Or.inl hfile)⟩
  · exact ⟨file, (find?_complete_iff_loaded habs horder).mpr (Or.inr ⟨hfile, hpath⟩)⟩

/-- No indexed file is missed: the induction follows the derivation that a file is indexed. -/
theorem complete_covers (habs : root.absolute = true)
    (horder : order.Perm (scan disk root).values) {path : Path}
    (h : Indexed disk settings root path) :
    ∃ file,
      (complete disk settings root (scan disk root) order).files.find? path = some file := by
  induction h with
  | scanned hpath htext =>
    have hscan := find?_scan_iff.mpr ⟨hpath, rfl, InkFile.onDisk_read htext⟩
    exact ⟨_, (find?_complete_iff_loaded habs horder).mpr (Or.inl hscan)⟩
  | main hpath htext => exact complete_has habs horder (main_loaded habs hpath htext)
  | @included path target text found hsource htext hnames hfound ih =>
    obtain ⟨source, hstored⟩ := ih
    obtain ⟨-, rfl, stored, hs, heq⟩ := complete_sound habs horder hstored
    -- The stored file is the parse of the text that names the target.
    have htarget : target ∈ source.targets root := by
      rw [htext] at hs
      cases hs
      rw [heq]
      exact InkFile.mem_targets_read.mpr hnames
    refine complete_has habs horder (loaded_closed habs horder ?_ htarget hfound)
    exact ((find?_complete_iff_loaded habs horder).mp hstored).imp_right And.left

/-- The index holds the parses of exactly the indexed files. -/
theorem find?_complete_iff (habs : root.absolute = true)
    (horder : order.Perm (scan disk root).values) {path : Path} {file : InkFile} :
    (complete disk settings root (scan disk root) order).files.find? path = some file ↔
      Indexed disk settings root path ∧ file.path = path ∧ file.OnDisk disk := by
  refine ⟨complete_sound habs horder, ?_⟩
  rintro ⟨hindexed, rfl, hdisk⟩
  obtain ⟨found, hfound⟩ := complete_covers habs horder hindexed
  obtain ⟨-, hpath, hon⟩ := complete_sound habs horder hfound
  rw [hfound, hon.eq hdisk hpath]

end Complete

/-- Seen from an absolute root, the index of a project holds exactly the indexed files, each as the
    parse of its text on disk. Taking up the scanned files in another order gives the same files and
    the same graph. -/
theorem build_holds_indexed_files (disk : Disk) (settings : Settings) (root : Path)
    (habs : root.absolute = true) :
    let story := build disk settings root
    let scanned := scan disk root.normalize
    (∀ path, path ∈ story.files.keys ↔ Indexed disk settings root.normalize path) ∧
    (∀ path file, story.files.find? path = some file →
      ∃ text, disk.text? path = some text ∧ file = InkFile.read path text) ∧
    ∀ order : List InkFile, order.Perm scanned.values →
      let other := complete disk settings root.normalize scanned order
      (∀ path, other.files.find? path = story.files.find? path) ∧
        other.graph.Same story.graph := by
  intro story scanned
  have hroot : root.normalize.absolute = true := (Path.normalize_absolute root).trans habs
  have hfind {path : Path} {file : InkFile} : story.files.find? path = some file ↔
      Indexed disk settings root.normalize path ∧ file.path = path ∧ file.OnDisk disk :=
    find?_complete_iff hroot (List.Perm.refl _)
  refine ⟨?_, ?_, ?_⟩
  · intro path
    rw [PathMap.mem_keys_iff, PathMap.contains_iff]
    constructor
    · rintro ⟨file, hfile⟩
      exact (hfind.mp hfile).1
    · exact complete_covers hroot (List.Perm.refl _)
  · intro path file hfile
    obtain ⟨-, rfl, hdisk⟩ := hfind.mp hfile
    exact hdisk
  · intro order horder other
    have hsame : ∀ path, other.files.find? path = story.files.find? path := by
      intro path
      apply Option.ext
      intro file
      exact (find?_complete_iff hroot horder).trans hfind.symm
    have hother : other.WellFormed :=
      complete_wellFormed disk settings root.normalize (Stored.scan disk root.normalize) order
    have hstory : story.WellFormed := build_wellFormed disk settings root
    refine ⟨hsame, ?_⟩
    have hperm := hother.files.ordered.entries_perm hstory.files.ordered hsame
    exact IncludeGraph.same_of_perm (hperm.map Prod.snd) root.normalize

/-- A project whose one file includes a file beside its folder, which includes it in turn: the file
    outside is indexed. -/
theorem build_holds_file_outside_root :
    let disk : Disk := .ofTexts [("/p/a.ink", "INCLUDE ../b.ink\n"), ("/b.ink", "INCLUDE a.ink\n")]
    let root : Path := .ofString "/p"
    root.absolute = true ∧ (.ofString "/b.ink" : Path) ∈ (build disk {} root).files.keys := by
  intro disk root
  refine ⟨rfl, ((build_holds_indexed_files disk {} root rfl).1 _).mpr ?_⟩
  have ha : disk.text? (.ofString "/p/a.ink") = some "INCLUDE ../b.ink\n" := by
    decide +kernel
  have hb : disk.text? (.ofString "/b.ink") = some "INCLUDE a.ink\n" := by decide +kernel
  refine .included (.scanned ?_ ha) ha ⟨"INCLUDE ../b.ink".toList, ?_, "../b.ink", ?_, ?_⟩ hb
  · decide +kernel
  · decide +kernel
  · decide +kernel
  · decide +kernel

end InkWorkspace.Story
