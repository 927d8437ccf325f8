import InkWorkspace.Proofs.Source
import InkWorkspace.Proofs.Disk

/- What following includes brings in. `loadFrom` reads depth first and stops at every path it has
   seen, so what it returns is described by three facts: each file is the parse of what the disk
   holds at its path (`loadFrom_onDisk`); a property that the pending paths have and that include
   lines hand on holds of every file (`loadFrom_induction`); and a readable path that is pending or
   that a returned file includes has been seen before or is returned itself (`loadFrom_complete`).
   The last one is where cycles and shared files matter: a path that is passed over because it has
   been seen must have been returned earlier. Together they say that what is returned is the least
   set of paths that is closed in this way (`loadFrom_least`). -/
namespace InkWorkspace

/-- The file is the parse of what the disk holds at its path. -/
def InkFile.OnDisk (disk : Disk) (file : InkFile) : Prop :=
  ∃ text, disk.text? file.path = some text ∧ file = InkFile.read file.path text

theorem InkFile.onDisk_read {disk : Disk} {path : Path} {text : String}
    (h : disk.text? path = some text) : (InkFile.read path text).OnDisk disk :=
  ⟨text, h, rfl⟩

theorem InkFile.OnDisk.eq {disk : Disk} {a b : InkFile} (ha : a.OnDisk disk) (hb : b.OnDisk disk)
    (h : a.path = b.path) : a = b := by
  obtain ⟨s, hs, ha⟩ := ha
  obtain ⟨t, ht, hb⟩ := hb
  rw [h, ht] at hs
  cases hs
  rw [ha, hb, h]

namespace Include

theorem loadFrom_onDisk (disk : Disk) (root : Path) (pending seen : List Path) :
    ∀ file ∈ (loadFrom disk root pending seen).1, file.OnDisk disk := by
  fun_induction loadFrom disk root pending seen with
  | case1 seen => simp
  | case2 seen path rest hs ih
  | case3 seen path rest hs hb hnone ih
  | case5 seen path rest hs hb ih => exact ih
  | case4 seen path rest hs hb text htext file files seen' heq ih =>
    rw [heq] at ih
    intro found hfound
    rcases List.mem_cons.mp hfound with rfl | hfound
    · exact InkFile.onDisk_read htext
    · exact ih found hfound

theorem loadFrom_fresh (disk : Disk) (root : Path) (pending seen : List Path) :
    (∀ path ∈ seen, path ∈ (loadFrom disk root pending seen).2) ∧
      ∀ file ∈ (loadFrom disk root pending seen).1, file.path ∉ seen := by
  fun_induction loadFrom disk root pending seen with
  | case1 seen => simp
  | case2 seen path rest hs ih => exact ih
  | case3 seen path rest hs hb hnone ih
  | case5 seen path rest hs hb ih =>
    exact ⟨fun p hp => ih.1 p (List.mem_cons_of_mem path hp),
      fun file hfile hp => ih.2 file hfile (List.mem_cons_of_mem path hp)⟩
  | case4 seen path rest hs hb text htext file files seen' heq ih =>
    rw [heq] at ih
    refine ⟨fun p hp => ih.1 p (List.mem_cons_of_mem path hp), ?_⟩
    intro found hfound
    rcases List.mem_cons.mp hfound with rfl | hfound
    · exact hs
    · exact fun hp => ih.2 found hfound (List.mem_cons_of_mem path hp)

/-- A property of the pending paths that the include lines of returned files hand on holds of the
    path of every returned file. -/
theorem loadFrom_induction {disk : Disk} {root : Path} {pending seen : List Path}
    {P : Path → Prop} (hpending : ∀ path ∈ pending, P path)
    (hstep : ∀ file ∈ (loadFrom disk root pending seen).1,
      P file.path → ∀ target ∈ file.targets root, P target) :
    ∀ file ∈ (loadFrom disk root pending seen).1, P file.path := by
  fun_induction loadFrom disk root pending seen with
  | case1 seen => simp
  | case2 seen path rest hs ih
  | case3 seen path rest hs hb hnone ih
  | case5 seen path rest hs hb ih =>
    exact ih (fun p hp => hpending p (List.mem_cons_of_mem path hp)) hstep
  | case4 seen path rest hs hb text htext file files seen' heq ih =>
    rw [heq] at ih
    have hfile : P file.path := hpending path List.mem_cons_self
    have hnext : ∀ p ∈ file.targets root ++ rest, P p := by
      intro p hp
      rcases List.mem_append.mp hp with hp | hp
      · exact hstep file List.mem_cons_self hfile p hp
      · exact hpending p (List.mem_cons_of_mem path hp)
    intro found hfound
    rcases List.mem_cons.mp hfound with rfl | hfound
    · exact hfile
    · exact ih hnext (fun f hf => hstep f (List.mem_cons_of_mem file hf)) found hfound

/-! ## Completeness -/

/-- A path that reading can be asked for. -/
def Askable (path : Path) : Prop := path.absolute = true ∧ path.normalize = path

theorem askable_targets {root : Path} (habs : root.absolute = true) (file : InkFile) :
    ∀ target ∈ file.targets root, Askable target := by
  intro target htarget
  refine ⟨?_, InkFile.targets_normal htarget⟩
  obtain ⟨inclusion, -, rfl⟩ := List.mem_map.mp htarget
  exact Path.resolve_absolute habs _

theorem loadFrom_reaches (disk : Disk) (root : Path) (pending seen : List Path) :
    (∀ path ∈ pending, path ∈ (loadFrom disk root pending seen).2) ∧
      ∀ file ∈ (loadFrom disk root pending seen).1, ∀ target ∈ file.targets root,
        target ∈ (loadFrom disk root pending seen).2 := by
  fun_induction loadFrom disk root pending seen with
  | case1 seen => simp
  | case2 seen path rest hs ih =>
    refine ⟨?_, ih.2⟩
    intro p hp
    rcases List.mem_cons.mp hp with rfl | hp
    · -- A path is passed over because it has been seen, and so it stays.
      exact (loadFrom_fresh disk root rest seen).1 p hs
    · exact ih.1 p hp
  | case3 seen path rest hs hb hnone ih
  | case5 seen path rest hs hb ih =>
    refine ⟨?_, ih.2⟩
    intro p hp
    rcases List.mem_cons.mp hp with rfl | hp
    · exact (loadFrom_fresh disk root rest (p :: seen)).1 p List.mem_cons_self
    · exact ih.1 p hp
  | case4 seen path rest hs hb text htext file files seen' heq ih =>
    have hseen := (loadFrom_fresh disk root (file.targets root ++ rest) (path :: seen)).1
    rw [heq] at ih hseen
    refine ⟨?_, ?_⟩
    · intro p hp
      rcases List.mem_cons.mp hp with rfl | hp
      · exact hseen p List.mem_cons_self
      · exact ih.1 p (List.mem_append_right _ hp)
    · -- The targets of a file stand in front of what is pending behind it.
      intro found hfound target htarget
      rcases List.mem_cons.mp hfound with rfl | hfound
      · exact ih.1 target (List.mem_append_left _ htarget)
      · exact ih.2 found hfound target htarget

/-- What is seen in the end was seen before, is returned, or cannot be read. -/
theorem loadFrom_seen {disk : Disk} {root : Path} {pending seen : List Path}
    (hpending : ∀ path ∈ pending, path.normalize = path) :
    ∀ path ∈ (loadFrom disk root pending seen).2,
      path ∈ seen ∨ (∃ file ∈ (loadFrom disk root pending seen).1, file.path = path) ∨
        disk.text? path = none := by
  fun_induction loadFrom disk root pending seen with
  | case1 seen => exact fun path hp => Or.inl hp
  | case2 seen path rest hs ih => exact ih (fun p hp => hpending p (List.mem_cons_of_mem path hp))
  | case3 seen path rest hs hb hnone ih =>
    intro p hp
    rcases ih (fun p hp => hpending p (List.mem_cons_of_mem path hp)) p hp with hp | hp
    · rcases List.mem_cons.mp hp with rfl | hp
      · exact Or.inr (Or.inr hnone)
      · exact Or.inl hp
    · exact Or.inr hp
  | case4 seen path rest hs hb text htext file files seen' heq ih =>
    rw [heq] at ih
    have hnext : ∀ p ∈ file.targets root ++ rest, p.normalize = p := by
      intro p hp
      rcases List.mem_append.mp hp with hp | hp
      · exact InkFile.targets_normal hp
      · exact hpending p (List.mem_cons_of_mem path hp)
    intro p hp
    -- The path read in this step counts as seen further on; it is the file returned first.
    rcases ih hnext p hp with hp | ⟨found, hfound, rfl⟩ | hp
    · rcases List.mem_cons.mp hp with rfl | hp
      · exact Or.inr (Or.inl ⟨file, List.mem_cons_self, rfl⟩)
      · exact Or.inl hp
    · exact Or.inr (Or.inl ⟨found, List.mem_cons_of_mem file hfound, rfl⟩)
    · exact Or.inr (Or.inr hp)
  | case5 seen path rest hs hb ih =>
    intro p hp
    rcases ih (fun p hp => hpending p (List.mem_cons_of_mem path hp)) p hp with hp | hp
    · rcases List.mem_cons.mp hp with rfl | hp
      · -- A path that is not listed cannot be read.
        have hn := hpending p List.mem_cons_self
        cases htext : disk.text? p with
        | none => exact Or.inr (Or.inr rfl)
        | some text => exact absurd (Disk.mem_spellings hn htext) hb
      · exact Or.inl hp
    · exact Or.inr hp

/-- A readable path that is pending, or that a returned file includes, has been seen before or is
    returned. -/
theorem loadFrom_complete_of_normal {disk : Disk} {root : Path} {pending seen : List Path}
    (hpending : ∀ path ∈ pending, path.normalize = path) {path : Path} {text : String}
    (htext : disk.text? path = some text)
    (hpath : path ∈ pending ∨ ∃ file ∈ (loadFrom disk root pending seen).1,
      path ∈ file.targets root) :
    path ∈ seen ∨ ∃ file ∈ (loadFrom disk root pending seen).1, file.path = path := by
  have hreach := loadFrom_reaches disk root pending seen
  have hseen : path ∈ (loadFrom disk root pending seen).2 := by
    rcases hpath with hp | ⟨file, hfile, hp⟩
    · exact hreach.1 path hp
    · exact hreach.2 file hfile path hp
  rcases loadFrom_seen hpending path hseen with h | h | h
  · exact Or.inl h
  · exact Or.inr h
  · rw [h] at htext
    cases htext

theorem loadFrom_complete {disk : Disk} {root : Path} {pending seen : List Path}
    (hpending : ∀ path ∈ pending, Askable path) {path : Path} {text : String}
    (htext : disk.text? path = some text)
    (hpath : path ∈ pending ∨ ∃ file ∈ (loadFrom disk root pending seen).1,
      path ∈ file.targets root) :
    path ∈ seen ∨ ∃ file ∈ (loadFrom disk root pending seen).1, file.path = path :=
  loadFrom_complete_of_normal (fun p hp => (hpending p hp).2) htext hpath

/-- A set of paths that holds the readable pending ones, and with a readable path those that it
    includes, except for what has been seen, holds the paths of all returned files. -/
theorem loadFrom_least {disk : Disk} {root : Path} {pending seen : List Path} {S : Path → Prop}
    (hpending : ∀ path ∈ pending, (disk.text? path).isSome = true → path ∈ seen ∨ S path)
    (hclosed : ∀ file : InkFile, file.OnDisk disk → S file.path →
      ∀ target ∈ file.targets root, (disk.text? target).isSome = true → target ∈ seen ∨ S target) :
    ∀ file ∈ (loadFrom disk root pending seen).1, S file.path := by
  have hreads : ∀ file ∈ (loadFrom disk root pending seen).1,
      (disk.text? file.path).isSome = true ∧ file.path ∉ seen := by
    intro file hfile
    obtain ⟨text, htext, -⟩ := loadFrom_onDisk disk root pending seen file hfile
    exact ⟨Option.isSome_iff_exists.mpr ⟨text, htext⟩,
      (loadFrom_fresh disk root pending seen).2 file hfile⟩
  intro file hfile
  have hpath : (disk.text? file.path).isSome = true → file.path ∈ seen ∨ S file.path := by
    refine loadFrom_induction
      (P := fun path => (disk.text? path).isSome = true → path ∈ seen ∨ S path) hpending ?_ file hfile
    intro source hsource hheld
    obtain ⟨hread, hnew⟩ := hreads source hsource
    exact hclosed source (loadFrom_onDisk disk root pending seen source hsource)
      ((hheld hread).resolve_left hnew)
  obtain ⟨hread, hnew⟩ := hreads file hfile
  exact (hpath hread).resolve_left hnew

end Include

end InkWorkspace
