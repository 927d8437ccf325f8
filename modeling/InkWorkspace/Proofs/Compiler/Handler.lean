import InkWorkspace.Compiler.Handler
import InkWorkspace.Include.Fresh
import InkWorkspace.Proofs.Disk
import InkWorkspace.Proofs.PathMap

/- How deep includes are followed. Only new names are, so a depth suffices if it is beyond the number of
   names that are left to be met (`HasRoom`).

   What an include of a project's files brings in is among the texts that can be loaded (`mem_allTexts`),
   so whatever is found line by line in included texts is found in the lines of those, and there are no
   more of them than lines. The depth of a project's files is beyond that (`hasRoom_ofFiles`). -/
namespace InkWorkspace

open Text

/-! ## Room for names -/

/-- Once any new one of the names is met, fewer names are left to be met than the depth. -/
def HasRoom (bound : List String) (depth : Nat) (met names : List String) : Prop :=
  ∀ name ∈ names, name ∉ met → Include.fresh bound (met ++ [name]) < depth

section Room

variable {bound met more names others : List String} {depth : Nat}

theorem HasRoom.mono (h : HasRoom bound depth met names) (hmet : ∀ name ∈ met, name ∈ more)
    (hnames : ∀ name ∈ others, name ∈ names) : HasRoom bound depth more others := by
  intro name hname hnew
  have hroom := h name (hnames name hname) fun hold => hnew (hmet name hold)
  refine Nat.lt_of_le_of_lt (Include.fresh_mono fun old hold => ?_) hroom
  exact List.mem_append.mpr ((List.mem_append.mp hold).imp_left (hmet old))

/-- Each of the names that are left takes room for one. -/
theorem hasRoom_of_fresh_le (hnames : ∀ name ∈ names, name ∈ bound)
    (h : Include.fresh bound met ≤ depth) : HasRoom bound depth met names :=
  fun name hname hnew => Nat.lt_of_lt_of_le (Include.fresh_concat_lt (hnames name hname) hnew) h

end Room

/-! ## The files of a project -/

namespace FileHandler

variable {root : Path} {texts : PathMap String} {disk : Disk}

theorem mem_allTexts {name text : String} (h : (ofFiles root texts disk).included? name = some text) :
    text ∈ allTexts texts disk := by
  have hload := ok_of_toOption h
  simp only [ofFiles, loadFile] at hload
  split at hload
  · next found hfound =>
    cases hload
    exact List.mem_append_left _ (List.mem_map_of_mem (PathMap.mem_entries_of_find? hfound))
  · next hnone =>
    have htext : disk.text? (.ofString (root.resolve (.ofString name)).render) = some text := by
      rw [Disk.text?, hload]
      rfl
    obtain ⟨place, bytes, -, hentry, hdecode⟩ := Disk.text?_eq_some_iff.mp htext
    have hmem := Disk.mem_entries_of_file hentry
    exact List.mem_append_right _ (List.mem_filterMap.mpr ⟨(place, .file bytes), hmem, hdecode⟩)

/-- What is found on the lines of all texts that can be loaded. -/
def findings {α : Type} (texts : PathMap String) (disk : Disk) (find : List Char → Option α) :
    List α :=
  (allTexts texts disk).flatMap fun text => (lines text.toList).filterMap find

theorem mem_findings {α : Type} {find : List Char → Option α} {name text : String} {a : α}
    (hload : (ofFiles root texts disk).included? name = some text)
    (ha : a ∈ (lines text.toList).filterMap find) : a ∈ findings texts disk find :=
  List.mem_flatMap.mpr ⟨text, mem_allTexts hload, ha⟩

theorem length_findings_le {α : Type} (texts : PathMap String) (disk : Disk)
    (find : List Char → Option α) : (findings texts disk find).length ≤ lineTotal texts disk := by
  unfold findings lineTotal
  induction allTexts texts disk with
  | nil => exact Nat.le_refl 0
  | cons text rest ih =>
    have hfirst := List.length_filterMap_le find (lines text.toList)
    rw [List.flatMap_cons, List.length_append, List.foldr_cons]
    omega

theorem hasRoom_ofFiles (root : Path) (texts : PathMap String) (disk : Disk)
    (find : List Char → Option String) (met names : List String) :
    HasRoom (findings texts disk find) (ofFiles root texts disk).depth met names :=
  fun _ _ _ => Nat.lt_succ_of_le
    (Nat.le_trans (Include.fresh_le_length _ _) (length_findings_le texts disk find))

end FileHandler

end InkWorkspace
