import InkWorkspace.Compiler.Staging
import InkWorkspace.Proofs.Path
import InkWorkspace.Proofs.Text.Lines
import InkWorkspace.Proofs.Text.Scan

/- The targets of includes. A target is a way down from the scratch folder (`descends_targetOf`): a
   contained name is one itself, and the others are moved to a name that is put together without a
   slash. The number in front tells moved includes apart, also by their places
   (`index_eq_of_places_eq`), and contained names at one place name one file (`resolve_eq_of_places_eq`).
   Nothing separates a contained name from the place of a moved include or of the root text. -/
namespace InkWorkspace

open Text

/-! ## Ways down -/

namespace Path

/-- A way that never leads up: a relative path of names and `.`. -/
def Descends (path : Path) : Prop :=
  path.absolute = false ∧ ∀ part ∈ path.parts, part = .here ∨ ∃ name, part = .name name

theorem exists_piece {text : String} {part : Component} (h : part ∈ (ofString text).parts) :
    ∃ piece ∈ splitOn '/' text.toList, part.bytes = utf8 piece := by
  obtain ⟨piece, hpiece, hread⟩ := List.mem_filterMap.mp ((dropInnerDots_sublist _ _).subset h)
  exact ⟨piece, hpiece, Component.ofBytes?_eq_some_iff.mp hread⟩

theorem fileName_mem_pieces {text file : String} (h : (ofString text).fileName? = some file) :
    file.toList ∈ splitOn '/' text.toList := by
  obtain ⟨name, hlast, htext⟩ := Option.bind_eq_some_iff.mp h
  obtain ⟨part, hpart, hname⟩ := Option.bind_eq_some_iff.mp hlast
  obtain ⟨piece, hpiece, hbytes⟩ := exists_piece (List.mem_of_getLast? hpart)
  have hsame : name.bytes = utf8 piece := by
    cases part with
    | here => cases hname
    | up => cases hname
    | name other =>
      cases hname
      exact hbytes
  rw [FileName.text?, hsame, decode?_utf8] at htext
  cases htext
  rwa [String.toList_ofList]

namespace Descends

variable {path other : Path}

theorem filter_parts (h : path.Descends) :
    path.parts.filter (· ≠ .here) = path.names.map .name := by
  unfold names
  have hparts := h.2
  generalize path.parts = parts at hparts ⊢
  induction parts with
  | nil => rfl
  | cons part parts ih =>
    have hrest := ih fun c hc => hparts c (List.mem_cons_of_mem part hc)
    rcases hparts part List.mem_cons_self with rfl | ⟨name, rfl⟩
    · simpa [List.filterMap_cons, Component.name?] using hrest
    · simpa [List.filterMap_cons, Component.name?] using hrest

theorem foldl_parts (h : path.Descends) (done : List Component) :
    path.parts.foldl fold done = done ++ path.names.map .name := by
  unfold names
  have hparts := h.2
  generalize path.parts = parts at hparts ⊢
  induction parts generalizing done with
  | nil => simp
  | cons part parts ih =>
    have hrest := fun done => ih done fun c hc => hparts c (List.mem_cons_of_mem part hc)
    rw [List.foldl_cons, hrest]
    rcases hparts part List.mem_cons_self with rfl | ⟨name, rfl⟩
    · simp [fold, List.filterMap_cons, Component.name?]
    · simp [fold, Component.name?]

/-- A way down joined to a folder ends below the folder, at the names of the way. -/
theorem join_eq (h : path.Descends) {folder : Path} (hfolder : folder.absolute = true) :
    folder.join path = ⟨true, folder.parts ++ path.names.map .name⟩ := by
  simp [join, h.1, hfolder, ← h.filter_parts]

/-- Ways down by the same names lead to the same file, wherever they start. -/
theorem resolve_eq (h : path.Descends) (hother : other.Descends)
    (hnames : path.names = other.names) (root : Path) :
    root.resolve path = root.resolve other := by
  have hnormal : path.normalize = other.normalize := by
    simp only [normalize, h.foldl_parts, hother.foldl_parts, h.1, hother.1, hnames]
  unfold resolve join
  rw [h.filter_parts, hother.filter_parts, hnames, h.1, hother.1, if_neg Bool.false_ne_true,
    if_neg Bool.false_ne_true]
  split
  · rfl
  · exact hnormal

end Descends

end Path

namespace Staging

/-! ## Contained names -/

theorem isContained_iff {name : String} :
    isContained name = true ↔ (Path.ofString name).Descends := by
  simp only [isContained, Bool.and_eq_true, Bool.not_eq_true', List.all_eq_true, decide_eq_true_eq,
    Path.Descends]
  refine and_congr_right fun _ => forall₂_congr fun part _ => ?_
  cases part <;> simp

theorem targetOf_contained {name : String} (h : isContained name = true) (index : Nat) :
    targetOf name index = name :=
  if_pos h

theorem mark_mem_of_moved {name : String} (h : isContained name = false) :
    '/' ∈ name.toList ∨ '.' ∈ name.toList := by
  cases habsolute : (Path.ofString name).absolute with
  | true =>
    have hhead : name.toList.head? = some '/' := by simpa [Path.ofString, Path.ofParts] using habsolute
    exact Or.inl (List.mem_of_head? hhead)
  | false =>
    simp only [isContained, habsolute, Bool.not_false, Bool.true_and, List.all_eq_false] at h
    obtain ⟨part, hpart, hup⟩ := h
    obtain rfl : part = .up := by simpa using hup
    obtain ⟨piece, hpiece, hbytes⟩ := Path.exists_piece hpart
    obtain rfl : ['.', '.'] = piece := utf8_inj hbytes
    exact Or.inr (mem_of_mem_splitOn hpiece List.mem_cons_self)

/-! ## Moved names -/

/-- The file name of a moved include as a text: its number and its own file name. -/
def movedText (name : String) (index : Nat) : String :=
  toString index ++ "_" ++ ((Path.ofString name).fileName?.getD "include.ink")

theorem targetOf_moved {name : String} (h : isContained name = false) (index : Nat) :
    targetOf name index = externalFolder ++ "/" ++ movedText name index := by
  simp [targetOf, h, movedText, String.append_assoc]

theorem toList_movedText (name : String) (index : Nat) :
    (movedText name index).toList = Nat.toDigits 10 index ++
      '_' :: ((Path.ofString name).fileName?.getD "include.ink").toList := by
  simp [movedText]

theorem ne_of_mem_toDigits {index : Nat} {c d : Char} (h : c ∈ Nat.toDigits 10 index)
    (hd : d.isDigit = false) : c ≠ d := by
  rintro rfl
  rw [Nat.isDigit_of_mem_toDigits (by decide) (by decide) h] at hd
  cases hd

/-- A moved name holds its number, an underscore and a file name, which is a piece of the name that is
    moved if that has one. -/
theorem not_mem_movedText {c : Char} {name : String} (hdigit : c.isDigit = false)
    (hunderscore : c ≠ '_') (hinclude : c ∉ "include.ink".toList)
    (hpieces : ∀ piece ∈ splitOn '/' name.toList, c ∉ piece) (index : Nat) :
    c ∉ (movedText name index).toList := by
  have hfile : c ∉ ((Path.ofString name).fileName?.getD "include.ink").toList := by
    cases hname : (Path.ofString name).fileName? with
    | none => exact hinclude
    | some file => exact hpieces _ (Path.fileName_mem_pieces hname)
  rw [toList_movedText, List.mem_append, List.mem_cons]
  rintro (hmem | hmem | hmem)
  · exact ne_of_mem_toDigits hmem hdigit rfl
  · exact hunderscore hmem
  · exact hfile hmem

theorem slash_not_mem_movedText (name : String) (index : Nat) :
    '/' ∉ (movedText name index).toList := by
  apply not_mem_movedText rfl (by decide) (by decide)
  intro piece hpiece
  exact not_mem_of_mem_splitOn hpiece

/-- The number stands in front of the first underscore. -/
theorem index_eq_of_movedText_eq {name other : String} {index number : Nat}
    (h : movedText name index = movedText other number) : index = number := by
  have htake (name : String) (index : Nat) :
      (movedText name index).toList.takeWhile (· ≠ '_') = Nat.toDigits 10 index := by
    rw [toList_movedText]
    exact takeWhile_run (fun c hc => decide_eq_true (ne_of_mem_toDigits hc rfl)) rfl _
  have hdigits : Nat.toDigits 10 index = Nat.toDigits 10 number := by
    rw [← htake name, h, htake other]
  have hvalue := congrArg (Nat.ofDigitChars 10 · 0) hdigits
  simpa [Nat.ofDigitChars_toDigits] using hvalue

theorem isFileName_movedText (name : String) (index : Nat) :
    IsFileName (utf8 (movedText name index).toList) := by
  have hunderscore : '_' ∈ (movedText name index).toList := by simp [toList_movedText]
  have hne {piece : List Char} (hpiece : '_' ∉ piece) : (movedText name index).toList ≠ piece :=
    fun h => hpiece (h ▸ hunderscore)
  exact isFileName_utf8 (hne (by decide)) (slash_not_mem_movedText name index) (hne (by decide))
    (hne (by decide))

/-- The file name of a moved include. -/
def movedName (name : String) (index : Nat) : FileName :=
  ⟨utf8 (movedText name index).toList, isFileName_movedText name index⟩

theorem index_eq_of_movedName_eq {name other : String} {index number : Nat}
    (h : movedName name index = movedName other number) : index = number :=
  index_eq_of_movedText_eq (String.toList_inj.mp (utf8_inj (congrArg FileName.bytes h)))

def externalName : FileName :=
  ⟨utf8 externalFolder.toList, by decide +kernel⟩

/-- A moved include lies directly in the folder for them. -/
theorem ofString_moved {name : String} (h : isContained name = false) (index : Nat) :
    Path.ofString (targetOf name index) =
      ⟨false, [.name externalName, .name (movedName name index)]⟩ := by
  have hlist : (targetOf name index).toList =
      externalFolder.toList ++ '/' :: (movedText name index).toList := by
    simp [targetOf_moved h]
  have hpieces : splitOn '/' (targetOf name index).toList =
      [externalFolder.toList, (movedText name index).toList] := by
    rw [hlist, splitOn_append, splitOn_of_not_mem (slash_not_mem_movedText name index),
      splitOn_of_not_mem (by decide)]
    rfl
  have hexternal : Component.ofPiece? externalFolder.toList = some (.name externalName) :=
    Component.ofBytes?_eq_some_iff.mpr rfl
  have hmoved : Component.ofPiece? (movedText name index).toList =
      some (.name (movedName name index)) := Component.ofBytes?_eq_some_iff.mpr rfl
  have hhead : ((targetOf name index).toList.head? == some '/') = false := by
    rw [hlist]
    rfl
  unfold Path.ofString
  rw [hpieces, hhead, List.filterMap_cons_some hexternal, List.filterMap_cons_some hmoved]
  rfl

/-! ## All targets -/

/-- The place of a target in the scratch folder. -/
def placeOf (target : String) : Place :=
  (Path.ofString target).names

theorem placeOf_moved {name : String} (h : isContained name = false) (index : Nat) :
    placeOf (targetOf name index) = [externalName, movedName name index] := by
  rw [placeOf, ofString_moved h]
  rfl

theorem descends_targetOf (name : String) (index : Nat) :
    (Path.ofString (targetOf name index)).Descends := by
  cases h : isContained name with
  | true =>
    rw [targetOf_contained h]
    exact isContained_iff.mp h
  | false =>
    rw [ofString_moved h]
    exact ⟨rfl, by simp⟩

theorem feed_not_mem_targetOf {name : String} (h : '\n' ∉ name.toList) (index : Nat) :
    '\n' ∉ (targetOf name index).toList := by
  cases hcontained : isContained name with
  | true => rwa [targetOf_contained hcontained]
  | false =>
    have hmoved : '\n' ∉ (movedText name index).toList := by
      apply not_mem_movedText rfl (by decide) (by decide)
      intro piece hpiece hmem
      exact h (mem_of_mem_splitOn hpiece hmem)
    simp [targetOf_moved hcontained, externalFolder, hmoved]

theorem index_eq_of_places_eq {name other : String} {index number : Nat}
    (hname : isContained name = false) (hother : isContained other = false)
    (h : placeOf (targetOf name index) = placeOf (targetOf other number)) : index = number := by
  rw [placeOf_moved hname, placeOf_moved hother] at h
  exact index_eq_of_movedName_eq (List.cons.inj (List.cons.inj h).2).1

/-- Contained names at one place are spellings of one file. -/
theorem resolve_eq_of_places_eq {name other : String} (hname : isContained name = true)
    (hother : isContained other = true) (h : placeOf name = placeOf other) (root : Path) :
    root.resolve (.ofString name) = root.resolve (.ofString other) :=
  (isContained_iff.mp hname).resolve_eq (isContained_iff.mp hother) h root

end Staging

end InkWorkspace
