import InkWorkspace.Include.Load
import InkWorkspace.Proofs.Path

/- What the lines of a text make, and what its include lines say. A list to which each line adds at most
   one item holds the items of the lines in order (`listed_ofLines`, `listed_rising`). So the inclusions
   of a file are those of its lines (`includes_ofLines`), their line numbers rise (`includes_rising`),
   and the files it includes are the ones that some include line of its text names
   (`mem_targets_read`). -/
namespace InkWorkspace

open Text

namespace Contents

/-! ## What lines make -/

section Listed

variable {α : Type}

/-- If a line in front adds what it makes to a list, then the list is what all the lines make. -/
theorem listed_ofLines {listed : Contents → List α} {on? : Nat → List Char → Option α}
    (hempty : listed empty = [])
    (hstep : ∀ number line rest,
      listed (addLine number line rest) = (on? number line).toList ++ listed rest)
    (number : Nat) (ls : List (List Char)) :
    listed (ofLines number ls) = (ls.zipIdx number).filterMap fun (line, n) => on? n line := by
  induction ls generalizing number with
  | nil => exact hempty
  | cons line ls ih =>
    rw [ofLines, hstep, ih, List.zipIdx_cons]
    cases h : on? number line <;> simp [h]

theorem zipIdx_rising (l : List α) (n : Nat) :
    (l.zipIdx n).Pairwise fun a b => a.2 < b.2 := by
  induction l generalizing n with
  | nil => exact List.Pairwise.nil
  | cons a l ih =>
    rw [List.zipIdx_cons, List.pairwise_cons]
    exact ⟨fun b hb => List.le_snd_of_mem_zipIdx hb, ih (n + 1)⟩

theorem listed_rising (on? : Nat → List Char → Option α) {place : α → Nat}
    (hplace : ∀ number line item, on? number line = some item → place item = number)
    (number : Nat) (ls : List (List Char)) :
    ((ls.zipIdx number).filterMap fun (line, n) => on? n line).Pairwise
      fun a b => place a < place b := by
  refine List.pairwise_filterMap.mpr ((zipIdx_rising ls number).imp ?_)
  intro a b hab x hx y hy
  rw [hplace _ _ x hx, hplace _ _ y hy]
  exact hab

end Listed

/-! ## Inclusions -/

/-- The inclusion that a line of the given number makes, if it is an include line. -/
def inclusionOn? (number : Nat) (line : List Char) : Option Inclusion :=
  match LineShape.classify line with
  | .inclusion path => some ⟨path, number, Range.wholeLine number line⟩
  | _ => none

theorem inclusionOn?_eq_some_iff {number : Nat} {line : List Char} {inclusion : Inclusion} :
    inclusionOn? number line = some inclusion ↔
      LineShape.classify line = .inclusion inclusion.path ∧ inclusion.line = number ∧
        inclusion.range = Range.wholeLine number line := by
  obtain ⟨path, place, range⟩ := inclusion
  unfold inclusionOn?
  cases LineShape.classify line with
  | inclusion raw =>
    simp only [Option.some.injEq, Inclusion.mk.injEq, LineShape.inclusion.injEq]
    constructor
    · rintro ⟨rfl, rfl, rfl⟩; exact ⟨rfl, rfl, rfl⟩
    · rintro ⟨rfl, rfl, rfl⟩; exact ⟨rfl, rfl, rfl⟩
  | _ => simp

theorem includes_addLine (number : Nat) (line : List Char) (rest : Contents) :
    (addLine number line rest).includes =
      (inclusionOn? number line).toList ++ rest.includes := by
  unfold addLine inclusionOn?
  cases LineShape.classify line <;> rfl

theorem includes_ofLines (number : Nat) (ls : List (List Char)) :
    (ofLines number ls).includes =
      (ls.zipIdx number).filterMap fun (line, n) => inclusionOn? n line :=
  listed_ofLines rfl includes_addLine number ls

theorem includes_rising (number : Nat) (ls : List (List Char)) :
    (ofLines number ls).includes.Pairwise fun a b => a.line < b.line := by
  rw [includes_ofLines]
  exact listed_rising inclusionOn? (fun _ _ _ h => (inclusionOn?_eq_some_iff.mp h).2.1) number ls

end Contents

namespace Include

/-- Some include line of the text names `target`, seen from `root`. -/
def Names (root : Path) (text : String) (target : Path) : Prop :=
  ∃ line ∈ lines text.toList, ∃ raw,
    LineShape.classify line = .inclusion raw ∧ target = root.resolve (.ofString raw)

end Include

namespace InkFile

@[simp]
theorem read_path (path : Path) (text : String) : (read path text).path = path := rfl

theorem mem_targets_read {path root target : Path} {text : String} :
    target ∈ (read path text).targets root ↔ Include.Names root text target := by
  simp only [targets, read, Contents.includes_ofLines, List.mem_map, List.mem_filterMap]
  constructor
  · rintro ⟨inclusion, ⟨⟨line, n⟩, hline, hinc⟩, rfl⟩
    exact ⟨line, List.fst_mem_of_mem_zipIdx hline, inclusion.path,
      (Contents.inclusionOn?_eq_some_iff.mp hinc).1, rfl⟩
  · rintro ⟨line, hline, raw, hraw, rfl⟩
    obtain ⟨n, hn⟩ := List.mem_iff_getElem?.mp hline
    exact ⟨⟨raw, n, Range.wholeLine n line⟩, ⟨(line, n), List.mk_mem_zipIdx_iff_getElem?.mpr hn,
      Contents.inclusionOn?_eq_some_iff.mpr ⟨hraw, rfl, rfl⟩⟩, rfl⟩

theorem targets_normal {file : InkFile} {root target : Path} (h : target ∈ file.targets root) :
    target.normalize = target := by
  obtain ⟨inclusion, -, rfl⟩ := List.mem_map.mp h
  exact Path.normalize_resolve root _

end InkFile

end InkWorkspace
