import InkWorkspace.Line.Shape
import InkWorkspace.Proofs.Text.Scan

/- Where the name stands on an include line. `inclusion?` cuts the line in front of the name and behind
   it (`line_eq`), and what lies between is the path of the include (`includePath?_eq`).

   Replacing the first occurrence of the name is replacing the name itself, for names that have a
   character which neither the keyword nor a blank is (`replaceFirst_name`): they do not occur further
   to the front (`length_front_le`). Such an occurrence would begin in the keyword or in the blanks, and
   then the name overlaps itself: shifted to its place, it runs on in step with itself, so it consists of
   what it was shifted by, the end of the keyword and the blanks (`mem_of_shifted`). -/
namespace InkWorkspace

open Text

namespace Text

/-- A text that goes on in step with itself, shifted by some characters, is made of them. -/
theorem mem_of_shifted {shift word rest back : List Char} (hshift : shift ≠ [])
    (h : word ++ rest = shift ++ (word ++ back)) : ∀ c ∈ word, c ∈ shift := by
  induction hlength : word.length using Nat.strongRecOn generalizing word back with
  | ind length ih =>
    intro c hc
    rcases List.append_eq_append_iff.mp h with ⟨more, hmore, -⟩ | ⟨tail, hword, htail⟩
    · rw [hmore]
      exact List.mem_append_left more hc
    · rw [hword] at hc
      rcases List.mem_append.mp hc with hc | hc
      · exact hc
      · -- The end of the word is shifted in the same way, and it is shorter.
        have hpos : 0 < shift.length := List.length_pos_iff.mpr hshift
        have hless : tail.length < length := by
          rw [← hlength, hword, List.length_append]
          omega
        rw [hword, List.append_assoc] at htail
        exact ih tail.length hless htail.symm rfl c hc

/-- The blanks at the end of a text. -/
def endBlanks (cs : List Char) : List Char :=
  (cs.reverse.takeWhile isBlank).reverse

theorem trimRight_append_endBlanks (cs : List Char) : trimRight cs ++ endBlanks cs = cs := by
  rw [trimRight, endBlanks, ← List.reverse_append, List.takeWhile_append_dropWhile,
    List.reverse_reverse]

end Text

namespace LineShape

def includeWord : List Char :=
  "INCLUDE".toList

/-- An include line, cut in front of its name and behind it. -/
structure Inclusion where
  front : List Char
  name : List Char
  back : List Char

namespace Inclusion

/-- The line with another name in the place of its own. -/
def withName (inclusion : Inclusion) (name : List Char) : List Char :=
  inclusion.front ++ name ++ inclusion.back

end Inclusion

/-- Cuts an include line. -/
def inclusion? (line : List Char) : Option Inclusion := do
  let rest ← dropWord? includeWord (trimLeft line)
  let (gap, path) := run isBlank rest
  if gap.isEmpty || path.isEmpty || '\n' ∈ path then none
  else return ⟨line.takeWhile isBlank ++ includeWord ++ gap, trimRight path, endBlanks path⟩

theorem includePath?_eq (line : List Char) :
    includePath? line = (inclusion? line).map fun inclusion => String.ofList inclusion.name := by
  unfold includePath? inclusion? includeWord
  cases dropWord? "INCLUDE".toList (trimLeft line) with
  | none => rfl
  | some rest =>
    simp only [Option.bind_eq_bind, Option.bind_some]
    split <;> rfl

theorem inclusion?_of_includePath? {line : List Char} {name : String}
    (h : includePath? line = some name) :
    ∃ inclusion, inclusion? line = some inclusion ∧ inclusion.name = name.toList := by
  rw [includePath?_eq] at h
  obtain ⟨inclusion, hinclusion, rfl⟩ := Option.map_eq_some_iff.mp h
  exact ⟨inclusion, hinclusion, by simp⟩

/-- What is cut out of an include line, in order: blanks, the keyword, blanks, the name, blanks. -/
theorem inclusion?_parts {line : List Char} {inclusion : Inclusion}
    (h : inclusion? line = some inclusion) :
    ∃ indent gap path, line = indent ++ includeWord ++ gap ++ path ∧
      (∀ c ∈ indent, isBlank c = true) ∧ gap ≠ [] ∧ (∀ c ∈ gap, isBlank c = true) ∧
      inclusion = ⟨indent ++ includeWord ++ gap, trimRight path, endBlanks path⟩ := by
  unfold inclusion? at h
  obtain ⟨rest, hword, hrest⟩ := Option.bind_eq_some_iff.mp h
  dsimp only [run] at hrest
  split at hrest
  · cases hrest
  · next hfull =>
    simp only [Bool.or_eq_true, List.isEmpty_iff, not_or] at hfull
    refine ⟨line.takeWhile isBlank, rest.takeWhile isBlank, rest.dropWhile isBlank, ?_,
      List.all_eq_true.mp List.all_takeWhile, hfull.1.1, List.all_eq_true.mp List.all_takeWhile,
      (Option.some.inj hrest).symm⟩
    rw [List.append_assoc, List.takeWhile_append_dropWhile, List.append_assoc,
      ← dropWord?_eq_some_iff.mp hword, trimLeft, List.takeWhile_append_dropWhile]

theorem line_eq {line : List Char} {inclusion : Inclusion} (h : inclusion? line = some inclusion) :
    line = inclusion.withName inclusion.name := by
  obtain ⟨indent, gap, path, rfl, -, -, -, rfl⟩ := inclusion?_parts h
  simp only [Inclusion.withName, List.append_assoc, trimRight_append_endBlanks]

theorem mem_front {line : List Char} {inclusion : Inclusion}
    (h : inclusion? line = some inclusion) {c : Char} (hc : c ∈ inclusion.front) :
    isBlank c = true ∨ c ∈ includeWord := by
  obtain ⟨indent, gap, path, -, hindent, -, hgap, rfl⟩ := inclusion?_parts h
  rcases List.mem_append.mp hc with hc | hc
  · rcases List.mem_append.mp hc with hc | hc
    · exact Or.inl (hindent c hc)
    · exact Or.inr hc
  · exact Or.inl (hgap c hc)

/-- A name with a character that neither the keyword nor a blank is occurs nowhere in front of where it
    stands as the name. -/
theorem length_front_le {line : List Char} {inclusion : Inclusion}
    (h : inclusion? line = some inclusion) {mark : Char} (hmark : mark ∈ inclusion.name)
    (hblank : isBlank mark = false) (hword : mark ∉ includeWord) {before rest : List Char}
    (hoccurs : line = before ++ inclusion.name ++ rest) :
    inclusion.front.length ≤ before.length := by
  have hparts : inclusion.front ++ (inclusion.name ++ inclusion.back) =
      before ++ (inclusion.name ++ rest) := by
    rw [← List.append_assoc, ← List.append_assoc, ← hoccurs]
    exact (line_eq h).symm
  rcases List.append_eq_append_iff.mp hparts with ⟨shift, hbefore, -⟩ | ⟨shift, hfront, hname⟩
  · rw [hbefore, List.length_append]
    exact Nat.le_add_right _ _
  · cases shift with
    | nil => simp [hfront]
    | cons c shift =>
      -- An occurrence that begins in front of the name would put the mark there.
      have hmem := mem_of_shifted (List.cons_ne_nil c shift) hname mark hmark
      rcases mem_front h (hfront ▸ List.mem_append_right before hmem) with hfail | hfail
      · rw [hblank] at hfail
        cases hfail
      · exact absurd hfail hword

theorem replaceFirst_name {line : List Char} {inclusion : Inclusion}
    (h : inclusion? line = some inclusion) {mark : Char} (hmark : mark ∈ inclusion.name)
    (hblank : isBlank mark = false) (hword : mark ∉ includeWord) (target : List Char) :
    replaceFirst inclusion.name target line = inclusion.withName target := by
  obtain ⟨before, rest, hcut⟩ := cutAt?_isSome inclusion.name inclusion.front inclusion.back
  have hline : line = inclusion.front ++ inclusion.name ++ inclusion.back := line_eq h
  have hparts := eq_of_cutAt? hcut
  have hlength : inclusion.front.length = before.length :=
    Nat.le_antisymm (length_front_le h hmark hblank hword (hline.trans hparts)) (cutAt?_first hcut)
  rw [List.append_assoc, List.append_assoc] at hparts
  obtain ⟨hfront, hback⟩ := List.append_inj hparts hlength
  rw [replaceFirst, hline, hcut, Inclusion.withName, hfront, List.append_cancel_left hback]

end LineShape

end InkWorkspace
