import InkWorkspace.Proofs.Line
import InkWorkspace.Proofs.Line.Grammar

/- Where the names on a line stand. The name of a header and the name of a declaration are words, and
   pieces of their line (`headerName?_on`, `declaration_on`). No arrow begins in front of the end of a
   header's name, since neither blanks nor equals signs nor words are part of one (`Unmarked`). So every
   divert target on the line of a header stands at least two columns behind the name
   (`headerName?_apart`), and no column belongs to both. -/
namespace InkWorkspace

open Text

namespace LineShape

open Divert (IsMark)

/-- A class of characters without the first characters of arrows. -/
def Unmarked (p : Char → Bool) : Prop :=
  ∀ c, p c = true → ¬ IsMark c

theorem unmarked_of_ne {p : Char → Bool} (hdash : p '-' = false) (hless : p '<' = false) :
    Unmarked p := by
  intro c hc hmark
  rcases hmark with rfl | rfl
  · rw [hdash] at hc
    cases hc
  · rw [hless] at hc
    cases hc

theorem unmarked_isWord : Unmarked isWord := unmarked_of_ne (by decide) (by decide)

theorem unmarked_isBlank : Unmarked isBlank := unmarked_of_ne (by decide) (by decide)

theorem IsLead.unmarked {count : Nat} {front : List Char} (h : IsLead count front) :
    ∀ c ∈ front, ¬ IsMark c := by
  obtain ⟨indent, gap, rfl, hindent, hgap⟩ := h
  have hequals : ∀ c ∈ List.replicate count '=', ¬ IsMark c := by
    intro c hc
    rw [List.eq_of_mem_replicate hc]
    simp [IsMark]
  intro c hc
  rcases List.mem_append.mp hc with hc | hc
  · exact unmarked_isBlank c (hindent c hc)
  · rcases List.mem_append.mp hc with hc | hc
    · exact hequals c hc
    · exact unmarked_isBlank c (hgap c hc)

/-- A piece of a line that is a word, without an arrow in front of it. -/
structure NamedAt (line front word : List Char) (name : Token) : Prop where
  on : name.On line front word
  ne_nil : word ≠ []
  word : ∀ c ∈ word, isWord c = true
  unmarked : ∀ c ∈ front, ¬ IsMark c

theorem Grammar.namedAt {line : List Char} {shape : LineShape} {name : Token} (h : Grammar line shape)
    (hname : shape.headerName? = some name) : ∃ front word, NamedAt line front word name := by
  cases h with
  | @knot _ front word behind _ hline hfront _ hword =>
    cases hname
    have hon : (Token.after front word).On line front word := ⟨rfl, behind, by simp [hline]⟩
    exact ⟨front, word, hon, hword.ne_nil, hword.word, hfront.unmarked⟩
  | @function _ front gap word behind _ hline hfront _ _ hgap hword =>
    cases hname
    refine ⟨front ++ functionWord ++ gap, word, ⟨rfl, behind, by simp [hline]⟩, hword.ne_nil,
      hword.word, ?_⟩
    intro c hc
    rcases List.mem_append.mp hc with hc | hc
    · rcases List.mem_append.mp hc with hc | hc
      · exact hfront.unmarked c hc
      · exact unmarked_isWord c (functionWord_isWord c hc)
    · exact unmarked_isBlank c (hgap c hc)
  | @stitch front word behind _ hline hfront hword =>
    cases hname
    have hon : (Token.after front word).On line front word := ⟨rfl, behind, by simp [hline]⟩
    exact ⟨front, word, hon, hword.ne_nil, hword.word, hfront.unmarked⟩
  | inclusion h => cases hname
  | declaration h => cases hname

variable {line : List Char} {name token : Token} {kind : VariableKind}

theorem headerName?_on (h : (classify line).headerName? = some name) :
    ∃ front word, NamedAt line front word name :=
  ((classify_eq_header_iff (by rw [h]; rfl)).mp rfl).namedAt h

theorem headerName?_word (h : (classify line).headerName? = some name) :
    name.text.toList ≠ [] ∧ ∀ c ∈ name.text.toList, isWord c = true := by
  obtain ⟨front, word, hnamed⟩ := headerName?_on h
  rw [hnamed.on.1, Token.after, String.toList_ofList]
  exact ⟨hnamed.ne_nil, hnamed.word⟩

/-- The name of a header stands in front of every divert target on its line. -/
theorem headerName?_apart (h : (classify line).headerName? = some name)
    (htoken : token ∈ Divert.targets line) : Divert.Apart line name token := by
  obtain ⟨front, word, hnamed⟩ := headerName?_on h
  obtain ⟨before, mark, gap, target, hmark, hgap, htarget⟩ := Divert.targets_on htoken
  -- The arrow begins behind the name, which holds no mark.
  have hbehind : ¬ before.length < (front ++ word).length := by
    intro hlt
    obtain ⟨-, back, hline⟩ := hnamed.on
    obtain ⟨-, tail, hsame⟩ := htarget
    have hmark? : (front ++ word ++ back)[before.length]? = some mark := by
      rw [← hline, hsame]
      simp
    rw [List.getElem?_append_left hlt] at hmark?
    rcases List.mem_append.mp (List.mem_of_getElem? hmark?) with hfront | hword
    · exact hnamed.unmarked mark hfront hmark
    · exact unmarked_isWord mark (hnamed.word mark hword) hmark
  have hpos := List.length_pos_iff.mpr hgap
  rw [Divert.Apart, hnamed.on.stop_column, htarget.start_column]
  simp only [List.length_append, List.length_cons] at hbehind ⊢
  omega

theorem declaration_on (h : classify line = .declaration kind name) :
    ∃ front word, name.On line front word ∧ word ≠ [] := by
  have hshape : classify line ≠ .other := by
    rw [h]
    nofun
  rcases classify_cases hshape with hheader | ⟨path, -, hpath⟩ | ⟨found, hfound⟩
  · rw [h] at hheader
    cases (header?_iff.mp hheader).2
  · rw [h] at hpath
    cases hpath
  · rw [h] at hfound
    obtain ⟨_, hdeclares, heq⟩ := declaration?_eq_some_iff.mp hfound
    cases heq
    obtain ⟨indent, gap, word, between, rest, rfl, -, -, -, hne, -, -, rfl⟩ := hdeclares
    exact ⟨_, word, ⟨rfl, between ++ '=' :: rest, by simp⟩, hne⟩

end LineShape

end InkWorkspace
