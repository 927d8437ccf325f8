import InkWorkspace.Line.Divert
import InkWorkspace.Position
import InkWorkspace.Proofs.Text.Scan

/- Tokens and diverts on a line. The target of a divert stands behind an arrow, and the scan for the next
   one begins behind the target. So two targets on a line are at least two columns apart
   (`targets_apart`): no column belongs to two of them, even if the column right behind a target counts
   as its own. -/
namespace InkWorkspace

open Text

/-! ## Tokens -/

namespace Token

/-- The token is the piece `word` of the line, with `front` in front of it. -/
def On (line front word : List Char) (token : Token) : Prop :=
  token = after front word ∧ ∃ back, line = front ++ word ++ back

variable {line front word : List Char} {token : Token}

theorem On.append (h : token.On line front word) (tail : List Char) :
    token.On (line ++ tail) front word := by
  obtain ⟨htoken, back, rfl⟩ := h
  exact ⟨htoken, back ++ tail, by simp⟩

theorem On.start_column (h : token.On line front word) :
    columnOfByte line token.start = front.length := by
  obtain ⟨rfl, back, rfl⟩ := h
  rw [List.append_assoc]
  exact columnOfByte_append front (word ++ back)

theorem On.stop_column (h : token.On line front word) :
    columnOfByte line token.stop = front.length + word.length := by
  obtain ⟨rfl, back, rfl⟩ := h
  simp only [after, ← utf8Length_append, ← List.length_append]
  exact columnOfByte_append (front ++ word) back

end Token

/-! ## Diverts -/

namespace Divert

/-- The first character of an arrow. -/
def IsMark (c : Char) : Prop := c = '-' ∨ c = '<'

/-- The two characters of an arrow. -/
def IsArrow (mark point : Char) : Prop :=
  mark = '-' ∧ point = '>' ∨ mark = '<' ∧ point = '-'

theorem IsArrow.isMark {mark point : Char} (h : IsArrow mark point) : IsMark mark :=
  h.imp And.left And.left

theorem dropArrow?_eq_some_iff {cs rest : List Char} :
    dropArrow? cs = some rest ↔ ∃ mark point, IsArrow mark point ∧ cs = mark :: point :: rest := by
  constructor
  · intro h
    unfold dropArrow? at h
    split at h
    · cases h
      exact ⟨'-', '>', Or.inl ⟨rfl, rfl⟩, rfl⟩
    · cases h
      exact ⟨'<', '-', Or.inr ⟨rfl, rfl⟩, rfl⟩
    · cases h
  · rintro ⟨mark, point, ⟨rfl, rfl⟩ | ⟨rfl, rfl⟩, rfl⟩ <;> rfl

theorem dottedRun_append (cs : List Char) : ∃ back, cs = dottedRun cs ++ back := by
  fun_induction dottedRun cs with
  | case1 => exact ⟨[], rfl⟩
  | case2 c h => exact ⟨[], rfl⟩
  | case3 c h => exact ⟨[c], rfl⟩
  | case4 c d cs h ih =>
    obtain ⟨back, hback⟩ := ih
    exact ⟨back, by rw [List.cons_append, ← hback]⟩
  | case5 c d cs h => exact ⟨c :: d :: cs, rfl⟩

theorem target?_append {cs target : List Char} (h : target? cs = some target) :
    ∃ back, cs = target ++ back := by
  obtain ⟨back, hback⟩ := dottedRun_append cs
  unfold target? at h
  split at h
  · cases h
  · cases h
    exact ⟨back, hback⟩

/-- A divert at the start of a text is an arrow, a mark and more, and a target behind it. -/
theorem at?_cases {cs arrow target : List Char} (h : at? cs = some (arrow, target)) :
    ∃ mark gap back, IsMark mark ∧ gap ≠ [] ∧ arrow = mark :: gap ∧ cs = arrow ++ target ++ back := by
  unfold at? at h
  obtain ⟨rest, harrow, h⟩ := Option.bind_eq_some_iff.mp h
  obtain ⟨found, htarget, h⟩ := Option.bind_eq_some_iff.mp h
  obtain ⟨mark, point, hpair, rfl⟩ := dropArrow?_eq_some_iff.mp harrow
  obtain ⟨back, hback⟩ := target?_append htarget
  cases h
  refine ⟨mark, point :: rest.takeWhile isBlank, back, hpair.isMark, by simp, rfl, ?_⟩
  have hrest : rest = rest.takeWhile isBlank ++ (target ++ back) := by
    rw [← hback]
    exact List.takeWhile_append_dropWhile.symm
  simpa using hrest

theorem mem_scan {before cs : List Char} {skip : Nat} {token : Token}
    (h : token ∈ scan before skip cs) :
    ∃ front back arrow word, cs = front ++ back ∧ skip ≤ front.length ∧
      at? back = some (arrow, word) ∧ token = .after (before.reverse ++ front ++ arrow) word := by
  induction cs generalizing before skip with
  | nil => cases skip <;> cases h
  | cons c cs ih =>
    -- What is found behind the first character is found in the whole text.
    have step {skip rest : Nat} (hskip : skip ≤ rest + 1) (h : token ∈ scan (c :: before) rest cs) :
        ∃ front back arrow word, c :: cs = front ++ back ∧ skip ≤ front.length ∧
          at? back = some (arrow, word) ∧
          token = .after (before.reverse ++ front ++ arrow) word := by
      obtain ⟨front, back, arrow, word, rfl, hle, hat, rfl⟩ := ih h
      refine ⟨c :: front, back, arrow, word, rfl, ?_, hat, ?_⟩
      · rw [List.length_cons]
        omega
      · simp
    cases skip with
    | succ skip => exact step (Nat.le_refl _) h
    | zero =>
      simp only [scan] at h
      split at h
      · next arrow word hat =>
        rcases List.mem_cons.mp h with rfl | h
        · exact ⟨[], c :: cs, arrow, word, rfl, Nat.le_refl 0, hat, by simp⟩
        · exact step (Nat.zero_le _) h
      · exact step (Nat.zero_le _) h

/-- A target that a scan finds stands behind an arrow, and the arrow behind all that was read or is
    still to be passed over. -/
theorem scan_on {before cs : List Char} {skip : Nat} {token : Token}
    (h : token ∈ scan before skip cs) :
    ∃ front mark gap word, IsMark mark ∧ gap ≠ [] ∧
      token.On (before.reverse ++ cs) (front ++ mark :: gap) word ∧
      before.length + skip ≤ front.length := by
  obtain ⟨front, found, arrow, word, rfl, hle, hat, rfl⟩ := mem_scan h
  obtain ⟨mark, gap, back, hmark, hgap, rfl, rfl⟩ := at?_cases hat
  refine ⟨before.reverse ++ front, mark, gap, word, hmark, hgap, ⟨rfl, back, by simp⟩, ?_⟩
  rw [List.length_append, List.length_reverse]
  omega

/-- The first token ends before the arrow of the second one begins. -/
def Apart (line : List Char) (a b : Token) : Prop :=
  columnOfByte line a.stop + 2 ≤ columnOfByte line b.start

theorem scan_apart (before : List Char) (skip : Nat) (cs tail : List Char) :
    (scan before skip cs).Pairwise (Apart (before.reverse ++ cs ++ tail)) := by
  induction cs generalizing before skip with
  | nil => cases skip <;> exact List.Pairwise.nil
  | cons c cs ih =>
    have hline : (c :: before).reverse ++ cs = before.reverse ++ c :: cs := by simp
    cases skip with
    | succ skip =>
      rw [← hline]
      exact ih (c :: before) skip
    | zero =>
      simp only [scan]
      split
      · next arrow target hat =>
        obtain ⟨mark, gap, back, -, -, harrow, hcs⟩ := at?_cases hat
        rw [List.pairwise_cons]
        refine ⟨fun token htoken => ?_, hline ▸ ih (c :: before) _⟩
        obtain ⟨front, _, _, word, -, hgap, hon, hle⟩ := scan_on htoken
        rw [hline] at hon
        -- The scan goes on behind the whole divert.
        have hfirst : (Token.after (before.reverse ++ arrow) target).On
            (before.reverse ++ c :: cs) (before.reverse ++ arrow) target :=
          ⟨rfl, back, by rw [hcs]; simp⟩
        have hpos := List.length_pos_iff.mpr hgap
        rw [Apart, (hfirst.append tail).stop_column, (hon.append tail).start_column]
        simp [harrow] at hle ⊢
        omega
      · rw [← hline]
        exact ih (c :: before) 0

/-- A line comment begins where the code ends. -/
theorem codeOf_comment (line : List Char) :
    line = codeOf line ∨ ∃ comment, line = codeOf line ++ '/' :: '/' :: comment := by
  unfold codeOf
  split
  · next code rest hcut =>
    refine Or.inr ⟨rest, ?_⟩
    rw [eq_of_cutAt? hcut, List.append_assoc]
    rfl
  · exact Or.inl rfl

theorem codeOf_append (line : List Char) : ∃ tail, line = codeOf line ++ tail := by
  rcases codeOf_comment line with hline | ⟨comment, hline⟩
  · exact ⟨[], by rw [List.append_nil, ← hline]⟩
  · exact ⟨_, hline⟩

/-- The targets on a line are apart, from left to right. -/
theorem targets_apart (line : List Char) : (targets line).Pairwise (Apart line) := by
  obtain ⟨tail, htail⟩ := codeOf_append line
  have h := scan_apart [] 0 (codeOf line) tail
  rwa [List.reverse_nil, List.nil_append, ← htail] at h

theorem targets_on {line : List Char} {token : Token} (h : token ∈ targets line) :
    ∃ front mark gap word, IsMark mark ∧ gap ≠ [] ∧ token.On line (front ++ mark :: gap) word := by
  obtain ⟨tail, htail⟩ := codeOf_append line
  obtain ⟨front, mark, gap, word, hmark, hgap, hon, -⟩ := scan_on h
  have hline := hon.append tail
  rw [List.reverse_nil, List.nil_append, ← htail] at hline
  exact ⟨front, mark, gap, word, hmark, hgap, hline⟩

end Divert

end InkWorkspace
