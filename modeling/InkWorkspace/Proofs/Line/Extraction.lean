import InkWorkspace.Proofs.Line.Target
import InkWorkspace.Proofs.Text.Column
import Mathlib.Data.List.Forall2

/- Which diverts the scan of a line finds: all of them, each one once. What a divert is does not mention
   the scan: at some position of the code stand an arrow and blanks, and behind them a target begins
   (`StandsAt`). The token is the longest target there (`Longest`).

   The scan jumps behind every divert it finds. It misses none by that, as the text of a divert holds no
   second arrow: behind its mark stand the point, which begins an arrow only in front of another point,
   and blanks, words and dots, which begin none (`at?_behind`). So the scan finds what looking at every
   position finds (`scan_eq`), and `targets_found` says what that is. -/
namespace InkWorkspace

open Text

namespace Token

/-- The token is the piece `word` of the line behind `front`, and its span counts the bytes up to both
    ends of it. These lie between characters, since both pieces are texts. -/
structure Spans (line front word : List Char) (token : Token) : Prop where
  text : token.text = String.ofList word
  start : token.start = (String.ofList front).utf8ByteSize
  stop : token.stop = (String.ofList (front ++ word)).utf8ByteSize
  on : front ++ word <+: line

theorem On.spans {line front word : List Char} {token : Token} (h : token.On line front word) :
    token.Spans line front word := by
  obtain ⟨rfl, back, rfl⟩ := h
  refine ⟨rfl, utf8Length_eq front, ?_, List.prefix_append _ _⟩
  rw [← utf8Length_eq, utf8Length_append]
  rfl

theorem Spans.start_lt_stop {line front word : List Char} {token : Token}
    (h : token.Spans line front word) (hword : word ≠ []) : token.start < token.stop := by
  obtain ⟨c, rest, rfl⟩ := List.exists_cons_of_ne_nil hword
  have hpos := c.utf8Size_pos
  rw [h.start, h.stop, ← utf8Length_eq, ← utf8Length_eq, utf8Length_append, utf8Length_cons]
  omega

end Token

namespace Divert

/-! ## Diverts as they are written -/

/-- Words with single dots between them. -/
inductive Dotted : List Char → Prop where
  | word {word : List Char} : word ≠ [] → (∀ c ∈ word, isWord c = true) → Dotted word
  | group {word rest : List Char} : word ≠ [] → (∀ c ∈ word, isWord c = true) → Dotted rest →
      Dotted (word ++ '.' :: rest)

/-- An optional dot, a word and any number of groups of a dot and a word. -/
def IsTarget (cs : List Char) : Prop :=
  Dotted cs ∨ ∃ rest, cs = '.' :: rest ∧ Dotted rest

/-- A target begins here: an optional dot and the first character of a word. -/
def TargetBegins (cs : List Char) : Prop :=
  ∃ c rest, isWord c = true ∧ (cs = c :: rest ∨ cs = '.' :: c :: rest)

/-- The longest target at the start of the text. -/
structure Longest (word cs : List Char) : Prop where
  target : IsTarget word
  starts : word <+: cs
  longest : ∀ other, IsTarget other → other <+: cs → other <+: word

/-- At this position of the code begin an arrow and blanks, and `rest` follows. -/
def ArrowAt (code : List Char) (position : Nat) (gap rest : List Char) : Prop :=
  ∃ mark point, code.drop position = mark :: point :: (gap ++ rest) ∧ IsArrow mark point ∧
    ∀ c ∈ gap, isBlank c = true

/-- A divert stands at this position of the code. -/
def StandsAt (code : List Char) (position : Nat) : Prop :=
  ∃ gap rest, ArrowAt code position gap rest ∧ TargetBegins rest

/-- The token is the target of the divert at this position of the line's code. -/
def TargetOf (line code : List Char) (position : Nat) (token : Token) : Prop :=
  ∃ gap word back, ArrowAt code position gap (word ++ back) ∧ Longest word (word ++ back) ∧
    token.Spans line (code.take (position + 2) ++ gap) word

/-- The code of a line is all in front of its first two slashes, or the whole line. -/
def IsCode (line code : List Char) : Prop :=
  (code = line ∧ ¬ ['/', '/'] <:+: line) ∨
    (∃ comment, line = code ++ ['/', '/'] ++ comment) ∧
      ∀ front back, line = front ++ ['/', '/'] ++ back → code.length ≤ front.length

/-! ## The longest target -/

theorem Dotted.ne_nil {cs : List Char} (h : Dotted cs) : cs ≠ [] := by
  cases h with
  | word hne => exact hne
  | group hne => simp [hne]

theorem Dotted.begins {cs : List Char} (h : Dotted cs) :
    ∃ c rest, cs = c :: rest ∧ isWord c = true := by
  cases h with
  | word hne hword =>
    obtain ⟨c, rest, rfl⟩ := List.exists_cons_of_ne_nil hne
    exact ⟨c, rest, rfl, hword c List.mem_cons_self⟩
  | @group word rest hne hword _ =>
    obtain ⟨c, more, rfl⟩ := List.exists_cons_of_ne_nil hne
    exact ⟨c, more ++ '.' :: rest, rfl, hword c List.mem_cons_self⟩

theorem IsTarget.ne_nil {cs : List Char} (h : IsTarget cs) : cs ≠ [] := by
  rcases h with h | ⟨rest, rfl, -⟩
  · exact h.ne_nil
  · exact List.cons_ne_nil _ _

theorem Dotted.cons {c : Char} (hc : isWord c = true) {cs : List Char} (h : Dotted cs) :
    Dotted (c :: cs) := by
  have hmore {word : List Char} (hword : ∀ d ∈ word, isWord d = true) :
      ∀ d ∈ c :: word, isWord d = true := by
    intro d hd
    rcases List.mem_cons.mp hd with rfl | hd
    · exact hc
    · exact hword d hd
  cases h with
  | word hne hword => exact .word (List.cons_ne_nil _ _) (hmore hword)
  | group hne hword hrest => exact .group (List.cons_ne_nil _ _) (hmore hword) hrest

theorem isTarget_dottedRun {cs : List Char} (h : dottedRun cs ≠ []) : IsTarget (dottedRun cs) := by
  have single {c : Char} (hc : isWord c = true) : ∀ d ∈ [c], isWord d = true := by
    intro d hd
    rw [List.mem_singleton.mp hd]
    exact hc
  fun_induction dottedRun cs with
  | case1 => exact absurd rfl h
  | case2 c hword => exact Or.inl (.word (List.cons_ne_nil _ _) (single hword))
  | case3 c hword => exact absurd rfl h
  | case4 c d cs hgoes ih =>
    simp only [Bool.or_eq_true, Bool.and_eq_true, beq_iff_eq] at hgoes
    rcases hgoes with hc | ⟨rfl, hd⟩
    · -- A word character in front of nothing, of a word or of a group.
      by_cases hrun : dottedRun (d :: cs) = []
      · rw [hrun]
        exact Or.inl (.word (List.cons_ne_nil _ _) (single hc))
      · rcases ih hrun with hdotted | ⟨rest, hrest, hdotted⟩
        · exact Or.inl (hdotted.cons hc)
        · rw [hrest]
          exact Or.inl (.group (List.cons_ne_nil c []) (single hc) hdotted)
    · -- A dot in front of a word.
      have hrun := dottedRun_word hd cs
      rcases ih (by simp [hrun]) with hdotted | ⟨rest, hrest, -⟩
      · exact Or.inr ⟨_, rfl, hdotted⟩
      · rw [hrun] at hrest
        obtain ⟨rfl, -⟩ := List.cons.inj hrest
        rw [isWord_dot] at hd
        cases hd
  | case5 c d cs hstops => exact absurd rfl h

theorem dottedRun_word_append {word : List Char} (h : ∀ c ∈ word, isWord c = true)
    (back : List Char) : dottedRun (word ++ back) = word ++ dottedRun back := by
  induction word with
  | nil => rfl
  | cons c word ih =>
    rw [List.cons_append, dottedRun_word (h c List.mem_cons_self),
      ih fun d hd => h d (List.mem_cons_of_mem c hd), List.cons_append]

theorem dottedRun_dot_word {c : Char} (h : isWord c = true) (cs : List Char) :
    dottedRun ('.' :: c :: cs) = '.' :: dottedRun (c :: cs) := by
  simp [dottedRun, h]

theorem Dotted.prefix_dottedRun {target : List Char} (h : Dotted target) (back : List Char) :
    target <+: dottedRun (target ++ back) := by
  induction h with
  | word _ hword =>
    rw [dottedRun_word_append hword]
    exact List.prefix_append _ _
  | @group word rest _ hword hrest ih =>
    obtain ⟨c, more, rfl, hc⟩ := hrest.begins
    rw [List.append_assoc, dottedRun_word_append hword, List.cons_append, List.cons_append,
      dottedRun_dot_word hc, ← List.cons_append]
    exact (List.prefix_append_right_inj word).mpr ((List.prefix_cons_inj '.').mpr ih)

/-- No target at the start of a text is longer than what the scan takes. -/
theorem IsTarget.prefix_dottedRun {target : List Char} (h : IsTarget target) (back : List Char) :
    target <+: dottedRun (target ++ back) := by
  rcases h with h | ⟨rest, rfl, h⟩
  · exact h.prefix_dottedRun back
  · have hrun := h.prefix_dottedRun back
    obtain ⟨c, more, rfl, hc⟩ := h.begins
    rw [List.cons_append, List.cons_append, dottedRun_dot_word hc, ← List.cons_append]
    exact (List.prefix_cons_inj '.').mpr hrun

theorem target?_iff_longest {cs word : List Char} : target? cs = some word ↔ Longest word cs := by
  have hstarts : dottedRun cs <+: cs := by
    obtain ⟨back, hback⟩ := dottedRun_append cs
    exact ⟨back, hback.symm⟩
  have hlongest (other : List Char) (h : IsTarget other) (hother : other <+: cs) :
      other <+: dottedRun cs := by
    obtain ⟨back, rfl⟩ := hother
    exact h.prefix_dottedRun back
  rw [target?_eq_some_iff]
  constructor
  · intro h
    obtain ⟨hne, rfl⟩ := h
    exact ⟨isTarget_dottedRun hne, hstarts, hlongest⟩
  · intro h
    have hword := hlongest word h.target h.starts
    have hne : dottedRun cs ≠ [] := fun hnil =>
      h.target.ne_nil (List.prefix_nil.mp (hnil ▸ hword))
    have hrun := h.longest _ (isTarget_dottedRun hne) hstarts
    exact ⟨h.target.ne_nil, hrun.eq_of_length_le hword.length_le⟩

theorem target?_isSome_iff {cs : List Char} : (target? cs).isSome = true ↔ TargetBegins cs := by
  rw [Option.isSome_iff_exists]
  constructor
  · intro h
    obtain ⟨word, hword⟩ := h
    have hlongest := target?_iff_longest.mp hword
    obtain ⟨back, rfl⟩ := hlongest.starts
    rcases hlongest.target with hdotted | ⟨rest, rfl, hdotted⟩
    · obtain ⟨c, more, rfl, hc⟩ := hdotted.begins
      exact ⟨c, more ++ back, hc, Or.inl rfl⟩
    · obtain ⟨c, more, rfl, hc⟩ := hdotted.begins
      exact ⟨c, more ++ back, hc, Or.inr rfl⟩
  · intro h
    obtain ⟨c, rest, hc, rfl | rfl⟩ := h
    · exact ⟨_, target?_eq_some_iff.mpr ⟨by rw [dottedRun_word hc]; simp, rfl⟩⟩
    · exact ⟨_, target?_eq_some_iff.mpr ⟨by rw [dottedRun_dot_word hc]; simp, rfl⟩⟩

/-! ## The scan -/

theorem not_isMark {c : Char} (h : isBlank c = true ∨ isWordOrDot c = true) : ¬ IsMark c := by
  intro hmark
  rcases hmark with rfl | rfl
  · revert h
    decide
  · revert h
    decide

theorem at?_eq_none_of_head {cs : List Char} (h : ∀ c ∈ cs.head?, ¬ IsMark c) : at? cs = none := by
  refine Option.eq_none_iff_forall_ne_some.mpr ?_
  intro ⟨arrow, word⟩ hat
  obtain ⟨mark, point, gap, rest, rfl, hpair, -⟩ := at?_eq_some_iff.mp hat
  exact h mark rfl hpair.isMark

/-- The point of an arrow begins an arrow only in front of another point. -/
theorem at?_point {mark point c : Char} (hpair : IsArrow mark point)
    (hc : isBlank c = true ∨ isWordOrDot c = true) (rest : List Char) :
    at? (point :: c :: rest) = none := by
  refine Option.eq_none_iff_forall_ne_some.mpr ?_
  intro ⟨arrow, word⟩ hat
  obtain ⟨mark', point', gap, more, heq, hpair', -⟩ := at?_eq_some_iff.mp hat
  obtain ⟨rfl, hmore⟩ := List.cons.inj heq
  obtain ⟨rfl, -⟩ := List.cons.inj hmore
  rcases hpair with ⟨rfl, rfl⟩ | ⟨rfl, rfl⟩
  · rcases hpair' with ⟨hmark, -⟩ | ⟨hmark, -⟩ <;> cases hmark
  · rcases hpair' with ⟨-, rfl⟩ | ⟨hmark, -⟩
    · revert hc
      decide
    · cases hmark

/-- Behind the mark of a divert no other one begins up to the end of its target. -/
theorem at?_behind {c : Char} {cs arrow word : List Char} (h : at? (c :: cs) = some (arrow, word))
    {skip : Nat} (hskip : skip + 1 < arrow.length + word.length) : at? (cs.drop skip) = none := by
  obtain ⟨mark, point, gap, rest, hcs, hpair, hgap, rfl, htarget⟩ := at?_eq_some_iff.mp h
  obtain ⟨back, rfl⟩ := target?_append htarget
  obtain ⟨rfl, rfl⟩ := List.cons.inj hcs
  have hword : ∀ d ∈ word, isWordOrDot d = true := by
    intro d hd
    rw [← (target?_eq_some_iff.mp htarget).2] at hd
    exact isWordOrDot_of_mem_dottedRun hd
  have hbehind : ∀ d ∈ gap ++ word, isBlank d = true ∨ isWordOrDot d = true := by
    intro d hd
    rcases List.mem_append.mp hd with hd | hd
    · exact Or.inl (hgap d hd)
    · exact Or.inr (hword d hd)
  have hsplit : gap ++ (word ++ back) = (gap ++ word) ++ back := by rw [List.append_assoc]
  rw [hsplit]
  -- The second character of the mark stands first, and behind it blanks and the target.
  cases skip with
  | zero =>
    obtain ⟨d, more, hmore⟩ := List.exists_cons_of_ne_nil
      (List.append_ne_nil_of_right_ne_nil gap (target?_eq_some_iff.mp htarget).1)
    rw [hmore]
    exact at?_point hpair (hbehind d (hmore ▸ List.mem_cons_self)) (more ++ back)
  | succ skip =>
    have hlt : skip < (gap ++ word).length := by
      simp only [List.length_cons, List.length_append] at hskip ⊢
      omega
    refine at?_eq_none_of_head ?_
    intro d hd
    rw [List.drop_succ_cons, List.head?_drop, List.getElem?_append_left hlt] at hd
    exact not_isMark (hbehind d (List.mem_of_getElem? hd))

/-- The target of a divert at a position of a text that stands behind `before`. -/
def tokenAt? (before cs : List Char) (position : Nat) : Option Token :=
  (at? (cs.drop position)).map fun (arrow, word) =>
    Token.after (before ++ cs.take position ++ arrow) word

theorem passes_none (cs : List Char) : ∀ position < 0, at? (cs.drop position) = none := by
  intro position hposition
  exact absurd hposition (Nat.not_lt_zero position)

/-- The scan finds what looking at every position finds, if nothing begins where it is to pass over. -/
theorem scan_eq (before : List Char) (skip : Nat) (cs : List Char)
    (h : ∀ position < skip, at? (cs.drop position) = none) :
    scan before skip cs = (List.range cs.length).filterMap (tokenAt? before.reverse cs) := by
  induction cs generalizing before skip with
  | nil => cases skip <;> rfl
  | cons c cs ih =>
    have hbehind (position : Nat) : tokenAt? before.reverse (c :: cs) (position + 1) =
        tokenAt? (c :: before).reverse cs position := by
      simp [tokenAt?]
    have hrest : (List.range cs.length).filterMap
        (fun position => tokenAt? before.reverse (c :: cs) (position + 1)) =
          (List.range cs.length).filterMap (tokenAt? (c :: before).reverse cs) := by
      simp only [hbehind]
    rw [List.length_cons, List.range_succ_eq_map, List.filterMap_cons, List.filterMap_map]
    cases skip with
    | succ skip =>
      have hfirst : tokenAt? before.reverse (c :: cs) 0 = none := by
        simpa [tokenAt?] using h 0 (Nat.succ_pos skip)
      rw [hfirst]
      refine (ih (c :: before) skip ?_).trans hrest.symm
      exact fun position hposition => h (position + 1) (Nat.succ_lt_succ hposition)
    | zero =>
      cases hat : at? (c :: cs) with
      | none =>
        have hfirst : tokenAt? before.reverse (c :: cs) 0 = none := by simp [tokenAt?, hat]
        simp only [scan, hat, hfirst]
        exact (ih (c :: before) 0 (passes_none _)).trans hrest.symm
      | some found =>
        obtain ⟨arrow, word⟩ := found
        have hfirst : tokenAt? before.reverse (c :: cs) 0 =
            some (Token.after (before.reverse ++ arrow) word) := by
          simp [tokenAt?, hat]
        -- Up to the end of the target nothing else begins, so what the scan passes over holds none.
        simp only [scan, hat, hfirst, List.cons.injEq, true_and]
        refine (ih (c :: before) _ ?_).trans hrest.symm
        intro position hposition
        exact at?_behind hat (by omega)

/-! ## What stands at a position -/

theorem standsAt_iff {code : List Char} {position : Nat} :
    StandsAt code position ↔ (at? (code.drop position)).isSome = true := by
  constructor
  · intro h
    obtain ⟨gap, rest, ⟨mark, point, hcode, hpair, hgap⟩, hbegins⟩ := h
    obtain ⟨word, htarget⟩ := Option.isSome_iff_exists.mp (target?_isSome_iff.mpr hbegins)
    rw [at?_eq_some_iff.mpr ⟨mark, point, gap, rest, hcode, hpair, hgap, rfl, htarget⟩]
    rfl
  · intro h
    obtain ⟨⟨arrow, word⟩, hat⟩ := Option.isSome_iff_exists.mp h
    obtain ⟨mark, point, gap, rest, hcode, hpair, hgap, -, htarget⟩ := at?_eq_some_iff.mp hat
    exact ⟨gap, rest, ⟨mark, point, hcode, hpair, hgap⟩,
      target?_isSome_iff.mp (by rw [htarget]; rfl)⟩

theorem StandsAt.lt_length {code : List Char} {position : Nat} (h : StandsAt code position) :
    position < code.length := by
  obtain ⟨gap, rest, ⟨mark, point, hcode, -⟩, -⟩ := h
  have hlength := congrArg List.length hcode
  simp only [List.length_drop, List.length_cons] at hlength
  omega

theorem targetOf_of_tokenAt? {code : List Char} {position : Nat} {token : Token}
    (h : tokenAt? [] code position = some token) (tail : List Char) :
    TargetOf (code ++ tail) code position token := by
  obtain ⟨⟨arrow, word⟩, hat, rfl⟩ := Option.map_eq_some_iff.mp h
  obtain ⟨mark, point, gap, rest, hcode, hpair, hgap, rfl, htarget⟩ := at?_eq_some_iff.mp hat
  have hlongest := target?_iff_longest.mp htarget
  obtain ⟨back, rfl⟩ := hlongest.starts
  have htake : code.take (position + 2) = code.take position ++ [mark, point] := by
    rw [List.take_add, hcode]
    rfl
  have hsplit : code = code.take position ++ mark :: point :: (gap ++ (word ++ back)) := by
    rw [← hcode, List.take_append_drop]
  have hon : (Token.after (code.take position ++ mark :: point :: gap) word).On (code ++ tail)
      (code.take (position + 2) ++ gap) word := by
    refine ⟨by simp [htake], back ++ tail, ?_⟩
    rw [htake]
    conv => lhs; rw [hsplit]
    simp
  exact ⟨gap, word, back, ⟨mark, point, hcode, hpair, hgap⟩, hlongest, hon.spans⟩

theorem isCode_codeOf (line : List Char) : IsCode line (codeOf line) := by
  unfold codeOf
  split
  · next code comment hcut =>
    refine Or.inr ⟨⟨comment, eq_of_cutAt? hcut⟩, ?_⟩
    intro front back hline
    subst hline
    exact cutAt?_first hcut
  · next hcut =>
    refine Or.inl ⟨rfl, fun hslashes => ?_⟩
    have hoccurs := occursIn_iff.mpr hslashes
    rw [occursIn, show cutAt? ['/', '/'] line = none from hcut] at hoccurs
    cases hoccurs

theorem forall₂_filterMap {α β : Type} (f : α → Option β) (positions : List α) :
    List.Forall₂ (fun a b => f a = some b) (positions.filter fun a => (f a).isSome)
      (positions.filterMap f) := by
  induction positions with
  | nil => exact .nil
  | cons a positions ih =>
    cases h : f a with
    | none => simpa [h] using ih
    | some b => simpa [h] using ih

/-- The targets of a line are those of the diverts that stand in its code, one for each position and from
    left to right. Each is the longest target there. They do not overlap. -/
theorem targets_found (line : List Char) :
    IsCode line (codeOf line) ∧
    (∃ positions : List Nat, positions.Pairwise (· < ·) ∧
      (∀ position, position ∈ positions ↔ StandsAt (codeOf line) position) ∧
      List.Forall₂ (TargetOf line (codeOf line)) positions (targets line)) ∧
    (∀ token ∈ targets line, token.start < token.stop) ∧
    (targets line).Pairwise fun a b => a.stop < b.start := by
  obtain ⟨tail, htail⟩ := codeOf_append line
  have hscan : targets line =
      (List.range (codeOf line).length).filterMap (tokenAt? [] (codeOf line)) :=
    scan_eq [] 0 (codeOf line) (passes_none _)
  have hfound := forall₂_filterMap (tokenAt? [] (codeOf line)) (List.range (codeOf line).length)
  rw [← hscan] at hfound
  have htarget {position : Nat} {token : Token}
      (h : tokenAt? [] (codeOf line) position = some token) :
      TargetOf line (codeOf line) position token := by
    have := targetOf_of_tokenAt? h tail
    rwa [← htail] at this
  refine ⟨isCode_codeOf line, ⟨_, ?_, ?_, hfound.imp fun _ _ h => htarget h⟩, ?_, ?_⟩
  · exact List.pairwise_lt_range.filter _
  · intro position
    rw [List.mem_filter, List.mem_range, tokenAt?, Option.isSome_map, ← standsAt_iff]
    exact ⟨And.right, fun h => ⟨h.lt_length, h⟩⟩
  · intro token htoken
    rw [hscan] at htoken
    obtain ⟨position, -, hposition⟩ := List.mem_filterMap.mp htoken
    obtain ⟨gap, word, back, -, hlongest, hspans⟩ := htarget hposition
    exact hspans.start_lt_stop hlongest.target.ne_nil
  · refine (targets_apart line).imp fun {a b} hapart => ?_
    by_contra hle
    have := columnOfByte_mono line (Nat.le_of_not_lt hle)
    unfold Apart at hapart
    omega

-- A tunnel that leads on, a thread behind a bracket, a dot behind a target, and a comment.
example : (targets "é ->-> a.b. <->.c // -> d".toList).map (·.text) = ["a.b", ".c"] := by
  decide +kernel

end Divert

end InkWorkspace
