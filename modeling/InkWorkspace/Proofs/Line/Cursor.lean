import InkWorkspace.Line.Cursor
import InkWorkspace.Proofs.Line.Target
import InkWorkspace.Proofs.Text.Column

/- What a cursor in a divert target reads.

   The look-up key is put together from the text on both sides of the cursor. In front of the cursor
   the arrow of the target is the first one behind which only blanks, words and dots stand
   (`openDivert?_append`): a character of an arrow is none of these. Behind the cursor the run goes on
   to the end of the target, and past it only from a dot on, which ends the first segment. So the key
   is the one of the target, at every column (`divertKey?_of_cut`).

   The word under the cursor is the maximal run of words and dots around it (`wordAt?_of_run`). It is
   the target, unless a dot follows directly. -/
namespace InkWorkspace

open Text

namespace Cursor

open Divert (IsArrow)

/-! ## The key of a divert -/

theorem IsArrow.not_isWordOrDot {mark point : Char} (h : IsArrow mark point) :
    isBlank point = false ∧ isWordOrDot point = false := by
  rcases h with ⟨-, rfl⟩ | ⟨-, rfl⟩ <;> exact ⟨by decide, by decide⟩

theorem isOpenDivert_eq_true_iff {cs : List Char} :
    isOpenDivert cs = true ↔ ∃ mark point rest, IsArrow mark point ∧ cs = mark :: point :: rest ∧
      ∀ c ∈ trimLeft rest, isWordOrDot c = true := by
  unfold isOpenDivert
  cases hdrop : Divert.dropArrow? cs with
  | none =>
    constructor
    · intro h
      cases h
    · rintro ⟨mark, point, rest, hpair, rfl, -⟩
      rw [Divert.dropArrow?_eq_some_iff.mpr ⟨mark, point, hpair, rfl⟩] at hdrop
      cases hdrop
  | some rest =>
    obtain ⟨mark, point, hpair, rfl⟩ := Divert.dropArrow?_eq_some_iff.mp hdrop
    constructor
    · intro h
      exact ⟨mark, point, rest, hpair, rfl, List.all_eq_true.mp h⟩
    · rintro ⟨_, _, _, -, heq, hall⟩
      cases heq
      exact List.all_eq_true.mpr hall

/-- A divert is not open if another arrow begins behind the first character of its own. -/
theorem isOpenDivert_arrow_behind {mark point : Char} (h : IsArrow mark point) (c : Char)
    (front rest : List Char) : isOpenDivert (c :: (front ++ mark :: point :: rest)) = false := by
  rw [← Bool.not_eq_true, isOpenDivert_eq_true_iff]
  rintro ⟨first, second, behind, -, heq, hall⟩
  obtain ⟨hblank, hword⟩ := IsArrow.not_isWordOrDot h
  have hmem : point ∈ behind := by
    obtain ⟨-, hrest⟩ := List.cons.inj heq
    cases front with
    | nil =>
      obtain ⟨-, rfl⟩ := List.cons.inj hrest
      exact List.mem_cons_self
    | cons d front =>
      obtain ⟨-, rfl⟩ := List.cons.inj hrest
      simp
  -- The blanks that are dropped are not the arrow's.
  have hkept : point ∈ trimLeft behind := by
    rw [← List.takeWhile_append_dropWhile (p := isBlank) (l := behind)] at hmem
    rcases List.mem_append.mp hmem with hgap | hkept
    · have := List.all_eq_true.mp List.all_takeWhile point hgap
      rw [hblank] at this
      cases this
    · exact hkept
  have := hall point hkept
  rw [hword] at this
  cases this

/-- The open divert in front of a cursor begins at the last arrow. -/
theorem openDivert?_append {mark point : Char} (h : IsArrow mark point) {rest : List Char}
    (hrest : ∀ c ∈ trimLeft rest, isWordOrDot c = true) (front : List Char) :
    openDivert? (front ++ mark :: point :: rest) = some (mark :: point :: rest) := by
  induction front with
  | nil =>
    have hopen := isOpenDivert_eq_true_iff.mpr ⟨mark, point, rest, h, rfl, hrest⟩
    rw [List.nil_append, openDivert?, if_pos hopen]
  | cons c front ih =>
    rw [List.cons_append, openDivert?, isOpenDivert_arrow_behind h]
    exact ih

theorem keyOfTarget?_word {c : Char} (h : c ≠ '.') (cs : List Char) :
    keyOfTarget? (c :: cs) = some (String.ofList ((c :: cs).takeWhile (· ≠ '.'))) := by
  simp [keyOfTarget?, h]

theorem keyOfTarget?_append {word tail : List Char} (hword : word ≠ [])
    (htail : ∀ c ∈ tail.head?, c = '.') :
    keyOfTarget? (word ++ tail) = keyOfTarget? word := by
  have hnone : tail.takeWhile (· ≠ '.') = [] := by
    cases tail with
    | nil => rfl
    | cons c tail =>
      obtain rfl : c = '.' := htail c rfl
      rfl
  have htake (segment : List Char) :
      (segment ++ tail).takeWhile (· ≠ '.') = segment.takeWhile (· ≠ '.') := by
    rw [List.takeWhile_append, hnone, List.append_nil]
    split
    · next hall => exact ((List.takeWhile_sublist _).eq_of_length hall).symm
    · rfl
  cases word with
  | nil => exact absurd rfl hword
  | cons c word =>
    by_cases hdot : c = '.'
    · subst hdot
      simp only [List.cons_append, keyOfTarget?, htake]
    · rw [List.cons_append, keyOfTarget?_word hdot, ← List.cons_append, htake,
        keyOfTarget?_word hdot]

theorem keyOfTarget?_segment {name : List Char} (hne : name ≠ []) (hname : '.' ∉ name) :
    keyOfTarget? name = some (String.ofList name) ∧
      keyOfTarget? ('.' :: name) = some (String.ofList ('.' :: name)) := by
  have htake : (name ++ []).takeWhile (· ≠ '.') = name ++ [] := by
    refine List.takeWhile_append_of_pos fun c hc => ?_
    rw [decide_eq_true_eq]
    rintro rfl
    exact hname hc
  rw [List.append_nil] at htake
  constructor
  · cases name with
    | nil => exact absurd rfl hne
    | cons c name =>
      have hdot : c ≠ '.' := fun heq => hname (heq ▸ List.mem_cons_self)
      rw [keyOfTarget?_word hdot, htake]
  · simp only [keyOfTarget?, htake]
    rw [if_neg (by simpa using hne)]

theorem keyOfTarget?_pair {front : List Char} (hne : front ≠ []) (hfront : '.' ∉ front)
    (back : List Char) : keyOfTarget? (front ++ '.' :: back) = some (String.ofList front) := by
  rw [keyOfTarget?_append hne (by simp), (keyOfTarget?_segment hne hfront).1]

theorem isWordOrDot_of_target? {word back : List Char}
    (h : Divert.target? (word ++ back) = some word) : ∀ c ∈ word, isWordOrDot c = true := by
  intro c hc
  rw [← (Divert.target?_eq_some_iff.mp h).2] at hc
  exact Divert.isWordOrDot_of_mem_dottedRun hc

/-- At every column of a target, the look-up key is the one of the target. -/
theorem divertKey?_of_cut {before gap word back : List Char} {mark point : Char}
    (harrow : IsArrow mark point) (hgap : ∀ c ∈ gap, isBlank c = true)
    (htarget : Divert.target? (word ++ back) = some word) {column : Nat}
    (hstart : (before ++ mark :: point :: gap).length ≤ column)
    (hstop : column ≤ (before ++ mark :: point :: gap).length + word.length) :
    divertKey? (before ++ mark :: point :: gap ++ word ++ back) column = keyOfTarget? word := by
  obtain ⟨hne, hrun⟩ := Divert.target?_eq_some_iff.mp htarget
  have hword := isWordOrDot_of_target? htarget
  obtain ⟨k, rfl⟩ := Nat.exists_eq_add_of_le hstart
  have hk : k ≤ word.length := by omega
  -- In front of the cursor the divert is open.
  have hopen : openDivert? ((before ++ mark :: point :: gap ++ word ++ back).take
      ((before ++ mark :: point :: gap).length + k)) =
        some (mark :: point :: (gap ++ word.take k)) := by
    rw [List.append_assoc, List.take_length_add_append, List.take_append_of_le_length hk,
      List.append_assoc, List.cons_append, List.cons_append]
    apply openDivert?_append harrow
    intro c hc
    rw [trimLeft_blanks_append hgap fun c hc => hword c (List.mem_of_mem_take hc)] at hc
    exact hword c (List.mem_of_mem_take hc)
  have hbehind : ((before ++ mark :: point :: gap ++ word ++ back).drop
      ((before ++ mark :: point :: gap).length + k)).takeWhile isWordOrDot =
        word.drop k ++ back.takeWhile isWordOrDot := by
    rw [List.append_assoc, List.drop_length_add_append, List.drop_append_of_le_length hk]
    exact List.takeWhile_append_of_pos fun c hc => hword c (List.mem_of_mem_drop hc)
  -- Behind the target the run goes on only from a dot on.
  have htail : ∀ c ∈ (back.takeWhile isWordOrDot).head?, c = '.' := by
    cases back with
    | nil => intro c hc; cases hc
    | cons d back =>
      have hd : isWord d = false := Divert.isWord_behind_dottedRun (by rw [hrun])
      intro c hc
      rw [List.takeWhile_cons] at hc
      split at hc
      · next hdot =>
        cases hc
        simpa [isWordOrDot, hd] using hdot
      · cases hc
  have hdrop : Divert.dropArrow? (mark :: point :: (gap ++ word.take k)) =
      some (gap ++ word.take k) := Divert.dropArrow?_eq_some_iff.mpr ⟨mark, point, harrow, rfl⟩
  simp only [divertKey?, hopen, hdrop, hbehind, Option.bind_eq_bind, Option.bind_some]
  rw [trimLeft_blanks_append hgap fun c hc => hword c (List.mem_of_mem_take hc),
    ← List.append_assoc, List.take_append_drop, keyOfTarget?_append hne htail]

/-! ## The word under a cursor -/

/-- A character between words cuts the search for them in two. -/
theorem dottedWords_append_stop {stop : Char} (h : isWordOrDot stop = false)
    (before word cs back : List Char) :
    dottedWords before word (cs ++ stop :: back) = dottedWords before word cs ++
      dottedWords (stop :: (cs.reverse ++ (word ++ before))) [] back := by
  induction cs generalizing before word with
  | nil =>
    cases word with
    | nil => simp [dottedWords, h]
    | cons c word => simp [dottedWords, h]
  | cons c cs ih =>
    have hreverse (rest : List Char) : (c :: cs).reverse ++ rest = cs.reverse ++ c :: rest := by
      simp
    simp only [List.cons_append, dottedWords, hreverse]
    split
    · exact ih before (c :: word)
    · split
      · next hword =>
        obtain rfl : word = [] := List.isEmpty_iff.mp hword
        exact ih (c :: before) []
      · rw [ih (c :: (word ++ before)) [], List.cons_append, List.nil_append]

theorem dottedWords_run {run : List Char} (h : ∀ c ∈ run, isWordOrDot c = true)
    (before word : List Char) (hne : word.reverse ++ run ≠ []) :
    dottedWords before word run = [Token.after before.reverse (word.reverse ++ run)] := by
  induction run generalizing word with
  | nil =>
    rw [List.append_nil] at hne ⊢
    have hword : word.isEmpty = false := by simpa using hne
    rw [dottedWords, hword]
    rfl
  | cons c run ih =>
    have hmore : (c :: word).reverse ++ run = word.reverse ++ c :: run := by simp
    rw [dottedWords, if_pos (h c List.mem_cons_self),
      ih (fun d hd => h d (List.mem_cons_of_mem c hd)) (c :: word) (by simp), hmore]

theorem stop_le_of_mem_dottedWords {before word cs : List Char} {token : Token}
    (h : token ∈ dottedWords before word cs) :
    token.stop ≤ utf8Length (before.reverse ++ word.reverse ++ cs) := by
  induction cs generalizing before word with
  | nil =>
    unfold dottedWords at h
    split at h
    · cases h
    · rw [List.mem_singleton.mp h, List.append_nil, utf8Length_append]
      exact Nat.le_refl _
  | cons c cs ih =>
    unfold dottedWords at h
    split at h
    · simpa using ih h
    · split at h
      · next hword =>
        obtain rfl : word = [] := List.isEmpty_iff.mp hword
        simpa using ih h
      · rcases List.mem_cons.mp h with rfl | h
        · simp only [Token.after, utf8Length_append]
          omega
        · simpa using ih h

/-- What stands beside a word ends it: nothing, or a character that is no part of a word. -/
def Ends (beside : Option Char) : Prop :=
  ∀ c ∈ beside, isWordOrDot c = false

theorem dottedWords_run_append {run back : List Char} (h : ∀ c ∈ run, isWordOrDot c = true)
    (hne : run ≠ []) (hback : Ends back.head?) (before : List Char) :
    ∃ behind, dottedWords before [] (run ++ back) = Token.after before.reverse run :: behind := by
  have hrun : dottedWords before [] run = [Token.after before.reverse run] :=
    dottedWords_run h before [] hne
  cases back with
  | nil => exact ⟨[], by rw [List.append_nil, hrun]⟩
  | cons stop back => exact ⟨_, by rw [dottedWords_append_stop (hback stop rfl), hrun]; rfl⟩

/-- A run between two ends is a word of the text, and all words in front of it end before it. -/
theorem dottedWords_of_run {front word back : List Char} (hword : ∀ c ∈ word, isWordOrDot c = true)
    (hne : word ≠ []) (hfront : Ends front.getLast?) (hback : Ends back.head?) :
    ∃ ahead behind,
      dottedWords [] [] (front ++ word ++ back) = ahead ++ Token.after front word :: behind ∧
        ∀ token ∈ ahead, token.stop < utf8Length front := by
  rcases List.eq_nil_or_concat front with rfl | ⟨rest, stop, hconcat⟩
  · obtain ⟨behind, hbehind⟩ := dottedWords_run_append hword hne hback []
    exact ⟨[], behind, hbehind, nofun⟩
  · rw [List.concat_eq_append] at hconcat
    subst hconcat
    rw [List.getLast?_concat] at hfront
    obtain ⟨behind, hbehind⟩ := dottedWords_run_append hword hne hback (stop :: rest.reverse)
    refine ⟨dottedWords [] [] rest, behind, ?_, fun token htoken => ?_⟩
    · have hline : rest ++ [stop] ++ word ++ back = rest ++ stop :: (word ++ back) := by simp
      rw [hline, dottedWords_append_stop (hfront stop rfl), List.append_nil, List.append_nil,
        hbehind]
      simp
    · have hle := stop_le_of_mem_dottedWords htoken
      have hpos := stop.utf8Size_pos
      rw [utf8Length_append, utf8Length_cons]
      simp only [List.reverse_nil, List.nil_append] at hle
      omega

theorem wordAt?_of_touched {front word back : List Char} (hword : ∀ c ∈ word, isWordOrDot c = true)
    (hne : word ≠ []) (hfront : Ends front.getLast?) (hback : Ends back.head?) {column : Nat}
    (hstart : utf8Length front ≤ byteOfColumn (front ++ word ++ back) column)
    (hstop : byteOfColumn (front ++ word ++ back) column ≤ utf8Length (front ++ word)) :
    wordAt? (front ++ word ++ back) column = some (Token.after front word) := by
  obtain ⟨ahead, behind, hwords, hahead⟩ := dottedWords_of_run hword hne hfront hback
  simp only [wordAt?, hwords]
  rw [List.find?_append, List.find?_eq_none.mpr, Option.none_or]
  · apply List.find?_cons_of_pos
    rw [utf8Length_append] at hstop
    rw [Bool.and_eq_true]
    exact ⟨decide_eq_true hstart, decide_eq_true hstop⟩
  · intro token htoken
    have := hahead token htoken
    simp only [Bool.and_eq_true, decide_eq_true_eq]
    omega

/-- The word at a column is the run of words and dots around it. -/
theorem wordAt?_of_run {front word back : List Char} (hword : ∀ c ∈ word, isWordOrDot c = true)
    (hne : word ≠ []) (hfront : Ends front.getLast?) (hback : Ends back.head?) {column : Nat}
    (hstart : front.length ≤ column) (hstop : column ≤ front.length + word.length) :
    wordAt? (front ++ word ++ back) column = some (Token.after front word) := by
  apply wordAt?_of_touched hword hne hfront hback
  · calc utf8Length front
        = byteOfColumn (front ++ word ++ back) front.length := by
          rw [List.append_assoc, byteOfColumn_append]
      _ ≤ byteOfColumn (front ++ word ++ back) column := byteOfColumn_mono _ hstart
  · calc byteOfColumn (front ++ word ++ back) column
        ≤ byteOfColumn (front ++ word ++ back) (front ++ word).length :=
          byteOfColumn_mono _ (by rwa [List.length_append])
      _ = utf8Length (front ++ word) := byteOfColumn_append (front ++ word) back

end Cursor

end InkWorkspace
