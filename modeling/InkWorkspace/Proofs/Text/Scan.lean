import InkWorkspace.Text.Column
import InkWorkspace.Text.Scan

/- Cutting a text loses nothing: the pieces put together are the text again. A word occurs where it is a
   piece of the text (`occursIn_iff`), and a character that the word lacks separates what stands in
   front of it from what stands behind (`occursIn_append`). Trimming takes away the blanks at both ends
   (`trim_blanks`) and stops at the first character that is none (`trimRight_stop`).

   Behind a prefix of a line stand as many columns as the prefix has characters
   (`columnOfByte_append`), so byte offsets that come from the scanning of a line can be read as
   columns. -/
namespace InkWorkspace.Text

theorem dropWord?_eq_some_iff {word cs rest : List Char} :
    dropWord? word cs = some rest ↔ cs = word ++ rest := by
  induction word generalizing cs with
  | nil => simp [dropWord?]
  | cons w ws ih =>
    cases cs with
    | nil => simp [dropWord?]
    | cons c cs =>
      simp only [dropWord?, List.cons_append, List.cons.injEq]
      split
      · next heq => simp [ih, heq]
      · next hne => simp [Ne.symm hne]

theorem eq_of_cutAt? {word cs before rest : List Char} (h : cutAt? word cs = some (before, rest)) :
    cs = before ++ word ++ rest := by
  induction cs generalizing before with
  | nil =>
    simp only [cutAt?] at h
    split at h
    · next hword => cases h; simp [List.isEmpty_iff.mp hword]
    · cases h
  | cons c cs ih =>
    simp only [cutAt?] at h
    split at h
    · next hword =>
      cases h
      exact dropWord?_eq_some_iff.mp hword
    · obtain ⟨⟨front, back⟩, hcut, heq⟩ := Option.map_eq_some_iff.mp h
      cases heq
      rw [ih hcut]
      rfl

theorem dropWord?_append {word : List Char} {sep : Char} (h : sep ∉ word) (cs back : List Char) :
    dropWord? word (cs ++ sep :: back) = (dropWord? word cs).map (· ++ sep :: back) := by
  induction word generalizing cs with
  | nil => rfl
  | cons w ws ih =>
    rw [List.mem_cons, not_or] at h
    cases cs with
    | nil => simp [dropWord?, Ne.symm h.1]
    | cons c cs =>
      simp only [List.cons_append, dropWord?]
      split
      · exact ih h.2 cs
      · rfl

/-! ## Occurrences -/

theorem occursIn_cons (word : List Char) (c : Char) (cs : List Char) :
    occursIn word (c :: cs) = ((dropWord? word (c :: cs)).isSome || occursIn word cs) := by
  unfold occursIn
  simp only [cutAt?]
  split
  · next hword => simp [hword]
  · next hword => simp [hword]

theorem occursIn_nil {word : List Char} (h : word ≠ []) : occursIn word [] = false := by
  simp [occursIn, cutAt?, h]

theorem occursIn_iff {word cs : List Char} : occursIn word cs = true ↔ word <:+: cs := by
  constructor
  · intro h
    obtain ⟨⟨front, back⟩, hcut⟩ := Option.isSome_iff_exists.mp h
    exact ⟨front, back, (eq_of_cutAt? hcut).symm⟩
  · rintro ⟨front, back, rfl⟩
    induction front with
    | nil =>
      cases word with
      | nil => cases back <;> simp [occursIn, cutAt?, dropWord?]
      | cons w ws =>
        have hword : dropWord? (w :: ws) (w :: ws ++ back) = some back :=
          dropWord?_eq_some_iff.mpr rfl
        rw [List.nil_append, List.cons_append, occursIn_cons, ← List.cons_append, hword]
        rfl
    | cons c front ih =>
      rw [List.cons_append, List.cons_append, occursIn_cons, ih, Bool.or_true]

theorem occursIn_append {word : List Char} {sep : Char} (hword : word ≠ []) (h : sep ∉ word)
    (front back : List Char) :
    occursIn word (front ++ sep :: back) = (occursIn word front || occursIn word back) := by
  induction front with
  | nil =>
    have hsep : dropWord? word (sep :: back) = none := by
      have hdrop := dropWord?_append h [] back
      cases word with
      | nil => exact absurd rfl hword
      | cons w ws => exact hdrop
    rw [List.nil_append, occursIn_cons, hsep, occursIn_nil hword]
    rfl
  | cons c front ih =>
    rw [List.cons_append, occursIn_cons, ih, occursIn_cons, ← List.cons_append,
      dropWord?_append h, Option.isSome_map, Bool.or_assoc]

theorem cutAt?_isSome (word front back : List Char) :
    ∃ before rest, cutAt? word (front ++ word ++ back) = some (before, rest) := by
  have hoccurs : occursIn word (front ++ word ++ back) = true :=
    occursIn_iff.mpr ⟨front, back, rfl⟩
  obtain ⟨⟨before, rest⟩, hcut⟩ := Option.isSome_iff_exists.mp hoccurs
  exact ⟨before, rest, hcut⟩

/-- No occurrence lies in front of the first one. -/
theorem cutAt?_first {word front back before rest : List Char}
    (h : cutAt? word (front ++ word ++ back) = some (before, rest)) :
    before.length ≤ front.length := by
  induction front generalizing before with
  | nil =>
    have hword : dropWord? word ([] ++ word ++ back) = some back :=
      dropWord?_eq_some_iff.mpr rfl
    cases hcs : [] ++ word ++ back with
    | nil =>
      rw [hcs] at h
      simp only [cutAt?] at h
      split at h <;> cases h
      exact Nat.le_refl 0
    | cons c cs =>
      rw [hcs] at h hword
      simp only [cutAt?, hword] at h
      cases h
      exact Nat.le_refl 0
  | cons c front ih =>
    simp only [List.cons_append, cutAt?] at h
    split at h
    · cases h
      exact Nat.zero_le _
    · obtain ⟨⟨before', rest'⟩, hcut, heq⟩ := Option.map_eq_some_iff.mp h
      cases heq
      exact Nat.succ_le_succ (ih hcut)

/-! ## Runs of characters -/

theorem takeWhile_append_stop {p : Char → Bool} {stop : Char} (h : p stop = false)
    (cs back : List Char) : (cs ++ stop :: back).takeWhile p = cs.takeWhile p := by
  induction cs with
  | nil => simp [h]
  | cons c cs ih => simp only [List.cons_append, List.takeWhile_cons, ih]

theorem dropWhile_append_stop {p : Char → Bool} {stop : Char} (h : p stop = false)
    (cs back : List Char) : (cs ++ stop :: back).dropWhile p = cs.dropWhile p ++ stop :: back := by
  induction cs with
  | nil => simp [h]
  | cons c cs ih =>
    simp only [List.cons_append, List.dropWhile_cons]
    split
    · exact ih
    · rfl

/-- A run reaches up to the first character that is not of its kind. -/
theorem takeWhile_run {p : Char → Bool} {run : List Char} (hrun : ∀ c ∈ run, p c = true)
    {stop : Char} (h : p stop = false) (back : List Char) :
    (run ++ stop :: back).takeWhile p = run := by
  rw [List.takeWhile_append_of_pos hrun, List.takeWhile_cons_of_neg (by simp [h]), List.append_nil]

theorem dropWhile_run {p : Char → Bool} {run : List Char} (hrun : ∀ c ∈ run, p c = true)
    {stop : Char} (h : p stop = false) (back : List Char) :
    (run ++ stop :: back).dropWhile p = stop :: back := by
  rw [List.dropWhile_append_of_pos hrun, List.dropWhile_cons_of_neg (by simp [h])]

/-- The blanks by number. -/
def blankCodes : List Nat :=
  [0x9, 0xA, 0xB, 0xC, 0xD, 0x20, 0x85, 0xA0, 0x1680, 0x2000, 0x2001, 0x2002, 0x2003, 0x2004, 0x2005,
    0x2006, 0x2007, 0x2008, 0x2009, 0x200A, 0x2028, 0x2029, 0x202F, 0x205F, 0x3000]

theorem mem_blankCodes {c : Char} (h : isBlank c = true) : c.toNat ∈ blankCodes := by
  simp only [isBlank, Bool.or_eq_true, Bool.and_eq_true, decide_eq_true_eq, beq_iff_eq] at h
  simp only [blankCodes, List.mem_cons, List.not_mem_nil, or_false]
  omega

theorem isBlank_eq_false_of_isWord {c : Char} (h : isWord c = true) : isBlank c = false := by
  have hcodes : ∀ n ∈ blankCodes, isWord (Char.ofNat n) = false := by decide +kernel
  cases hblank : isBlank c with
  | false => rfl
  | true =>
    have hword := hcodes c.toNat (mem_blankCodes hblank)
    rw [Char.ofNat_toNat, h] at hword
    cases hword

theorem mem_of_mem_trimLeft {c : Char} {cs : List Char} (h : c ∈ trimLeft cs) : c ∈ cs :=
  (List.dropWhile_sublist isBlank).subset h

theorem mem_of_mem_trim {c : Char} {cs : List Char} (h : c ∈ trim cs) : c ∈ cs := by
  unfold trim trimRight at h
  rw [List.mem_reverse] at h
  exact mem_of_mem_trimLeft (List.mem_reverse.mp ((List.dropWhile_sublist isBlank).subset h))

/-! ## Trimming -/

theorem trimLeft_blanks {run : List Char} (h : ∀ c ∈ run, isBlank c = true) (cs : List Char) :
    trimLeft (run ++ cs) = trimLeft cs :=
  List.dropWhile_append_of_pos h

theorem trimRight_blanks {run : List Char} (h : ∀ c ∈ run, isBlank c = true) (cs : List Char) :
    trimRight (cs ++ run) = trimRight cs := by
  unfold trimRight
  rw [List.reverse_append, List.dropWhile_append_of_pos fun c hc => h c (List.mem_reverse.mp hc)]

theorem trimRight_stop {stop : Char} (h : isBlank stop = false) (front back : List Char) :
    trimRight (front ++ stop :: back) = front ++ stop :: trimRight back := by
  have hreverse : (front ++ stop :: back).reverse = back.reverse ++ stop :: front.reverse := by
    simp
  unfold trimRight
  rw [hreverse, dropWhile_append_stop h, List.reverse_append, List.reverse_cons,
    List.reverse_reverse, List.append_assoc, List.singleton_append]

/-- It does not matter at which end trimming begins. -/
theorem trimLeft_trimRight (cs : List Char) : trimLeft (trimRight cs) = trim cs := by
  induction cs with
  | nil => rfl
  | cons c cs ih =>
    cases hc : isBlank c with
    | false =>
      have hstop : trimLeft (c :: cs) = c :: cs := List.dropWhile_cons_of_neg (by simp [hc])
      have hright : trimRight (c :: cs) = c :: trimRight cs := trimRight_stop hc [] cs
      rw [trim, hstop, hright]
      exact List.dropWhile_cons_of_neg (by simp [hc])
    | true =>
      have hleft (more : List Char) : trimLeft (c :: more) = trimLeft more :=
        List.dropWhile_cons_of_pos hc
      have hright : trimLeft (trimRight (c :: cs)) = trimLeft (trimRight cs) := by
        unfold trimRight
        rw [List.reverse_cons, List.dropWhile_append]
        split
        · next hempty =>
          rw [List.isEmpty_iff.mp hempty, List.dropWhile_cons_of_pos hc]
          rfl
        · rw [List.reverse_append]
          exact hleft _
      rw [hright, ih, trim, trim, hleft]

theorem trim_blanks {before behind : List Char} (hbefore : ∀ c ∈ before, isBlank c = true)
    (hbehind : ∀ c ∈ behind, isBlank c = true) (cs : List Char) :
    trim (before ++ (cs ++ behind)) = trim cs := by
  rw [trim, trimLeft_blanks hbefore, ← trim, ← trimLeft_trimRight, trimRight_blanks hbehind,
    trimLeft_trimRight]

/-! ## Digits -/

theorem isDigit_of_isAsciiDigit {c : Char} (h : c.isDigit = true) : isDigit c = true := by
  have hascii : c.toNat < 128 := by
    simp only [Char.isDigit, Bool.and_eq_true, decide_eq_true_eq] at h
    have hle : c.val.toNat ≤ 57 := h.2
    exact Nat.lt_of_le_of_lt hle (by decide)
  rwa [isDigit, if_pos hascii]

theorem natOfDigits?_eq {digits : List Char} (hne : digits ≠ [])
    (hdigits : ∀ c ∈ digits, c.isDigit = true) :
    natOfDigits? digits = some (Nat.ofDigitChars 10 digits 0) := by
  refine if_neg ?_
  simp only [Bool.or_eq_true, List.isEmpty_iff, List.any_eq_true, not_or, not_exists, not_and,
    Bool.not_eq_true', Bool.not_eq_false]
  exact ⟨hne, hdigits⟩

/-! ## Columns -/

@[simp]
theorem utf8Length_cons (c : Char) (cs : List Char) :
    utf8Length (c :: cs) = c.utf8Size + utf8Length cs := rfl

theorem utf8Length_append (front back : List Char) :
    utf8Length (front ++ back) = utf8Length front + utf8Length back := by
  induction front with
  | nil => exact (Nat.zero_add _).symm
  | cons c front ih => simp [ih, Nat.add_assoc]

theorem columnOfByte_append (front back : List Char) :
    columnOfByte (front ++ back) (utf8Length front) = front.length := by
  induction front with
  | nil => cases back <;> rfl
  | cons c front ih =>
    have hpos := c.utf8Size_pos
    have hne : c.utf8Size + utf8Length front ≠ 0 := by omega
    simp only [List.cons_append, utf8Length_cons, columnOfByte, if_neg hne,
      Nat.add_sub_cancel_left, ih, List.length_cons]

theorem columnOfByte_mono (line : List Char) {a b : Nat} (h : a ≤ b) :
    columnOfByte line a ≤ columnOfByte line b := by
  induction line generalizing a b with
  | nil => exact Nat.le_refl 0
  | cons c line ih =>
    unfold columnOfByte
    split
    · exact Nat.zero_le _
    · next ha =>
      have hb : b ≠ 0 := by omega
      rw [if_neg hb]
      exact Nat.succ_le_succ (ih (Nat.sub_le_sub_right h c.utf8Size))

end InkWorkspace.Text
