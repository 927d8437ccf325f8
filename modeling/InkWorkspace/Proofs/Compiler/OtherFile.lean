import InkWorkspace.Compiler.Program
import InkWorkspace.Proofs.Text.Scan

/- Messages about other files. The message of an output line that names a file other than the root text
   has the file and the line at its end, in a form that is not read as a line number. What is read is
   the first `line N` anywhere in the message, though, so the issue has a line after all if the text of
   the message or the name of the file holds one (`other_file_issue`). The pieces of the message are
   separated by characters that no line number contains, so each of them can be searched by itself
   (`firstLineNumber?_append`). -/
namespace InkWorkspace

open Text

namespace Issue

/-! ## The first line number of a text -/

/-- The text holds the word `line`, a space and a digit. -/
def MentionsLine (cs : List Char) : Prop :=
  ∃ front digit back, cs = front ++ ("line ".toList ++ digit :: back) ∧ isDigit digit = true

theorem lineNumber?_isSome_iff {cs : List Char} :
    (lineNumber? cs).isSome = true ↔
      ∃ digit back, cs = "line ".toList ++ digit :: back ∧ isDigit digit = true := by
  unfold lineNumber?
  cases hword : dropWord? "line ".toList cs with
  | none =>
    simp only [Option.bind_eq_bind, Option.bind_none, Option.isSome_none, Bool.false_eq_true,
      false_iff, not_exists, not_and]
    rintro digit back rfl
    rw [dropWord?_eq_some_iff.mpr rfl] at hword
    cases hword
  | some rest =>
    rw [dropWord?_eq_some_iff] at hword
    subst hword
    simp only [Option.bind_eq_bind, Option.bind_some, List.append_cancel_left_eq]
    -- Behind the word, a digit is all that is asked for.
    cases rest with
    | nil => simp
    | cons c rest =>
      cases hc : isDigit c with
      | false =>
        simp only [List.takeWhile_cons, hc, Bool.false_eq_true, if_false, List.isEmpty_nil, if_true,
          Option.isSome_none, false_iff, not_exists, not_and]
        rintro digit back heq
        rw [← (List.cons.inj heq).1, hc]
        exact Bool.false_ne_true
      | true =>
        simp only [List.takeWhile_cons, hc, if_true, List.isEmpty_cons, Bool.false_eq_true, if_false]
        exact iff_of_true rfl ⟨c, rest, rfl, hc⟩

theorem eq_of_lineNumber? {cs digits rest : List Char} (h : lineNumber? cs = some (digits, rest)) :
    cs = "line ".toList ++ (digits ++ rest) ∧ ∀ c ∈ digits, isDigit c = true := by
  unfold lineNumber? at h
  obtain ⟨tail, hword, htail⟩ := Option.bind_eq_some_iff.mp h
  dsimp only at htail
  split at htail
  · cases htail
  · cases htail
    rw [List.takeWhile_append_dropWhile]
    exact ⟨dropWord?_eq_some_iff.mp hword, List.all_eq_true.mp List.all_takeWhile⟩

theorem firstLineNumber?_cons (c : Char) (cs : List Char) :
    firstLineNumber? (c :: cs) =
      ((lineNumber? (c :: cs)).map Prod.fst).or (firstLineNumber? cs) := by
  simp only [firstLineNumber?]
  cases lineNumber? (c :: cs) <;> rfl

theorem firstLineNumber?_isSome_iff {cs : List Char} :
    (firstLineNumber? cs).isSome = true ↔ MentionsLine cs := by
  induction cs with
  | nil =>
    constructor
    · intro h
      cases h
    · rintro ⟨front, digit, back, heq, -⟩
      simp at heq
  | cons c cs ih =>
    rw [firstLineNumber?_cons, Option.isSome_or, Bool.or_eq_true, Option.isSome_map,
      lineNumber?_isSome_iff, ih]
    constructor
    · rintro (⟨digit, back, heq, hdigit⟩ | ⟨front, digit, back, rfl, hdigit⟩)
      · exact ⟨[], digit, back, heq, hdigit⟩
      · exact ⟨c :: front, digit, back, rfl, hdigit⟩
    · rintro ⟨front, digit, back, heq, hdigit⟩
      cases front with
      | nil => exact Or.inl ⟨digit, back, heq, hdigit⟩
      | cons first front => exact Or.inr ⟨front, digit, back, (List.cons.inj heq).2, hdigit⟩

theorem firstLineNumber?_eq_none {cs : List Char} (h : ¬ MentionsLine cs) :
    firstLineNumber? cs = none := by
  rw [← firstLineNumber?_isSome_iff] at h
  simpa using h

theorem firstLineNumber?_of_not_mem {cs : List Char} (h : 'l' ∉ cs) :
    firstLineNumber? cs = none := by
  refine firstLineNumber?_eq_none ?_
  rintro ⟨front, digit, back, rfl, -⟩
  simp at h

theorem lineNumber?_append {sep : Char} (hword : sep ∉ "line ".toList) (hdigit : isDigit sep = false)
    (front back : List Char) : (lineNumber? (front ++ sep :: back)).map Prod.fst =
      (lineNumber? front).map Prod.fst := by
  unfold lineNumber?
  rw [dropWord?_append hword]
  cases dropWord? "line ".toList front with
  | none => rfl
  | some rest =>
    simp only [Option.map_some, Option.bind_eq_bind, Option.bind_some,
      takeWhile_append_stop hdigit]
    split <;> rfl

theorem firstLineNumber?_append (sep : Char) (hword : sep ∉ "line ".toList)
    (hdigit : isDigit sep = false) (front back : List Char) :
    firstLineNumber? (front ++ sep :: back) =
      (firstLineNumber? front).or (firstLineNumber? back) := by
  induction front with
  | nil =>
    have hsep : (lineNumber? (sep :: back)).map Prod.fst = none :=
      lineNumber?_append hword hdigit [] back
    rw [List.nil_append, firstLineNumber?_cons, hsep]
    rfl
  | cons c front ih =>
    rw [List.cons_append, firstLineNumber?_cons, firstLineNumber?_cons, ih, ← List.cons_append,
      lineNumber?_append hword hdigit, Option.or_assoc]

theorem lineNumber?_space (cs : List Char) :
    (lineNumber? (cs ++ [' '])).map Prod.fst = (lineNumber? cs).map Prod.fst := by
  have hspace : isDigit ' ' = false := by decide
  unfold lineNumber?
  cases hword : dropWord? "line ".toList cs with
  | some rest =>
    have hmore : dropWord? "line ".toList (cs ++ [' ']) = some (rest ++ [' ']) := by
      rw [dropWord?_eq_some_iff] at hword ⊢
      rw [hword, List.append_assoc]
    rw [hmore]
    simp only [Option.bind_eq_bind, Option.bind_some, takeWhile_append_stop hspace]
    split <;> rfl
  | none =>
    cases hmore : dropWord? "line ".toList (cs ++ [' ']) with
    | none => rfl
    | some rest =>
      -- The word ends with the space, so no digit follows it.
      have hrest : rest = [] := by
        rw [dropWord?_eq_some_iff] at hmore
        rcases List.eq_nil_or_concat rest with rfl | ⟨front, last, rfl⟩
        · rfl
        · rw [List.concat_eq_append, ← List.append_assoc] at hmore
          rw [dropWord?_eq_some_iff.mpr (List.append_inj' hmore rfl).1] at hword
          cases hword
      subst hrest
      rfl

theorem firstLineNumber?_space (cs : List Char) :
    firstLineNumber? (cs ++ [' ']) = firstLineNumber? cs := by
  induction cs with
  | nil => rfl
  | cons c cs ih =>
    rw [List.cons_append, firstLineNumber?_cons, firstLineNumber?_cons, ih, ← List.cons_append,
      lineNumber?_space]

end Issue

namespace Program

/-! ## Output lines that name a file -/

/-- Without the blanks around it, an output line starts with a tag, a colon, perhaps blanks, and the
    quoted name of a file. -/
structure NamesFile (raw tag : String) (kind : MessageKind) (file : String)
    (rest : List Char) : Prop where
  tagged : (tag, kind) ∈ tags
  unquoted : '\'' ∉ file.toList
  oneLine : '\n' ∉ raw.toList
  spelled : ∃ gap, (∀ c ∈ gap, isBlank c = true) ∧ trim raw.toList =
    tag.toList ++ ':' :: (gap ++ '\'' :: (file.toList ++ '\'' :: rest))

/-- The text of a message: what stands behind the file name and a line mark. -/
def textBehind (rest : List Char) : List Char :=
  (lineMark (trimLeft rest)).2

/-- What stands in parentheses at the end of the message: the file, and the line if there is a line
    mark. -/
def placeBehind (file : String) (rest : List Char) : List Char :=
  file.toList ++ (((lineMark (trimLeft rest)).1.elim [] fun line => ':' :: line.toList) ++ [')'])

theorem tag?_append {tag : String} {kind : MessageKind} (h : (tag, kind) ∈ tags)
    (rest : List Char) : tag? (tag.toList ++ ':' :: rest) = some (tag, kind, rest) := by
  simp only [tags, List.mem_cons, List.not_mem_nil, or_false] at h
  rcases h with h | h | h | h | h <;> cases h <;> rfl

/-- A line mark stands in front of the text, and its number is made of digits. -/
theorem lineMark_cases (cs : List Char) :
    lineMark cs = (none, cs) ∨ ∃ digits rest, cs = "line ".toList ++ (digits ++ ':' :: rest) ∧
      (∀ c ∈ digits, isDigit c = true) ∧
      lineMark cs = (some (String.ofList digits), trimLeft rest) := by
  unfold lineMark
  split
  · next digits rest hnumber =>
    obtain ⟨hcs, hdigits⟩ := Issue.eq_of_lineNumber? hnumber
    exact Or.inr ⟨digits, rest, hcs, hdigits, rfl⟩
  · exact Or.inl rfl

theorem mem_of_mem_textBehind {c : Char} {rest : List Char} (h : c ∈ textBehind rest) :
    c ∈ rest := by
  refine mem_of_mem_trimLeft ?_
  unfold textBehind at h
  rcases lineMark_cases (trimLeft rest) with hmark | ⟨digits, more, hcs, -, hmark⟩
  · rw [hmark] at h
    exact h
  · rw [hmark] at h
    rw [hcs]
    simp [mem_of_mem_trimLeft h]

theorem quotedFile_append {file : List Char} (h : '\'' ∉ file) (rest : List Char) :
    quotedFile ('\'' :: (file ++ '\'' :: rest)) = (some (String.ofList file), trimLeft rest) := by
  have hall : ∀ c ∈ file, decide (c ≠ '\'') = true := by
    intro c hc
    exact decide_eq_true fun heq => h (heq ▸ hc)
  have hstop : decide ('\'' ≠ '\'') = false := by decide
  have hmem : '\'' ∈ file ++ '\'' :: rest := by simp
  rw [quotedFile, if_pos hmem, takeWhile_run hall hstop, dropWhile_run hall hstop]
  rfl

theorem translate?_other_file {raw tag file : String} {kind : MessageKind} {rest : List Char}
    (h : NamesFile raw tag kind file rest) (hfile : file ≠ rootFile) :
    ∃ message, translate? raw = some message ∧ message.kind = kind ∧
      message.text.toList =
        tag.toList ++ ':' :: ' ' :: (textBehind rest ++ ' ' :: '(' :: placeBehind file rest) := by
  obtain ⟨gap, hgap, hraw⟩ := h.spelled
  have hquote : isBlank '\'' = false := by decide
  have hleft : trimLeft (gap ++ '\'' :: (file.toList ++ '\'' :: rest)) =
      '\'' :: (file.toList ++ '\'' :: rest) := dropWhile_run hgap hquote _
  have hline : '\n' ∉ (lineMark (trimLeft rest)).2 := by
    intro hmem
    refine h.oneLine (mem_of_mem_trim (hraw ▸ ?_))
    simp [mem_of_mem_textBehind hmem]
  have hother : (some file).filter (fun name => decide (name ≠ rootFile)) = some file := by
    simp [hfile]
  unfold translate?
  simp only [hraw, tag?_append h.tagged, Option.bind_eq_bind, Option.bind_some, hleft,
    quotedFile_append h.unquoted, hline, if_false, String.ofList_toList, hother]
  cases hmark : (lineMark (trimLeft rest)).1 with
  | none => exact ⟨_, rfl, rfl, by simp [textBehind, placeBehind, hmark]⟩
  | some line => exact ⟨_, rfl, rfl, by simp [textBehind, placeBehind, hmark]⟩

/-- The place at the end of a message names a line only if the file's name does. -/
theorem firstLineNumber?_placeBehind (file : String) (rest : List Char) :
    Issue.firstLineNumber? (placeBehind file rest) = Issue.firstLineNumber? file.toList := by
  have hclose := Issue.firstLineNumber?_append ')' (by decide) (by decide)
  have hnil : Issue.firstLineNumber? [] = none := rfl
  unfold placeBehind
  rcases lineMark_cases (trimLeft rest) with hmark | ⟨digits, more, -, hdigits, hmark⟩
  · rw [hmark]
    exact (hclose file.toList []).trans (Option.or_none)
  · have hnumber : Issue.firstLineNumber? digits = none := by
      refine Issue.firstLineNumber?_of_not_mem fun hmem => ?_
      exact absurd (hdigits 'l' hmem) (by decide)
    have hcolon := Issue.firstLineNumber?_append ':' (by decide) (by decide) file.toList
      (digits ++ [')'])
    rw [hmark]
    simp only [Option.elim_some, String.toList_ofList, List.cons_append]
    rw [hcolon, hclose, hnumber, hnil, Option.none_or, Option.or_none]

theorem firstLineNumber?_tag {tag : String} {kind : MessageKind} (h : (tag, kind) ∈ tags) :
    Issue.firstLineNumber? tag.toList = none := by
  refine Issue.firstLineNumber?_of_not_mem ?_
  simp only [tags, List.mem_cons, List.not_mem_nil, or_false] at h
  rcases h with h | h | h | h | h <;> cases h <;> decide

/-- The issue of a message about another file is on the line that the text of the message names first,
    or else the name of the file. If neither names a line, it is about the file as a whole. -/
theorem other_file_issue {raw tag file : String} {kind : MessageKind} {rest : List Char}
    (h : NamesFile raw tag kind file rest) (hfile : file ≠ rootFile) :
    ∃ message, translate? raw = some message ∧
      (Issue.ofMessage message).line =
        ((Issue.firstLineNumber? (textBehind rest)).or
          (Issue.firstLineNumber? file.toList)).bind Issue.lineOf? ∧
      (¬ Issue.MentionsLine (textBehind rest) → ¬ Issue.MentionsLine file.toList →
        (Issue.ofMessage message).line = none) := by
  obtain ⟨message, htranslate, -, htext⟩ := translate?_other_file h hfile
  have hnumber : Issue.firstLineNumber? message.text.toList =
      (Issue.firstLineNumber? (textBehind rest)).or (Issue.firstLineNumber? file.toList) := by
    have hcolon := Issue.firstLineNumber?_append ':' (by decide) (by decide) tag.toList
      (' ' :: (textBehind rest ++ ' ' :: '(' :: placeBehind file rest))
    have hopen := Issue.firstLineNumber?_append '(' (by decide) (by decide)
      (textBehind rest ++ [' ']) (placeBehind file rest)
    have hspace (cs : List Char) : Issue.firstLineNumber? (' ' :: cs) = Issue.firstLineNumber? cs :=
      rfl
    rw [List.append_assoc, List.singleton_append] at hopen
    rw [htext, hcolon, firstLineNumber?_tag h.tagged, Option.none_or, hspace, hopen,
      Issue.firstLineNumber?_space, firstLineNumber?_placeBehind]
  refine ⟨message, htranslate, ?_, ?_⟩
  · rw [Issue.ofMessage, hnumber]
  · intro hrest hname
    rw [Issue.ofMessage, hnumber, Issue.firstLineNumber?_eq_none hrest,
      Issue.firstLineNumber?_eq_none hname]
    rfl

/-- The mark in front of a warning is not read as the line of the issue. -/
theorem looseEnd_is_file_level :
    let raw := "WARNING: 'chapters/one.ink' line 7: Apparent loose end"
    let rest := " line 7: Apparent loose end".toList
    NamesFile raw "WARNING" .warning "chapters/one.ink" rest ∧ "chapters/one.ink" ≠ rootFile ∧
      ¬ Issue.MentionsLine (textBehind rest) ∧
      ¬ Issue.MentionsLine "chapters/one.ink".toList ∧
      ∃ message, translate? raw = some message ∧ (Issue.ofMessage message).line = none := by
  intro raw rest
  have hnames : NamesFile raw "WARNING" .warning "chapters/one.ink" rest :=
    ⟨by decide, by decide, by decide, [' '], List.forall_mem_singleton.mpr (by decide), by decide⟩
  have hfile : "chapters/one.ink" ≠ rootFile := by decide
  have htext : ¬ Issue.MentionsLine (textBehind rest) := by
    rw [← Issue.firstLineNumber?_isSome_iff]
    decide
  have hname : ¬ Issue.MentionsLine "chapters/one.ink".toList := by
    rw [← Issue.firstLineNumber?_isSome_iff]
    decide
  obtain ⟨message, htranslate, -, hnone⟩ := other_file_issue hnames hfile
  exact ⟨hnames, hfile, htext, hname, message, htranslate, hnone htext hname⟩

/-- A text that refers to a line takes the issue there, although the line is one of another file. -/
theorem clash_lands_on_line :
    let raw := "ERROR: 'one.ink' line 7: name already used on line 3"
    NamesFile raw "ERROR" .error "one.ink" " line 7: name already used on line 3".toList ∧
      "one.ink" ≠ rootFile ∧
      (translate? raw).map (fun message => (Issue.ofMessage message).line) = some (some 3) := by
  intro raw
  refine ⟨⟨by decide, by decide, by decide, [' '], ?_, by decide⟩, by decide, by decide +kernel⟩
  exact List.forall_mem_singleton.mpr (by decide)

end Program

end InkWorkspace
