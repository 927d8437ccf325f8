import InkWorkspace.Proofs.Compiler.OtherFile
import InkWorkspace.Proofs.Compiler.Reported

/- Messages about the root text. The compiler's output line is read once, written in another form, and
   read again when the message becomes an issue. Nothing in the message can mislead any of this: what
   stands in front of it is read from the left (`dropTag?_rootMessage`), and its tag holds no line
   number, so the first one is that of the mark (`firstLineNumber?_rootMessage`). Blanks at both ends
   of the output line and behind the mark make no difference, for the message has none at its own
   (`trim_blanks`). -/
namespace InkWorkspace

open Text

namespace Program

/-! ## Output lines about the root text -/

/-- A run of blanks. -/
def Blanks (run : List Char) : Prop :=
  ∀ c ∈ run, isBlank c = true

instance (run : List Char) : Decidable (Blanks run) :=
  List.decidableBAll (fun c => isBlank c = true) run

/-- The name of the root text in an output line: it is quoted, and blanks may follow, or it is left
    out. -/
inductive RootMark : List Char → Prop where
  | quoted {gap : List Char} : Blanks gap → RootMark ('\'' :: (rootFile.toList ++ '\'' :: gap))
  | absent : RootMark []

/-- An output line about the root text: a tag, perhaps the name of the root text, a line mark and the
    text of the message. Blanks may stand around it all, behind the colons and behind the name. -/
structure NamesRoot (raw tag : String) (kind : MessageKind) (digits text : List Char) : Prop where
  tagged : (tag, kind) ∈ tags
  spelled : ∃ before gap mark behind after, Blanks before ∧ Blanks gap ∧ RootMark mark ∧
    Blanks behind ∧ Blanks after ∧
    raw.toList = before ++ (tag.toList ++ ':' :: (gap ++ (mark ++
      ("line ".toList ++ (digits ++ ':' :: (behind ++ (text ++ after)))))))

/-- The text of a message about the root text. -/
def rootMessage (tag : String) (digits text : List Char) : List Char :=
  tag.toList ++ ':' :: ' ' :: ("line ".toList ++ (digits ++ ':' :: ' ' :: text))

section

variable {tag : String} {kind : MessageKind} (htag : (tag, kind) ∈ tags)
include htag

theorem trimLeft_tag (rest : List Char) : trimLeft (tag.toList ++ rest) = tag.toList ++ rest := by
  simp only [tags, List.mem_cons, List.not_mem_nil, or_false] at htag
  rcases htag with h | h | h | h | h <;> cases h <;> rfl

theorem dropCapitals_tag (rest : List Char) :
    Issue.dropCapitals false (tag.toList ++ ':' :: rest) = some (':' :: rest) := by
  simp only [tags, List.mem_cons, List.not_mem_nil, or_false] at htag
  rcases htag with h | h | h | h | h <;> cases h <;> rfl

end

theorem dropTag?_rootMessage {tag : String} {kind : MessageKind} (htag : (tag, kind) ∈ tags)
    {digits : List Char} (hne : digits ≠ []) (hdigits : ∀ c ∈ digits, isDigit c = true)
    (text : List Char) : Issue.dropTag? (rootMessage tag digits text) = some text := by
  have hmark (rest : List Char) : Issue.dropQuoted (trimLeft (' ' :: ("line ".toList ++ rest))) =
      "line ".toList ++ rest := rfl
  rw [rootMessage, Issue.dropTag?, dropCapitals_tag htag]
  simp only [Option.bind_eq_bind, Option.bind_some, hmark, Mini.lineNumber?_append hne hdigits]
  rfl

theorem firstLineNumber?_rootMessage {tag : String} {kind : MessageKind}
    (htag : (tag, kind) ∈ tags) {digits : List Char} (hne : digits ≠ [])
    (hdigits : ∀ c ∈ digits, isDigit c = true) (text : List Char) :
    Issue.firstLineNumber? (rootMessage tag digits text) = some digits := by
  have hcolon := Issue.firstLineNumber?_append ':' (by decide) (by decide) tag.toList
    (' ' :: ("line ".toList ++ (digits ++ ':' :: ' ' :: text)))
  have hspace (rest : List Char) : Issue.firstLineNumber? (' ' :: ("line ".toList ++ rest)) =
      ((Issue.lineNumber? ("line ".toList ++ rest)).map Prod.fst).or
        (Issue.firstLineNumber? ("ine ".toList ++ rest)) :=
    Issue.firstLineNumber?_cons 'l' ("ine ".toList ++ rest)
  rw [rootMessage, hcolon, firstLineNumber?_tag htag, Option.none_or, hspace,
    Mini.lineNumber?_append hne hdigits]
  rfl

theorem quotedFile_rootMark {mark : List Char} (h : RootMark mark) (rest : List Char) :
    ∃ file, quotedFile (mark ++ ("line ".toList ++ rest)) = (file, "line ".toList ++ rest) ∧
      file.filter (fun name => decide (name ≠ rootFile)) = none := by
  cases h with
  | absent => exact ⟨none, rfl, rfl⟩
  | @quoted gap hgap =>
    have hquoted : quotedFile ('\'' :: (rootFile.toList ++ '\'' :: (gap ++ ("line ".toList ++ rest)))) =
        (some rootFile, trimLeft (gap ++ ("line ".toList ++ rest))) :=
      quotedFile_append (by decide) _
    have hword : trimLeft ("line ".toList ++ rest) = "line ".toList ++ rest := rfl
    rw [trimLeft_blanks hgap, hword] at hquoted
    refine ⟨some rootFile, ?_, by decide⟩
    simpa using hquoted

/-- Trimming takes nothing in front of the last colon, and behind it nothing of the text. -/
theorem NamesRoot.trim_eq {raw tag : String} {kind : MessageKind} {digits text : List Char}
    (h : NamesRoot raw tag kind digits text) (htrim : trim text = text) :
    ∃ gap mark rest, Blanks gap ∧ RootMark mark ∧ trimLeft rest = text ∧ trim raw.toList =
      tag.toList ++ ':' :: (gap ++ (mark ++ ("line ".toList ++ (digits ++ ':' :: rest)))) := by
  obtain ⟨before, gap, mark, behind, after, hbefore, hgap, hmark, hbehind, hafter, hraw⟩ := h.spelled
  refine ⟨gap, mark, trimRight (behind ++ (text ++ after)), hgap, hmark, ?_, ?_⟩
  · rw [trimLeft_trimRight, trim_blanks hbehind hafter, htrim]
  · have hcolon : isBlank ':' = false := by decide
    have hstop := trimRight_stop hcolon
      (tag.toList ++ ':' :: (gap ++ (mark ++ ("line ".toList ++ digits)))) (behind ++ (text ++ after))
    simp only [List.append_assoc, List.cons_append] at hstop
    rw [hraw, trim, trimLeft_blanks hbefore, trimLeft_tag h.tagged, hstop]

theorem trimLeft_rootMark {gap mark : List Char} (hgap : Blanks gap) (hmark : RootMark mark)
    (rest : List Char) : trimLeft (gap ++ (mark ++ ("line ".toList ++ rest))) =
      mark ++ ("line ".toList ++ rest) := by
  rw [trimLeft_blanks hgap]
  cases hmark <;> rfl

theorem translate?_root {raw tag : String} {kind : MessageKind} {digits text : List Char}
    (h : NamesRoot raw tag kind digits text) (hne : digits ≠ [])
    (hdigits : ∀ c ∈ digits, isDigit c = true) (hline : '\n' ∉ text) (htrim : trim text = text) :
    translate? raw = some ⟨kind, String.ofList (rootMessage tag digits text)⟩ := by
  obtain ⟨gap, mark, rest, hgap, hmark, htext, hraw⟩ := h.trim_eq htrim
  obtain ⟨file, hfile, hroot⟩ := quotedFile_rootMark hmark (digits ++ ':' :: rest)
  have hlineMark : lineMark ("line ".toList ++ (digits ++ ':' :: rest)) =
      (some (String.ofList digits), text) := by
    rw [lineMark, Mini.lineNumber?_append hne hdigits]
    exact congrArg (Prod.mk _) htext
  have hmessage : tag ++ ": line " ++ String.ofList digits ++ ": " ++ String.ofList text =
      String.ofList (rootMessage tag digits text) := by
    apply String.toList_injective
    simp [rootMessage]
  unfold translate?
  simp only [hraw, tag?_append h.tagged, Option.bind_eq_bind, Option.bind_some,
    trimLeft_rootMark hgap hmark, hfile, hlineMark, hline, if_false, hroot]
  rw [hmessage]
  rfl

/-- A message about the root text survives. Whatever it contains, its output line is accepted, and the
    issue has the severity of the tag, the message as it was written, and the line of the mark. -/
theorem root_message_survives {raw tag : String} {kind : MessageKind} {digits text : List Char}
    (h : NamesRoot raw tag kind digits text) (hne : digits ≠ [])
    (hascii : ∀ c ∈ digits, c.isDigit = true) (hfits : Nat.ofDigitChars 10 digits 0 < Nat.pow 2 32)
    (hline : '\n' ∉ text) (htrim : trim text = text) :
    ∃ message, translate? raw = some message ∧ Issue.ofMessage message =
      ⟨kind.severity, String.ofList text, some (Nat.ofDigitChars 10 digits 0)⟩ := by
  have hdigits : ∀ c ∈ digits, isDigit c = true := fun c hc => isDigit_of_isAsciiDigit (hascii c hc)
  refine ⟨_, translate?_root h hne hdigits hline htrim, ?_⟩
  have hlineOf : Issue.lineOf? digits = some (Nat.ofDigitChars 10 digits 0) := by
    rw [Issue.lineOf?, natOfDigits?_eq hne hascii]
    exact if_pos hfits
  simp only [Issue.ofMessage, String.toList_ofList, dropTag?_rootMessage h.tagged hne hdigits,
    firstLineNumber?_rootMessage h.tagged hne hdigits, Option.elim_some, Option.bind_some, hlineOf]

/-- A message that imitates an output line. -/
theorem imitation_survives :
    let raw := "\tRUNTIME WARNING: '__root__.ink'line 012:  ERROR: 'one.ink' line 7: 'x'\r"
    let digits := "012".toList
    let text := "ERROR: 'one.ink' line 7: 'x'".toList
    NamesRoot raw "RUNTIME WARNING" .warning digits text ∧ digits ≠ [] ∧
      (∀ c ∈ digits, c.isDigit = true) ∧ Nat.ofDigitChars 10 digits 0 < Nat.pow 2 32 ∧ '\n' ∉ text ∧
      trim text = text ∧ ∃ message, translate? raw = some message ∧
        Issue.ofMessage message = ⟨.warning, "ERROR: 'one.ink' line 7: 'x'", some 12⟩ := by
  intro raw digits text
  have hnames : NamesRoot raw "RUNTIME WARNING" .warning digits text := by
    refine ⟨by decide, ['\t'], [' '], _, [' ', ' '], ['\r'], ?_, ?_, .quoted (List.forall_mem_nil _),
      ?_, ?_, by decide⟩ <;> decide
  have hne : digits ≠ [] := by decide
  have hascii : ∀ c ∈ digits, c.isDigit = true := by simp [digits]
  have hfits : Nat.ofDigitChars 10 digits 0 < Nat.pow 2 32 := by decide +kernel
  have hline : '\n' ∉ text := by decide
  have htrim : trim text = text := by decide
  exact ⟨hnames, hne, hascii, hfits, hline, htrim,
    root_message_survives hnames hne hascii hfits hline htrim⟩

end Program

end InkWorkspace
