import InkWorkspace.Proofs.Compiler.Declared
import InkWorkspace.Proofs.Compiler.Heal
import InkWorkspace.Proofs.Text.Lines
import InkWorkspace.Proofs.Text.Scan

/- What the miniature compiler reports. On a line that is sound, without the word BROKEN and without an
   include that fails, every error asks for a repair (`check_errors`), and the repair can be read back
   from the message (`ofIssue?_errorOf`). What else is declared takes away the errors about the
   declared names and no others (`asks_extends`).

   A carriage return at the end of a line changes nothing of what the line declares and asks for, with
   the one exception of include lines. -/
namespace InkWorkspace

open Text

namespace Mini

/-! ## A carriage return at the end of a line -/

theorem trimLeft_return (cs : List Char) :
    trimLeft (cs ++ ['\r']) = if (trimLeft cs).isEmpty then [] else trimLeft cs ++ ['\r'] := by
  unfold trimLeft
  rw [List.dropWhile_append]
  rfl

theorem dropWord?_return {word : List Char} (hword : word ≠ []) (h : '\r' ∉ word)
    (cs : List Char) : dropWord? word (trimLeft (cs ++ ['\r'])) =
      (dropWord? word (trimLeft cs)).map (· ++ ['\r']) := by
  rw [trimLeft_return]
  split
  · next hempty =>
    rw [List.isEmpty_iff.mp hempty]
    cases word with
    | nil => exact absurd rfl hword
    | cons w ws => rfl
  · exact dropWord?_append h _ []

theorem word_return (cs : List Char) :
    (trimLeft (cs ++ ['\r'])).takeWhile isWord = (trimLeft cs).takeWhile isWord := by
  rw [trimLeft_return]
  split
  · next hempty => rw [List.isEmpty_iff.mp hempty]
  · exact takeWhile_append_stop (by decide) _ []

theorem header?_return (cs : List Char) : header? (cs ++ ['\r']) = header? cs := by
  unfold header?
  rw [trimLeft_return]
  cases trimLeft cs with
  | nil => rfl
  | cons c rest =>
    have hword : (trimLeft ((rest ++ ['\r']).dropWhile (· == '='))).takeWhile isWord =
        (trimLeft (rest.dropWhile (· == '='))).takeWhile isWord := by
      rw [dropWhile_append_stop (by decide)]
      exact word_return _
    simp only [List.isEmpty_cons, Bool.false_eq_true, if_false, List.cons_append]
    by_cases hc : c = '='
    · subst hc
      simp only [hword]
    · split
      · next heq => exact absurd (List.cons.inj heq).1 hc
      · split
        · next heq => exact absurd (List.cons.inj heq).1 hc
        · rfl

/-- The word behind one of the keywords. -/
def declaredBy? (line : List Char) (keyword : String) : Option String := do
  let rest ← dropWord? keyword.toList (trimLeft line)
  let word := (trimLeft rest).takeWhile isWord
  if rest.head?.any isBlank && !word.isEmpty then some (String.ofList word) else none

theorem declaredBy?_return {keyword : String} (hkeyword : keyword.toList ≠ [])
    (h : '\r' ∉ keyword.toList) (cs : List Char) :
    declaredBy? (cs ++ ['\r']) keyword = declaredBy? cs keyword := by
  unfold declaredBy?
  rw [dropWord?_return hkeyword h]
  cases dropWord? keyword.toList (trimLeft cs) with
  | none => rfl
  | some rest =>
    simp only [Option.map_some, Option.bind_eq_bind, Option.bind_some, word_return]
    cases rest with
    | nil => rfl
    | cons c rest => rfl

theorem declared?_return (cs : List Char) : declared? (cs ++ ['\r']) = declared? cs := by
  have heq (line : List Char) :
      declared? line = ["VAR", "CONST", "LIST"].findSome? (declaredBy? line) := rfl
  rw [heq, heq]
  simp only [List.findSome?_cons, List.findSome?_nil]
  rw [declaredBy?_return (by decide) (by decide), declaredBy?_return (by decide) (by decide),
    declaredBy?_return (by decide) (by decide)]

theorem closes_return (cs : List Char) :
    (((cs ++ ['\r']).drop (cs.takeWhile isWord).length).head? == some '\x7d') =
      ((cs.drop (cs.takeWhile isWord).length).head? == some '\x7d') := by
  have hle : (cs.takeWhile isWord).length ≤ cs.length := (List.takeWhile_sublist _).length_le
  rw [List.drop_append_of_le_length hle]
  cases cs.drop (cs.takeWhile isWord).length <;> rfl

theorem uses_return (skip : Nat) (cs : List Char) : uses skip (cs ++ ['\r']) = uses skip cs := by
  induction cs generalizing skip with
  | nil => cases skip <;> rfl
  | cons c cs ih =>
    cases skip with
    | succ skip => exact ih skip
    | zero =>
      have hword : (cs ++ ['\r']).takeWhile isWord = cs.takeWhile isWord :=
        takeWhile_append_stop (by decide) cs []
      simp only [List.cons_append, uses, ih, hword, closes_return]

theorem gap_return {cs : List Char} (h : trimLeft cs ≠ []) :
    (cs ++ ['\r']).takeWhile isBlank = cs.takeWhile isBlank := by
  rw [List.takeWhile_append, if_neg]
  intro hall
  have hlength : (cs.takeWhile isBlank ++ trimLeft cs).length = cs.length := by
    rw [trimLeft, List.takeWhile_append_dropWhile]
  rw [List.length_append, hall] at hlength
  exact h (List.length_eq_zero_iff.mp (by omega))

theorem targets_return (skip : Nat) (cs : List Char) :
    targets skip (cs ++ ['\r']) = targets skip cs := by
  induction cs generalizing skip with
  | nil => cases skip <;> rfl
  | cons c cs ih =>
    cases skip with
    | succ skip => exact ih skip
    | zero =>
      have hdrop := dropWord?_append (by decide : '\r' ∉ "->".toList) (c :: cs) []
      simp only [List.cons_append] at hdrop
      simp only [List.cons_append, targets, hdrop]
      cases dropWord? "->".toList (c :: cs) with
      | none => exact ih 0
      | some rest =>
        simp only [Option.map_some]
        have hword : ((rest ++ ['\r']).dropWhile isBlank).takeWhile isWord =
          (rest.dropWhile isBlank).takeWhile isWord := word_return rest
        rw [hword]
        split
        · exact ih 0
        · next hne =>
          have hrest : trimLeft rest ≠ [] := fun hnil => hne (by rw [← trimLeft, hnil]; rfl)
          rw [ih, gap_return hrest]

theorem trim_return (cs : List Char) : trim (cs ++ ['\r']) = trim cs :=
  trim_blanks (List.forall_mem_nil _) (List.forall_mem_singleton.mpr (by decide)) cs

/-- The exception: with one blank behind the keyword there is no include, and with two there is. -/
theorem include?_return {cs : List Char}
    (h : ∀ blank, isBlank blank = true → trimLeft cs ≠ "INCLUDE".toList ++ [blank]) :
    include? (cs ++ ['\r']) = include? cs := by
  unfold include?
  rw [dropWord?_return (by decide) (by decide)]
  cases hrest : dropWord? "INCLUDE".toList (trimLeft cs) with
  | none => rfl
  | some rest =>
    rw [dropWord?_eq_some_iff] at hrest
    simp only [Option.map_some, Option.bind_eq_bind, Option.bind_some, trim_return]
    -- Only an empty name makes the number of blanks count.
    by_cases hname : trimLeft rest = []
    · have hgap : rest.takeWhile isBlank = rest := by
        have happend := List.takeWhile_append_dropWhile (p := isBlank) (l := rest)
        rwa [← trimLeft, hname, List.append_nil] at happend
      have hblank : ∀ c ∈ rest, isBlank c = true :=
        hgap ▸ List.all_eq_true.mp List.all_takeWhile
      have hgap' : (rest ++ ['\r']).takeWhile isBlank = rest ++ ['\r'] := by
        rw [List.takeWhile_append_of_pos hblank]
        rfl
      rw [hgap, hgap']
      match rest with
      | [] => rfl
      | [blank] => exact absurd hrest (h blank (hblank blank List.mem_cons_self))
      | _ :: _ :: _ =>
        have hlong (n : Nat) : ¬ n + 1 + 1 < 2 := by omega
        simp [hlong]
    · rw [gap_return hname]

/-- Whether a line is an author's note. -/
def isTodo (line : List Char) : Bool :=
  (dropWord? "TODO:".toList (trimLeft line)).isSome

/-- The word that is an error wherever it stands. -/
def brokenWord : List Char := "BROKEN".toList

theorem isTodo_return (cs : List Char) : isTodo (cs ++ ['\r']) = isTodo cs := by
  rw [isTodo, dropWord?_return (by decide) (by decide), Option.isSome_map]
  rfl

theorem broken_return (cs : List Char) :
    occursIn brokenWord (cs ++ ['\r']) = occursIn brokenWord cs := by
  rw [occursIn_append (by decide) (by decide), occursIn_nil (by decide), Bool.or_false]

/-! ## Names on a line -/

/-- The name is a word on the line. -/
structure NameOn (line : List Char) (name : String) : Prop where
  ne_nil : name.toList ≠ []
  all_word : ∀ c ∈ name.toList, isWord c = true
  within : name.toList <:+: line

theorem nameOn_takeWhile (front : List Char) {rest : List Char}
    (h : ¬ (rest.takeWhile isWord).isEmpty = true) :
    NameOn (front ++ rest) (String.ofList (rest.takeWhile isWord)) := by
  constructor <;> rw [String.toList_ofList]
  · exact mt List.isEmpty_iff.mpr h
  · exact List.all_eq_true.mp List.all_takeWhile
  · exact (List.takeWhile_prefix _).isInfix.trans (List.suffix_append front rest).isInfix

theorem NameOn.mono {line more : List Char} {name : String} (h : NameOn line name)
    (hmore : line <:+: more) : NameOn more name :=
  ⟨h.ne_nil, h.all_word, h.within.trans hmore⟩

theorem NameOn.cons {line : List Char} {name : String} (h : NameOn line name) (c : Char) :
    NameOn (c :: line) name :=
  h.mono (List.suffix_cons c line).isInfix

theorem uses_nameOn {skip : Nat} {cs : List Char} {name : String} (h : name ∈ uses skip cs) :
    NameOn cs name := by
  induction cs generalizing skip with
  | nil => cases skip <;> cases h
  | cons c cs ih =>
    cases skip with
    | succ skip => exact (ih h).cons c
    | zero =>
      simp only [uses] at h
      split at h
      · split at h
        · next hname =>
          rw [Bool.and_eq_true, Bool.not_eq_true'] at hname
          rcases List.mem_cons.mp h with rfl | h
          · exact nameOn_takeWhile [c] (by simp [hname.1])
          · exact (ih h).cons c
        · exact (ih h).cons c
      · exact (ih h).cons c

theorem targets_nameOn {skip : Nat} {cs : List Char} {name : String}
    (h : name ∈ targets skip cs) : NameOn cs name := by
  induction cs generalizing skip with
  | nil => cases skip <;> cases h
  | cons c cs ih =>
    cases skip with
    | succ skip => exact (ih h).cons c
    | zero =>
      simp only [targets] at h
      split at h
      · next rest hrest =>
        split at h
        · exact (ih h).cons c
        · next hname =>
          rcases List.mem_cons.mp h with rfl | h
          · have hline : c :: cs = "->".toList ++ rest := dropWord?_eq_some_iff.mp hrest
            rw [hline]
            refine (nameOn_takeWhile (rest.takeWhile isBlank) hname).mono ?_
            rw [List.takeWhile_append_dropWhile]
            exact (List.suffix_append _ rest).isInfix
          · exact (ih h).cons c
      · exact (ih h).cons c

/-! ## Errors and the repairs they ask for -/

/-- The repairs that the errors on a line ask for, in order. -/
def asks (declared : Declared) (line : List Char) : List Repair :=
  if isTodo line || (include? line).isSome then []
  else
    ((uses 0 line).filter fun name => !declared.globals.contains name).map .declareVariable ++
      ((targets 0 line).filter fun name =>
        name ≠ "DONE" && name ≠ "END" && !declared.knots.contains name).map .stubKnot

/-- The error that asks for a repair. -/
def errorOf (number : Nat) : Repair → Message
  | .declareVariable name => report .error "ERROR" number ("Unresolved variable: " ++ name)
  | .stubKnot name => report .error "ERROR" number ("Divert target not found: '-> " ++ name ++ "'")

/-- A line on which nothing but missing names can be wrong. -/
def Sound (handler : Option FileHandler) (line : List Char) : Prop :=
  isTodo line = false → occursIn brokenWord line = false ∧
    ∀ name, include? line = some name →
      handler.any (fun files => (files.included? name).isSome) = true

theorem check_errors {handler : Option FileHandler} {line : List Char} (h : Sound handler line)
    (declared : Declared) (number : Nat) :
    (check handler declared number line).filter (·.kind == .error) =
      (asks declared line).map (errorOf number) := by
  have kind_error (text : String) : (report .error "ERROR" number text).kind = .error := rfl
  unfold check
  cases htodo : dropWord? "TODO:".toList (trimLeft line) with
  | some todo =>
    have hnote : isTodo line = true := by rw [isTodo, htodo]; rfl
    rw [asks, hnote]
    rfl
  | none =>
    have hnote : isTodo line = false := by rw [isTodo, htodo]; rfl
    obtain ⟨hbroken, hloads⟩ := h hnote
    rw [show occursIn "BROKEN".toList line = false from hbroken]
    cases hinclude : include? line with
    | some name =>
      dsimp only
      rw [hloads name hinclude, asks, hinclude, Option.isSome_some, Bool.or_true]
      rfl
    | none =>
      simp only [asks, hnote, hinclude, Option.isSome_none, Bool.or_self, Bool.false_eq_true,
        if_false, List.nil_append, List.filter_append, List.filter_map, Function.comp_def,
        kind_error, beq_self_eq_true, List.filter_true, List.map_append, List.map_map]
      rfl

/-! ## From an error back to its repair -/

theorem isDigit_of_mem_toDigits {n : Nat} {c : Char} (h : c ∈ Nat.toDigits 10 n) :
    isDigit c = true :=
  isDigit_of_isAsciiDigit (Nat.isDigit_of_mem_toDigits (by decide) (by decide) h)

theorem lineNumber?_append {digits : List Char} (hne : digits ≠ [])
    (hdigits : ∀ c ∈ digits, isDigit c = true) (rest : List Char) :
    Issue.lineNumber? ("line ".toList ++ (digits ++ ':' :: rest)) = some (digits, ':' :: rest) := by
  have hword : dropWord? "line ".toList ("line ".toList ++ (digits ++ ':' :: rest)) =
      some (digits ++ ':' :: rest) := dropWord?_eq_some_iff.mpr rfl
  have hstop : isDigit ':' = false := by decide
  unfold Issue.lineNumber?
  simp only [hword, Option.bind_eq_bind, Option.bind_some, takeWhile_run hdigits hstop,
    dropWhile_run hdigits hstop, List.isEmpty_iff, hne, if_false]
  rfl

theorem dropTag?_report (number : Nat) (text : String) :
    Issue.dropTag? (report .error "ERROR" number text).text.toList = some text.toList := by
  have htext : (report .error "ERROR" number text).text.toList = "ERROR:".toList ++
      (' ' :: ("line ".toList ++ (Nat.toDigits 10 number ++ ':' :: ' ' :: text.toList))) := by
    simp [report]
  have hcapitals (rest : List Char) : Issue.dropCapitals false ("ERROR:".toList ++ rest) =
      some (':' :: rest) := rfl
  have htrim (rest : List Char) : Issue.dropQuoted (trimLeft (' ' :: ("line ".toList ++ rest))) =
      "line ".toList ++ rest := rfl
  rw [htext, Issue.dropTag?, hcapitals]
  simp only [Option.bind_eq_bind, Option.bind_some, htrim,
    lineNumber?_append Nat.toDigits_ne_nil (fun _ => isDigit_of_mem_toDigits)]
  rfl

theorem wordBetween?_eq_none {lead close : List Char} {mark : Char} (hlead : mark ∈ lead)
    {cs : List Char} (h : mark ∉ cs) : Repair.wordBetween? lead close cs = none := by
  induction cs with
  | nil => rfl
  | cons c cs ih =>
    have hdrop : dropWord? lead (c :: cs) = none := by
      cases hfound : dropWord? lead (c :: cs) with
      | none => rfl
      | some rest =>
        rw [dropWord?_eq_some_iff] at hfound
        exact absurd (hfound ▸ List.mem_append_left rest hlead) h
    unfold Repair.wordBetween?
    rw [hdrop, ih (mt (List.mem_cons_of_mem c) h)]
    rfl

theorem wordBetween?_name {lead close : List Char} (hlead : lead ≠ []) {name : String}
    (hne : name.toList ≠ []) (hword : ∀ c ∈ name.toList, isWord c = true)
    (hclose : ∀ c, close.head? = some c → isWord c = false) :
    Repair.wordBetween? lead close (lead ++ (name.toList ++ close)) = some name := by
  have htake : (name.toList ++ close).takeWhile isWord = name.toList ∧
      (name.toList ++ close).dropWhile isWord = close := by
    rw [List.takeWhile_append_of_pos hword, List.dropWhile_append_of_pos hword]
    cases close with
    | nil => simp
    | cons c close => simp [hclose c rfl]
  have hfound : dropWord? lead (lead ++ (name.toList ++ close)) = some (name.toList ++ close) :=
    dropWord?_eq_some_iff.mpr rfl
  have hclosed : dropWord? close close = some [] := dropWord?_eq_some_iff.mpr (by simp)
  cases lead with
  | nil => exact absurd rfl hlead
  | cons c lead =>
    rw [List.cons_append] at hfound ⊢
    unfold Repair.wordBetween?
    simp only [hfound, htake.1, htake.2, hclosed, List.isEmpty_iff, hne, Option.bind_eq_bind,
      Option.bind_some, if_false, String.ofList_toList]
    rfl

/-- The name that a repair adds. -/
def repairName : Repair → String
  | .stubKnot name | .declareVariable name => name

theorem ofIssue?_errorOf {repair : Repair} {line : List Char}
    (h : NameOn line (repairName repair)) (number : Nat) :
    Repair.ofIssue? (.ofMessage (errorOf number repair)) = some repair := by
  cases repair with
  | stubKnot name =>
    have hmessage : (Issue.ofMessage (errorOf number (.stubKnot name))).message.toList =
        "Divert target not found: '-> ".toList ++ (name.toList ++ ['\'']) := by
      simp only [Issue.ofMessage, errorOf, dropTag?_report, Option.elim_some, String.toList_ofList,
        String.toList_append, List.append_assoc]
      rfl
    have hword : Repair.wordBetween? "Divert target not found: '-> ".toList ['\'']
        ("Divert target not found: '-> ".toList ++ (name.toList ++ ['\''])) = some name :=
      wordBetween?_name (by decide) h.ne_nil h.all_word (by rintro _ ⟨⟩; decide)
    unfold Repair.ofIssue?
    rw [hmessage]
    dsimp only
    rw [hword]
    rfl
  | declareVariable name =>
    have hmessage : (Issue.ofMessage (errorOf number (.declareVariable name))).message.toList =
        "Unresolved variable: ".toList ++ (name.toList ++ []) := by
      simp only [Issue.ofMessage, errorOf, dropTag?_report, Option.elim_some, String.toList_ofList,
        String.toList_append, List.append_nil]
    -- The quote in the other message is no part of a word.
    have hquote : '\'' ∉ "Unresolved variable: ".toList ++ (name.toList ++ []) := by
      rw [List.append_nil, List.mem_append]
      rintro (hmem | hmem)
      · exact absurd hmem (by decide)
      · exact absurd (h.all_word _ hmem) (by decide)
    have hnone : Repair.wordBetween? "Divert target not found: '-> ".toList ['\'']
        ("Unresolved variable: ".toList ++ (name.toList ++ [])) = none :=
      wordBetween?_eq_none (by decide) hquote
    have hword : Repair.wordBetween? "Unresolved variable: ".toList []
        ("Unresolved variable: ".toList ++ (name.toList ++ [])) = some name :=
      wordBetween?_name (by decide) h.ne_nil h.all_word (by simp)
    unfold Repair.ofIssue?
    rw [hmessage]
    dsimp only
    rw [hnone, hword]
    rfl

theorem asks_nameOn {declared : Declared} {line : List Char} {repair : Repair}
    (h : repair ∈ asks declared line) : NameOn line (repairName repair) := by
  unfold asks at h
  split at h
  · cases h
  · rcases List.mem_append.mp h with h | h
    · obtain ⟨name, hname, rfl⟩ := List.mem_map.mp h
      exact uses_nameOn (List.mem_filter.mp hname).1
    · obtain ⟨name, hname, rfl⟩ := List.mem_map.mp h
      exact targets_nameOn (List.mem_filter.mp hname).1

/-- The errors on sound lines ask for the missing names, in order. -/
theorem checkLines_repairs {handler : Option FileHandler} {ls : List (List Char)}
    (h : ∀ line ∈ ls, Sound handler line) (declared : Declared) (number : Nat) :
    ((checkLines handler declared number ls).filter (·.kind == .error)).map
        (fun message => Repair.ofIssue? (.ofMessage message)) =
      (ls.flatMap (asks declared)).map some := by
  induction ls generalizing number with
  | nil => rfl
  | cons line ls ih =>
    have hline : ((asks declared line).map (errorOf number)).map
        (fun message => Repair.ofIssue? (.ofMessage message)) = (asks declared line).map some := by
      rw [List.map_map]
      refine List.map_congr_left fun repair hrepair => ?_
      exact ofIssue?_errorOf (asks_nameOn hrepair) number
    have hrest := ih (fun other hother => h other (List.mem_cons_of_mem line hother)) (number + 1)
    rw [checkLines, List.filter_append, check_errors (h line List.mem_cons_self), List.map_append,
      hline, hrest, List.flatMap_cons, List.map_append]

/-! ## Patches -/

/-- What is declared besides takes away the errors about its names and no others. -/
theorem asks_extends {patches : Patches} {base more : Declared}
    (h : Extends patches.knots patches.globals base more) (line : List Char) :
    asks more line = (asks base line).filter fun repair => !patches.contains repair := by
  have hglobals (name : String) : more.globals.contains name =
      (base.globals.contains name || patches.globals.contains name) := by
    rw [Bool.eq_iff_iff, Bool.or_eq_true, List.contains_iff_mem, List.contains_iff_mem,
      List.contains_iff_mem, h.globals_iff]
  have hknots (name : String) : more.knots.contains name =
      (base.knots.contains name || patches.knots.contains name) := by
    rw [Bool.eq_iff_iff, Bool.or_eq_true, List.contains_iff_mem, List.contains_iff_mem,
      List.contains_iff_mem, h.knots_iff]
  unfold asks
  split
  · rfl
  · rw [List.filter_append, List.filter_map, List.filter_map, List.filter_filter,
      List.filter_filter]
    congr 2
    · refine List.filter_congr fun name _ => ?_
      simp only [Function.comp_apply, Patches.contains, hglobals, Bool.not_or]
      ac_rfl
    · refine List.filter_congr fun name _ => ?_
      simp only [Function.comp_apply, Patches.contains, hknots, Bool.not_or]
      ac_rfl

end Mini

end InkWorkspace
