import InkWorkspace.Proofs.Compiler.Reported

/- A repaired text, seen by the miniature compiler. Its lines are those of the declarations in front, of
   the author's text, and of the stubs behind (`lines_render`). The lines that repairs add declare the
   repairs' names and ask for nothing. The author's lines declare and ask for the same as before,
   whether or not stubs follow them, unless the last of them is an include line that changes its meaning
   with the carriage return at its end. So a repaired text declares the names of its repairs besides
   its own (`declarations_render`) and asks for what is left (`asks_render`). -/
namespace InkWorkspace

open Text

namespace Mini

/-! ## The lines that repairs add -/

/-- A name that a repair can add: a word without the one that is an error everywhere. -/
structure PlainName (name : String) : Prop where
  ne_nil : name.toList ≠ []
  all_word : ∀ c ∈ name.toList, isWord c = true
  not_broken : occursIn brokenWord name.toList = false

/-- A line with a name between blanks. -/
def nameLine (lead tail : String) (name : String) : List Char :=
  lead.toList ++ ' ' :: (name.toList ++ ' ' :: tail.toList)

def declarationLine : String → List Char := nameLine "VAR" "= \"\""

def headLine : String → List Char := nameLine "===" "==="

def exitLine : List Char := "-> DONE".toList

/-- The lines of a variable's declaration. -/
def declarationLines (name : String) : List (List Char) := [declarationLine name, []]

def stubLines (name : String) : List (List Char) := [[], headLine name, [], exitLine]

theorem not_mem_nameLine {lead tail name : String} (h : ∀ c ∈ name.toList, isWord c = true)
    {c : Char} (hc : isWord c = false) (hpatch : c ∉ lead.toList ++ ' ' :: tail.toList) :
    c ∉ nameLine lead tail name := by
  have hname : c ∉ name.toList := by
    intro hmem
    rw [h c hmem] at hc
    cases hc
  simp only [List.mem_append, List.mem_cons, not_or] at hpatch
  simp [nameLine, hname, hpatch]

section NameLine

variable {lead tail name : String} (h : PlainName name)
include h

theorem nameLine_not_broken (hlead : occursIn brokenWord lead.toList = false)
    (htail : occursIn brokenWord tail.toList = false) :
    occursIn brokenWord (nameLine lead tail name) = false := by
  rw [nameLine, occursIn_append (by decide) (by decide), occursIn_append (by decide) (by decide),
    hlead, h.not_broken, htail]
  rfl

theorem word_nameLine (tail : List Char) :
    (trimLeft (' ' :: (name.toList ++ ' ' :: tail))).takeWhile isWord = name.toList := by
  have htrim : trimLeft (' ' :: (name.toList ++ ' ' :: tail)) = name.toList ++ ' ' :: tail := by
    cases hname : name.toList with
    | nil => exact absurd hname h.ne_nil
    | cons c cs =>
      have hblank : isBlank c = false :=
        isBlank_eq_false_of_isWord (h.all_word c (by simp [hname]))
      have hspace : isBlank ' ' = true := by decide
      simp [trimLeft, hspace, hblank]
  rw [htrim, takeWhile_run h.all_word (by decide)]

end NameLine

/-! ## The lines of a repaired text -/

theorem lines_declaration {name : String} (h : ∀ c ∈ name.toList, isWord c = true)
    (back : List Char) :
    lines ((Patches.declaration name).toList ++ back) = declarationLines name ++ lines back := by
  have htext : (Patches.declaration name).toList ++ back =
      declarationLine name ++ '\n' :: ([] ++ '\n' :: back) := by
    simp [Patches.declaration, declarationLine, nameLine]
  have hfeed : '\n' ∉ declarationLine name := not_mem_nameLine h (by decide) (by decide)
  have hreturn : '\r' ∉ declarationLine name := not_mem_nameLine h (by decide) (by decide)
  rw [htext, lines_line_append hfeed hreturn, lines_line_append (by simp) (by simp)]
  rfl

theorem lines_stubs {names : List String} (h : ∀ name ∈ names, ∀ c ∈ name.toList, isWord c = true)
    (cs : List Char) :
    lines (cs ++ names.flatMap fun name => (Patches.stub name).toList) =
      (if names.isEmpty then lines cs else endedLines cs) ++ names.flatMap stubLines := by
  induction names generalizing cs with
  | nil => simp
  | cons name names ih =>
    have hname := h name List.mem_cons_self
    have hrest := ih (fun other hother => h other (List.mem_cons_of_mem name hother)) exitLine
    have hexit : (if names.isEmpty then lines exitLine else endedLines exitLine) = [exitLine] := by
      split <;> decide
    have htext : (Patches.stub name).toList =
        '\n' :: ([] ++ '\n' :: (headLine name ++ '\n' :: ([] ++ '\n' :: exitLine))) := by
      have hfront : "\n\n=== ".toList = '\n' :: '\n' :: ("===".toList ++ [' ']) := by decide
      have hback : " ===\n\n-> DONE".toList =
          ' ' :: ("===".toList ++ '\n' :: '\n' :: exitLine) := by decide
      rw [Patches.stub, String.toList_append, String.toList_append, hfront, hback]
      simp only [headLine, nameLine, List.append_assoc, List.cons_append, List.nil_append]
    have hfeed : '\n' ∉ headLine name := not_mem_nameLine hname (by decide) (by decide)
    have hreturn : '\r' ∉ headLine name := not_mem_nameLine hname (by decide) (by decide)
    rw [hexit] at hrest
    rw [List.flatMap_cons, htext]
    simp only [List.cons_append, List.append_assoc]
    rw [lines_append, lines_line_append (by simp) (by simp), lines_line_append hfeed hreturn,
      lines_line_append (by simp) (by simp), hrest]
    rfl

theorem lines_declarations {names : List String}
    (h : ∀ name ∈ names, ∀ c ∈ name.toList, isWord c = true) (back : List Char) :
    lines ((names.flatMap fun name => (Patches.declaration name).toList) ++ back) =
      names.flatMap declarationLines ++ lines back := by
  induction names with
  | nil => rfl
  | cons name names ih =>
    rw [List.flatMap_cons, List.append_assoc, lines_declaration (h name List.mem_cons_self),
      ih (fun other hother => h other (List.mem_cons_of_mem name hother)), List.flatMap_cons,
      List.append_assoc]

/-- The names of all repairs are plain. -/
def PlainPatches (patches : Patches) : Prop :=
  (∀ name ∈ patches.globals, PlainName name) ∧ ∀ name ∈ patches.knots, PlainName name

/-- The names of all repairs consist of word characters. -/
def WordPatches (patches : Patches) : Prop :=
  (∀ name ∈ patches.globals, ∀ c ∈ name.toList, isWord c = true) ∧
    ∀ name ∈ patches.knots, ∀ c ∈ name.toList, isWord c = true

theorem PlainPatches.word {patches : Patches} (h : PlainPatches patches) : WordPatches patches :=
  ⟨fun name hname => (h.1 name hname).all_word, fun name hname => (h.2 name hname).all_word⟩

/-- The author's lines in a repaired text. -/
def bodyLines (patches : Patches) (text : String) : List (List Char) :=
  if patches.knots.isEmpty then lines text.toList else endedLines text.toList

theorem lines_render {patches : Patches} (h : WordPatches patches) (text : String) :
    lines (patches.render text).toList =
      patches.globals.reverse.flatMap declarationLines ++
        (bodyLines patches text ++ patches.knots.flatMap stubLines) := by
  have htext : (patches.render text).toList =
      (patches.globals.reverse.flatMap fun name => (Patches.declaration name).toList) ++
        (text.toList ++ patches.knots.flatMap fun name => (Patches.stub name).toList) := by
    simp only [Patches.render, String.toList_append, String.toList_join, List.flatMap_map,
      List.append_assoc]
  rw [htext, lines_declarations (fun name hname => h.1 name (List.mem_reverse.mp hname)),
    lines_stubs h.2]
  rfl

/-! ## What the added lines declare and ask for -/

theorem uses_eq_nil {cs : List Char} (h : '\x7b' ∉ cs) (skip : Nat) : uses skip cs = [] := by
  induction cs generalizing skip with
  | nil => cases skip <;> rfl
  | cons c cs ih =>
    rw [List.mem_cons, not_or] at h
    cases skip with
    | succ skip => exact ih h.2 skip
    | zero =>
      simp only [uses, if_neg (Ne.symm h.1)]
      exact ih h.2 0

theorem targets_eq_nil {cs : List Char} (h : '-' ∉ cs) (skip : Nat) : targets skip cs = [] := by
  induction cs generalizing skip with
  | nil => cases skip <;> rfl
  | cons c cs ih =>
    have hrest : '-' ∉ cs := mt (List.mem_cons_of_mem c) h
    cases skip with
    | succ skip => exact ih hrest skip
    | zero =>
      have hdrop : dropWord? "->".toList (c :: cs) = none := by
        cases hfound : dropWord? "->".toList (c :: cs) with
        | none => rfl
        | some rest =>
          rw [dropWord?_eq_some_iff.mp hfound] at h
          exact absurd (List.mem_append_left rest (by decide)) h
      simp only [targets, hdrop]
      exact ih hrest 0

theorem asks_eq_nil {line : List Char} (huses : '\x7b' ∉ line) (htargets : '-' ∉ line)
    (declared : Declared) : asks declared line = [] := by
  unfold asks
  rw [uses_eq_nil huses, targets_eq_nil htargets]
  split <;> rfl

/-- A line that is harmless wherever it is added: it includes nothing and asks for nothing. -/
structure Harmless (line : List Char) : Prop where
  include_eq : include? line = none
  asks_eq (declared : Declared) : asks declared line = []
  not_broken : occursIn brokenWord line = false

theorem Harmless.sound {line : List Char} (h : Harmless line) (handler : Option FileHandler) :
    Sound handler line :=
  fun _ => ⟨h.not_broken, by simp [h.include_eq]⟩

theorem harmless_nil : Harmless [] where
  include_eq := rfl
  asks_eq _ := rfl
  not_broken := rfl

theorem harmless_exitLine : Harmless exitLine where
  include_eq := by decide
  asks_eq declared := by
    have huses : uses 0 exitLine = [] := by decide
    have htargets : targets 0 exitLine = ["DONE"] := by decide
    unfold asks
    rw [huses, htargets]
    split <;> rfl
  not_broken := by decide

theorem harmless_declarationLine {name : String} (h : PlainName name) :
    Harmless (declarationLine name) where
  include_eq := rfl
  asks_eq := asks_eq_nil (not_mem_nameLine h.all_word (by decide) (by decide))
    (not_mem_nameLine h.all_word (by decide) (by decide))
  not_broken := nameLine_not_broken h (by decide) (by decide)

theorem harmless_headLine {name : String} (h : PlainName name) : Harmless (headLine name) where
  include_eq := rfl
  asks_eq := asks_eq_nil (not_mem_nameLine h.all_word (by decide) (by decide))
    (not_mem_nameLine h.all_word (by decide) (by decide))
  not_broken := nameLine_not_broken h (by decide) (by decide)

theorem header?_headLine {name : String} (h : PlainName name) :
    header? (headLine name) = some name := by
  have hword : header? (headLine name) =
      let word := (trimLeft (' ' :: (name.toList ++ ' ' :: "===".toList))).takeWhile isWord
      if word.isEmpty then none else some (String.ofList word) := rfl
  rw [hword, word_nameLine h]
  simp [h.ne_nil]

theorem declared?_declarationLine {name : String} (h : PlainName name) :
    declared? (declarationLine name) = some name := by
  have hword : declaredBy? (declarationLine name) "VAR" =
      let word := (trimLeft (' ' :: (name.toList ++ ' ' :: "= \"\"".toList))).takeWhile isWord
      if !word.isEmpty then some (String.ofList word) else none := rfl
  rw [word_nameLine h] at hword
  have hfirst : declaredBy? (declarationLine name) "VAR" = some name := by
    rw [hword]
    simp [h.ne_nil]
  rw [show declared? (declarationLine name) =
    ["VAR", "CONST", "LIST"].findSome? (declaredBy? (declarationLine name)) from rfl,
    List.findSome?_cons, hfirst]

theorem harmless_added {patches : Patches} (h : PlainPatches patches) :
    (∀ line ∈ patches.globals.reverse.flatMap declarationLines, Harmless line) ∧
      ∀ line ∈ patches.knots.flatMap stubLines, Harmless line := by
  constructor
  · intro line hline
    obtain ⟨name, hname, hline⟩ := List.mem_flatMap.mp hline
    have hplain := h.1 name (List.mem_reverse.mp hname)
    simp only [declarationLines, List.mem_cons, List.not_mem_nil, or_false] at hline
    rcases hline with rfl | rfl
    · exact harmless_declarationLine hplain
    · exact harmless_nil
  · intro line hline
    obtain ⟨name, hname, hline⟩ := List.mem_flatMap.mp hline
    simp only [stubLines, List.mem_cons, List.not_mem_nil, or_false] at hline
    rcases hline with rfl | rfl | rfl | rfl
    · exact harmless_nil
    · exact harmless_headLine (h.2 name hname)
    · exact harmless_nil
    · exact harmless_exitLine

/-! ## The author's lines -/

/-- The text includes the same whether or not something follows it. -/
def KeepsLastInclude (text : String) : Prop :=
  include? (dropReturn (lastPiece text.toList)) = include? (lastPiece text.toList)

/-- The last line stands without a line feed, and only one blank and a carriage return are behind
    the keyword of its include. -/
def EndsInBareInclude (text : String) : Prop :=
  ∃ blank, isBlank blank = true ∧
    trimLeft (lastPiece text.toList) = "INCLUDE".toList ++ [blank, '\r']

theorem keepsLastInclude_of_not_bare {text : String} (h : ¬ EndsInBareInclude text) :
    KeepsLastInclude text := by
  unfold KeepsLastInclude
  rcases dropReturn_cases (lastPiece text.toList) with heq | heq
  · rw [heq]
  · have hreturn : include? (dropReturn (lastPiece text.toList) ++ ['\r']) =
        include? (dropReturn (lastPiece text.toList)) := by
      refine include?_return fun blank hblank hbare => h ⟨blank, hblank, ?_⟩
      rw [heq, trimLeft_return, hbare]
      rfl
    rw [← hreturn, ← heq]

theorem asks_dropReturn {line : List Char} (h : include? (dropReturn line) = include? line)
    (declared : Declared) : asks declared (dropReturn line) = asks declared line := by
  rcases dropReturn_cases line with heq | heq
  · rw [heq]
  · have htodo : isTodo line = isTodo (dropReturn line) := by
      rw [congrArg isTodo heq, isTodo_return]
    have huses : uses 0 line = uses 0 (dropReturn line) := by
      rw [congrArg (uses 0) heq, uses_return]
    have htargets : targets 0 line = targets 0 (dropReturn line) := by
      rw [congrArg (targets 0) heq, targets_return]
    unfold asks
    rw [htodo, huses, htargets, h]

theorem sound_dropReturn {handler : Option FileHandler} {line : List Char}
    (h : include? (dropReturn line) = include? line) (hsound : Sound handler line) :
    Sound handler (dropReturn line) := by
  rcases dropReturn_cases line with heq | heq
  · rwa [heq]
  · intro htodo
    rw [← isTodo_return, ← heq] at htodo
    obtain ⟨hbroken, hloads⟩ := hsound htodo
    rw [heq, broken_return] at hbroken
    rw [h]
    exact ⟨hbroken, hloads⟩

theorem declareLine_dropReturn {handler : Option FileHandler} {line : List Char}
    (h : include? (dropReturn line) = include? line) (nested : String → Declared → Declared)
    (declared : Declared) : declareLine handler nested (dropReturn line) declared =
      declareLine handler nested line declared := by
  rcases dropReturn_cases line with heq | heq
  · rw [heq]
  · have hheader : header? line = header? (dropReturn line) := by
      rw [congrArg header? heq, header?_return]
    have hdeclared : declared? line = declared? (dropReturn line) := by
      rw [congrArg declared? heq, declared?_return]
    unfold declareLine
    rw [hheader, hdeclared, h]

/-- How the author's lines change when stubs follow: an empty line is added, or the last line may lose
    a carriage return. -/
theorem bodyLines_cases (patches : Patches) (text : String) :
    bodyLines patches text = lines text.toList ∨
      bodyLines patches text = lines text.toList ++ [[]] ∨
      ∃ front, lines text.toList = front ++ [lastPiece text.toList] ∧
        bodyLines patches text = front ++ [dropReturn (lastPiece text.toList)] := by
  obtain ⟨front, hlines, hended⟩ := lines_eq text.toList
  unfold bodyLines
  split
  · exact Or.inl rfl
  · refine Or.inr ?_
    split at hlines
    · next hempty =>
      rw [List.isEmpty_iff.mp hempty] at hended
      rw [hended, hlines, List.append_nil]
      exact Or.inl rfl
    · exact Or.inr ⟨front, hlines, hended⟩

theorem bodyLines_asks {text : String} (h : KeepsLastInclude text) (patches : Patches)
    (declared : Declared) : (bodyLines patches text).flatMap (asks declared) =
      (lines text.toList).flatMap (asks declared) := by
  rcases bodyLines_cases patches text with heq | heq | ⟨front, hlines, heq⟩
  · rw [heq]
  · rw [heq, List.flatMap_append, List.flatMap_singleton, harmless_nil.asks_eq, List.append_nil]
  · rw [heq, hlines, List.flatMap_append, List.flatMap_append, List.flatMap_singleton,
      List.flatMap_singleton, asks_dropReturn h]

theorem bodyLines_sound {handler : Option FileHandler} {text : String} (h : KeepsLastInclude text)
    (hsound : ∀ line ∈ lines text.toList, Sound handler line) (patches : Patches) :
    ∀ line ∈ bodyLines patches text, Sound handler line := by
  rcases bodyLines_cases patches text with heq | heq | ⟨front, hlines, heq⟩
  · rwa [heq]
  · rw [heq]
    refine List.forall_mem_append.mpr ⟨hsound, ?_⟩
    simpa using harmless_nil.sound handler
  · rw [hlines] at hsound
    obtain ⟨hfront, hlast⟩ := List.forall_mem_append.mp hsound
    rw [heq]
    refine List.forall_mem_append.mpr ⟨hfront, ?_⟩
    simpa using sound_dropReturn h (hlast _ List.mem_cons_self)

theorem declareLines_append (handler : Option FileHandler) (nested : String → Declared → Declared)
    (front back : List (List Char)) (declared : Declared) :
    declareLines handler nested (front ++ back) declared =
      declareLines handler nested back (declareLines handler nested front declared) :=
  List.foldl_append

theorem bodyLines_declare {text : String} (h : KeepsLastInclude text) (patches : Patches)
    (handler : Option FileHandler) (nested : String → Declared → Declared) (declared : Declared) :
    declareLines handler nested (bodyLines patches text) declared =
      declareLines handler nested (lines text.toList) declared := by
  have hempty (declared : Declared) : declareLine handler nested [] declared = declared := by
    cases handler <;> rfl
  rcases bodyLines_cases patches text with heq | heq | ⟨front, hlines, heq⟩
  · rw [heq]
  · rw [heq, declareLines_append]
    exact hempty _
  · rw [heq, hlines, declareLines_append, declareLines_append]
    exact declareLine_dropReturn h nested _

/-! ## The repaired text as a whole -/

theorem filterMap_declarationLines {names : List String} (h : ∀ name ∈ names, PlainName name) :
    (names.flatMap declarationLines).filterMap header? = [] ∧
      (names.flatMap declarationLines).filterMap declared? = names := by
  induction names with
  | nil => exact ⟨rfl, rfl⟩
  | cons name names ih =>
    obtain ⟨hheader, hdeclared⟩ := ih fun other hother => h other (List.mem_cons_of_mem name hother)
    have hname : (declarationLines name).filterMap declared? = [name] := by
      rw [declarationLines,
        List.filterMap_cons_some (declared?_declarationLine (h name List.mem_cons_self))]
      rfl
    rw [List.flatMap_cons, List.filterMap_append, List.filterMap_append, hheader, hdeclared, hname]
    exact ⟨rfl, rfl⟩

theorem filterMap_stubLines {names : List String} (h : ∀ name ∈ names, PlainName name) :
    (names.flatMap stubLines).filterMap header? = names ∧
      (names.flatMap stubLines).filterMap declared? = [] := by
  induction names with
  | nil => exact ⟨rfl, rfl⟩
  | cons name names ih =>
    obtain ⟨hheader, hdeclared⟩ := ih fun other hother => h other (List.mem_cons_of_mem name hother)
    have hname : (stubLines name).filterMap header? = [name] := by
      rw [stubLines, List.filterMap_cons_none (by rfl),
        List.filterMap_cons_some (header?_headLine (h name List.mem_cons_self))]
      rfl
    rw [List.flatMap_cons, List.filterMap_append, List.filterMap_append, hheader, hdeclared, hname]
    exact ⟨rfl, rfl⟩

/-- A repaired text declares the names of its repairs besides its own. -/
theorem declarations_render {patches : Patches} (h : PlainPatches patches) {text : String}
    (hlast : KeepsLastInclude text) (handler : Option FileHandler) :
    Extends patches.knots patches.globals (declarations handler text)
      (declarations handler (patches.render text)) := by
  obtain ⟨hfront, hback⟩ := harmless_added h
  rw [declarations, declarations, declareTo_succ, declareTo_succ]
  generalize handler.elim 0 (·.depth) = depth
  rw [lines_render h.word, declareLines_append, declareLines_append,
    bodyLines_declare hlast]
  -- The declarations in front come first, then the author's lines on top of them, then the stubs.
  have hdeclared := extends_plain handler (declareTo handler depth)
    (fun line hline => (hfront line hline).include_eq) ⟨[], [], []⟩
  have hnested := hdeclared.declareLines
    (fun included _ _ hextends => hextends.declareTo handler depth included) handler
    (lines text.toList)
  have hstubs := extends_plain handler (declareTo handler depth)
    (fun line hline => (hback line hline).include_eq)
    (declareLines handler (declareTo handler depth) (lines text.toList)
      (declareLines handler (declareTo handler depth)
        (patches.globals.reverse.flatMap declarationLines) ⟨[], [], []⟩))
  have hall := hnested.trans hstubs
  obtain ⟨hnone, hglobals⟩ := filterMap_declarationLines
    (fun name hname => h.1 name (List.mem_reverse.mp hname))
  obtain ⟨hknots, hnone'⟩ := filterMap_stubLines h.2
  rw [hnone, hglobals, hknots, hnone'] at hall
  constructor
  · intro name
    rw [hall.knots_iff, List.nil_append]
  · intro name
    rw [hall.globals_iff, List.append_nil, List.mem_reverse]
  · exact hall.seen_eq

theorem flatMap_asks_harmless {ls : List (List Char)} (h : ∀ line ∈ ls, Harmless line)
    (declared : Declared) : ls.flatMap (asks declared) = [] :=
  List.flatMap_eq_nil_iff.mpr fun line hline => (h line hline).asks_eq declared

/-- A repaired text asks for what is left. -/
theorem asks_render {patches : Patches} (h : PlainPatches patches) {text : String}
    (hlast : KeepsLastInclude text) (handler : Option FileHandler) :
    (lines (patches.render text).toList).flatMap
        (asks (declarations handler (patches.render text))) =
      ((lines text.toList).flatMap (asks (declarations handler text))).filter
        fun repair => !patches.contains repair := by
  obtain ⟨hfront, hback⟩ := harmless_added h
  have hextends := declarations_render h hlast handler
  rw [lines_render h.word, List.flatMap_append, List.flatMap_append, flatMap_asks_harmless hfront,
    flatMap_asks_harmless hback, bodyLines_asks hlast, List.append_nil, List.nil_append,
    List.filter_flatMap]
  exact List.flatMap_congr fun line _ => asks_extends hextends line

theorem sound_render {patches : Patches} (h : PlainPatches patches) {text : String}
    (hlast : KeepsLastInclude text) {handler : Option FileHandler}
    (hsound : ∀ line ∈ lines text.toList, Sound handler line) :
    ∀ line ∈ lines (patches.render text).toList, Sound handler line := by
  obtain ⟨hfront, hback⟩ := harmless_added h
  rw [lines_render h.word]
  refine List.forall_mem_append.mpr ⟨fun line hline => (hfront line hline).sound handler,
    List.forall_mem_append.mpr ⟨bodyLines_sound hlast hsound patches, ?_⟩⟩
  exact fun line hline => (hback line hline).sound handler

end Mini

end InkWorkspace
