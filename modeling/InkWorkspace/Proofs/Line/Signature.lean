import InkWorkspace.Proofs.Line.Name
import InkWorkspace.Proofs.Text.Lines
import InkWorkspace.Source.Item
import Mathlib.Data.List.DropRight

/- Headers as they are printed. The signature of a knot or a stitch is a header line itself, and it is
   read as what it was printed from (`signatures_read_back`).

   A parameter that was read off a header is trimmed and not empty, and holds neither a comma nor a
   closing parenthesis (`isParameter_of_mem`). So commas and blanks keep the parameters of a list apart,
   the first closing parenthesis is the one that was printed, and reading finds the same parameters again
   (`parametersOf_listing`, `parameters_parameterList`). Behind the name stands a parenthesis, a blank or
   nothing, none of which is part of a word, so the name is read as it was printed. A knot that is called
   `function` stays a knot, since no other word follows its name (`not_opensFunction`). -/
namespace InkWorkspace

open Text

namespace Text

theorem trim_trim (cs : List Char) : trim (trim cs) = trim cs := by
  have hleft (cs : List Char) : trimLeft (trimLeft cs) = trimLeft cs :=
    List.dropWhile_idempotent isBlank cs
  have hright (cs : List Char) : trimRight (trimRight cs) = trimRight cs := by
    unfold trimRight
    rw [List.reverse_reverse, List.dropWhile_idempotent]
  calc trim (trim cs) = trimRight (trimLeft (trimLeft (trimRight cs))) := by
        rw [trimLeft_trimRight, trim]
    _ = trimRight (trim cs) := by rw [hleft, trimLeft_trimRight]
    _ = trim cs := by rw [trim, hright]

end Text

namespace LineShape

/-! ## Parameters -/

/-- What a parameter in a list is: trimmed, not empty, and without a character that ends it. -/
structure IsParameter (parameter : List Char) : Prop where
  ne_nil : parameter ≠ []
  trimmed : trim parameter = parameter
  comma : ',' ∉ parameter
  closing : ')' ∉ parameter

theorem isParameter_of_mem {inside : List Char} (hinside : ')' ∉ inside) {parameter : String}
    (h : parameter ∈ parametersOf inside) : IsParameter parameter.toList := by
  obtain ⟨trimmed, htrimmed, rfl⟩ := List.mem_map.mp h
  obtain ⟨hmem, hne⟩ := List.mem_filter.mp htrimmed
  obtain ⟨piece, hpiece, rfl⟩ := List.mem_map.mp hmem
  rw [String.toList_ofList]
  refine ⟨by simpa using hne, trim_trim piece, ?_, ?_⟩
  · exact fun hcomma => not_mem_of_mem_splitOn hpiece (mem_of_mem_trim hcomma)
  · exact fun hclosing => hinside (mem_of_mem_splitOn hpiece (mem_of_mem_trim hclosing))

theorem Parameters.isParameter {behind : List Char} {parameters : List String}
    (h : Parameters behind parameters) : ∀ parameter ∈ parameters, IsParameter parameter.toList := by
  intro parameter hparameter
  cases h with
  | listed hencloses =>
    obtain ⟨gap, rest, -, -, hinside⟩ := hencloses
    exact isParameter_of_mem hinside hparameter
  | missing => cases hparameter

theorem parametersOf_append (front back : List Char) :
    parametersOf (front ++ ',' :: back) = parametersOf front ++ parametersOf back := by
  simp only [parametersOf, splitOn_append, List.map_append, List.filter_append]

theorem parametersOf_parameter {parameter : String} (h : IsParameter parameter.toList) :
    parametersOf parameter.toList = [parameter] := by
  simp [parametersOf, splitOn_of_not_mem h.comma, h.trimmed, h.ne_nil]

theorem parametersOf_blank (cs : List Char) : parametersOf (' ' :: cs) = parametersOf cs := by
  cases hsplit : splitOn ',' cs with
  | nil => exact absurd hsplit (splitOn_ne_nil ',' cs)
  | cons piece pieces =>
    have hcons : splitOn ',' (' ' :: cs) = (' ' :: piece) :: pieces := by
      simp [splitOn, hsplit]
    have htrim : trim (' ' :: piece) = trim piece := by
      rw [trim, trim, trimLeft, List.dropWhile_cons_of_pos (by decide)]
      rfl
    simp only [parametersOf, hcons, hsplit, List.map_cons, htrim]

/-- Reading a list of parameters finds the parameters that were listed. -/
theorem parametersOf_listing {parameters : List String}
    (h : ∀ parameter ∈ parameters, IsParameter parameter.toList) :
    parametersOf (", ".intercalate parameters).toList = parameters := by
  induction parameters with
  | nil => rfl
  | cons first parameters ih =>
    have hfirst := parametersOf_parameter (h first List.mem_cons_self)
    have hrest := ih fun parameter hmem => h parameter (List.mem_cons_of_mem first hmem)
    cases parameters with
    | nil => rw [String.intercalate_singleton, hfirst]
    | cons second parameters =>
      have hlist : (", ".intercalate (first :: second :: parameters)).toList =
          first.toList ++ ',' :: ' ' :: (", ".intercalate (second :: parameters)).toList := by
        simp [String.intercalate_cons_cons]
      rw [hlist, parametersOf_append, hfirst, parametersOf_blank, hrest]
      rfl

theorem closing_not_mem_listing {parameters : List String}
    (h : ∀ parameter ∈ parameters, IsParameter parameter.toList) :
    ')' ∉ (", ".intercalate parameters).toList := by
  induction parameters with
  | nil => simp
  | cons first parameters ih =>
    have hfirst := (h first List.mem_cons_self).closing
    have hrest := ih fun parameter hmem => h parameter (List.mem_cons_of_mem first hmem)
    cases parameters with
    | nil => rwa [String.intercalate_singleton]
    | cons second parameters =>
      simp only [String.intercalate_cons_cons, String.toList_append, List.mem_append, not_or]
      exact ⟨⟨hfirst, by decide⟩, hrest⟩

/-! ## What stands behind a printed name -/

theorem blanks_nil : Blanks [] := by
  intro c hc
  cases hc

theorem blanks_space : Blanks [' '] := by
  intro c hc
  rw [List.mem_singleton.mp hc]
  decide

/-- Nothing that a printed header has behind its parameters opens a list or is part of a word. -/
structure Closes (back : List Char) : Prop where
  opens : ∀ c ∈ (trimLeft back).head?, c ≠ '(' ∧ isWord c = false
  ends : ∀ c ∈ back.head?, isWord c = false

theorem closes_nil : Closes [] := by
  constructor
  · intro c hc
    cases hc
  · intro c hc
    cases hc

theorem closes_marks : Closes " ===".toList := by
  constructor
  · intro c hc
    obtain rfl : c = '=' := by
      have hhead : (trimLeft " ===".toList).head? = some '=' := by decide
      rw [hhead] at hc
      exact (Option.some.inj hc).symm
    exact ⟨by decide, by decide⟩
  · intro c hc
    obtain rfl : c = ' ' := (Option.some.inj hc).symm
    decide

section ParameterList

variable (header : Header) {back : List Char}

theorem parameterList_of_ne_nil (hne : header.parameters ≠ []) :
    header.parameterList.toList ++ back =
      '(' :: ((", ".intercalate header.parameters).toList ++ ')' :: back) := by
  have hempty : header.parameters.isEmpty = false := by simpa using hne
  simp [Header.parameterList, hempty]

theorem parameterList_of_nil (hnil : header.parameters = []) :
    header.parameterList.toList ++ back = back := by
  simp [Header.parameterList, hnil]

theorem parameters_parameterList (hparameters : ∀ p ∈ header.parameters, IsParameter p.toList)
    (hback : Closes back) : Parameters (header.parameterList.toList ++ back) header.parameters := by
  by_cases hnil : header.parameters = []
  · rw [parameterList_of_nil header hnil, hnil, parameters_iff, parametersAfter]
    split
    · next inside htrim => exact absurd rfl (hback.opens '(' (by rw [htrim]; rfl)).1
    · rfl
  · rw [parameterList_of_ne_nil header hnil]
    have hencloses : Encloses ('(' :: ((", ".intercalate header.parameters).toList ++ ')' :: back))
        (", ".intercalate header.parameters).toList :=
      ⟨[], back, rfl, blanks_nil, closing_not_mem_listing hparameters⟩
    have hlisted := Parameters.listed hencloses
    rwa [parametersOf_listing hparameters] at hlisted

theorem wordRun_parameterList {word : List Char} (hne : word ≠ [])
    (hword : ∀ c ∈ word, isWord c = true) (hback : Closes back) :
    WordRun word (header.parameterList.toList ++ back) := by
  refine ⟨hne, hword, ?_⟩
  by_cases hnil : header.parameters = []
  · rw [parameterList_of_nil header hnil]
    exact hback.ends
  · rw [parameterList_of_ne_nil header hnil]
    intro c hc
    cases hc
    decide

/-- The word `function` is followed by no other word. -/
theorem not_opensFunction (word : List Char) (hback : Closes back) :
    ¬ OpensFunction word (header.parameterList.toList ++ back) := by
  intro hopens
  obtain ⟨-, gap, c, rest, hbehind, hne, hgap, hc⟩ := hopens
  by_cases hnil : header.parameters = []
  · rw [parameterList_of_nil header hnil] at hbehind
    have htrim : trimLeft back = c :: rest := by
      rw [hbehind]
      exact trimLeft_append hgap (isBlank_eq_false_of_isWord hc) rest
    have hstop := (hback.opens c (by rw [htrim]; rfl)).2
    rw [hc] at hstop
    cases hstop
  · rw [parameterList_of_ne_nil header hnil] at hbehind
    obtain ⟨blank, gap, rfl⟩ := List.exists_cons_of_ne_nil hne
    obtain ⟨rfl, -⟩ := List.cons.inj hbehind
    have hblank := hgap '(' List.mem_cons_self
    revert hblank
    decide

end ParameterList

/-! ## Signatures -/

/-- What a header that was read from a line has: a word for a name, and parameters. -/
structure Printable (h : Header) : Prop where
  ne_nil : h.name.toList ≠ []
  word : ∀ c ∈ h.name.toList, isWord c = true
  parameters : ∀ parameter ∈ h.parameters, IsParameter parameter.toList

theorem Grammar.isParameter {line : List Char} {shape : LineShape} (h : Grammar line shape)
    {parameters : List String} (hshape : (∃ kind name, shape = .knot kind name parameters) ∨
      ∃ name, shape = .stitch name parameters) :
    ∀ parameter ∈ parameters, IsParameter parameter.toList := by
  rcases hshape with ⟨kind, name, rfl⟩ | ⟨name, rfl⟩
  · cases h with
    | knot _ _ _ _ _ hparameters => exact hparameters.isParameter
    | function _ _ _ _ _ _ hparameters => exact hparameters.isParameter
  · cases h with
    | stitch _ _ _ hparameters => exact hparameters.isParameter

theorem knot_printable {line : List Char} {name : Token} {k : Knot}
    (h : classify line = .knot k.kind name k.parameters) (hname : k.name = name.text) :
    Printable k.toHeader := by
  have hheader : (classify line).headerName? = some name := by rw [h]; rfl
  obtain ⟨hne, hword⟩ := headerName?_word hheader
  rw [← hname] at hne hword
  exact ⟨hne, hword, ((classify_eq_header_iff rfl).mp h).isParameter (Or.inl ⟨_, _, rfl⟩)⟩

theorem stitch_printable {line : List Char} {name : Token} {s : Stitch}
    (h : classify line = .stitch name s.parameters) (hname : s.name = name.text) :
    Printable s.toHeader := by
  have hheader : (classify line).headerName? = some name := by rw [h]; rfl
  obtain ⟨hne, hword⟩ := headerName?_word hheader
  rw [← hname] at hne hword
  exact ⟨hne, hword, ((classify_eq_header_iff rfl).mp h).isParameter (Or.inr ⟨_, rfl⟩)⟩

theorem isLead_replicate (count : Nat) : IsLead count (List.replicate count '=' ++ [' ']) :=
  ⟨[], [' '], rfl, blanks_nil, blanks_space⟩

theorem classify_knot_signature {k : Knot} (h : Printable k.toHeader) :
    ∃ again, classify k.signature.toList = .knot k.kind again k.parameters ∧
      again.text = k.name := by
  have hlead : IsLead 3 "=== ".toList := isLead_replicate 3
  have hrun := wordRun_parameterList k.toHeader h.ne_nil h.word closes_marks
  have hparameters := parameters_parameterList k.toHeader h.parameters closes_marks
  cases hkind : k.kind with
  | knot =>
    have hline : k.signature.toList = "=== ".toList ++
        (k.name.toList ++ (k.parameterList.toList ++ " ===".toList)) := by
      simp [Knot.signature, hkind]
    refine ⟨.after "=== ".toList k.name.toList, ?_, String.ofList_toList⟩
    refine (classify_eq_header_iff rfl).mpr ?_
    exact .knot hline hlead (by decide) hrun (not_opensFunction k.toHeader _ closes_marks) hparameters
  | function =>
    have hfunction : "function ".toList = functionWord ++ [' '] := by decide
    have hline : k.signature.toList = "=== ".toList ++ (functionWord ++ ([' '] ++
        (k.name.toList ++ (k.parameterList.toList ++ " ===".toList)))) := by
      simp only [Knot.signature, hkind, String.toList_append, hfunction, List.append_assoc]
    refine ⟨.after ("=== ".toList ++ functionWord ++ [' ']) k.name.toList, ?_, String.ofList_toList⟩
    refine (classify_eq_header_iff rfl).mpr ?_
    exact .function hline hlead (by decide) (List.cons_ne_nil _ _) blanks_space hrun hparameters

theorem classify_stitch_signature {s : Stitch} (h : Printable s.toHeader) :
    ∃ again, classify s.signature.toList = .stitch again s.parameters ∧ again.text = s.name := by
  have hrun := wordRun_parameterList s.toHeader h.ne_nil h.word closes_nil
  have hparameters := parameters_parameterList s.toHeader h.parameters closes_nil
  have hline : s.signature.toList = "= ".toList ++
      (s.name.toList ++ (s.parameterList.toList ++ [])) := by
    simp [Stitch.signature]
  refine ⟨.after "= ".toList s.name.toList, ?_, String.ofList_toList⟩
  refine (classify_eq_header_iff rfl).mpr ?_
  exact .stitch hline (isLead_replicate 1) hrun hparameters

/-- What is read from a header line, as a knot, a function or a stitch, is read from its signature
    again: the kind, the name and the parameters. -/
theorem signatures_read_back (line : List Char) :
    (∀ (k : Knot) (name : Token), classify line = .knot k.kind name k.parameters →
      k.name = name.text →
        ∃ again, classify k.signature.toList = .knot k.kind again k.parameters ∧
          again.text = k.name) ∧
    ∀ (s : Stitch) (name : Token), classify line = .stitch name s.parameters →
      s.name = name.text →
        ∃ again, classify s.signature.toList = .stitch again s.parameters ∧
          again.text = s.name :=
  ⟨fun _ _ h hname => classify_knot_signature (knot_printable h hname),
    fun _ _ h hname => classify_stitch_signature (stitch_printable h hname)⟩

namespace Respelled

/-- The header of a knot that is called `function`, as no other word follows. -/
def knotLine : List Char := "\t==function ( -> a ,( b,, ) x".toList

def knot : Knot :=
  { name := "function", parameters := ["-> a", "( b"], line := 0,
    range := .onLine 0 knotLine 3 11, kind := .knot, stitches := [] }

/-- The header of a stitch in it. -/
def stitchLine : List Char := " = é( x,ref y ) z".toList

def stitch : Stitch :=
  { name := "é", parameters := ["x", "ref y"], line := 1, range := .onLine 1 stitchLine 3 5,
    knot := "function" }

/-- Neither an arrow nor an opening parenthesis in a parameter keeps a signature from being read. -/
theorem both_signatures_read_back :
    classify knotLine = .knot .knot ⟨"function", 3, 11⟩ ["-> a", "( b"] ∧
      knot.signature = "=== function(-> a, ( b) ===" ∧
      (∃ again, classify knot.signature.toList = .knot .knot again ["-> a", "( b"] ∧
        again.text = "function") ∧
      classify stitchLine = .stitch ⟨"é", 3, 5⟩ ["x", "ref y"] ∧
      stitch.signature = "= é(x, ref y)" ∧
      ∃ again, classify stitch.signature.toList = .stitch again ["x", "ref y"] ∧
        again.text = "é" := by
  have hknot : classify knotLine = .knot .knot ⟨"function", 3, 11⟩ ["-> a", "( b"] := by
    decide +kernel
  have hstitch : classify stitchLine = .stitch ⟨"é", 3, 5⟩ ["x", "ref y"] := by decide +kernel
  exact ⟨hknot, by decide +kernel, (signatures_read_back knotLine).1 knot _ hknot rfl,
    hstitch, by decide +kernel, (signatures_read_back stitchLine).2 stitch _ hstitch rfl⟩

end Respelled

end LineShape

end InkWorkspace
