import InkWorkspace.Proofs.Line.Inclusion

/- The grammar of the lines that an index knows. It is written without scanning: a line has a shape if
   it can be put together from pieces in a certain way, each a run of characters of one kind or a
   keyword (`Grammar`). `classify_grammar` says that reading a line finds its shape, with the name, the
   kind and the parameters that belong to it, and finds none on the other lines.

   A run that goes on as far as it can is the one that scanning finds (`run_eq_iff`), so each part of a
   line is read exactly if it is written there: names (`nameAt?_eq_some_iff`), parameters
   (`parameters_iff`), headers (`header?_eq_some_iff`), includes (`includePath?_eq_some_iff`) and
   declarations (`declaration?_eq_some_iff`). The order in which the shapes are tried does not matter:
   the first character behind the blanks tells headers, includes and the three kinds of declarations
   apart (`header?_first`, `includePath?_first`, `declaration?_first`). -/
namespace InkWorkspace

open Text

namespace LineShape

/-! ## Pieces of a line -/

/-- Blanks only, perhaps none. -/
def Blanks (cs : List Char) : Prop :=
  ∀ c ∈ cs, isBlank c = true

/-- A word in front of `behind` that goes on as far as it can. -/
structure WordRun (word behind : List Char) : Prop where
  ne_nil : word ≠ []
  word : ∀ c ∈ word, isWord c = true
  ends : ∀ c ∈ behind.head?, isWord c = false

/-- What stands in front of the name of a header: blanks, that many equals signs, and blanks. -/
def IsLead (count : Nat) (front : List Char) : Prop :=
  ∃ indent gap, front = indent ++ (List.replicate count '=' ++ gap) ∧ Blanks indent ∧ Blanks gap

/-- The line begins like a header: a lead and the first character of a word. -/
def Opens (count : Nat) (line : List Char) : Prop :=
  ∃ front c rest, line = front ++ c :: rest ∧ IsLead count front ∧ isWord c = true

/-- The word `function` in front of blanks and another word. -/
def OpensFunction (word behind : List Char) : Prop :=
  word = functionWord ∧ ∃ gap c rest, behind = gap ++ c :: rest ∧ gap ≠ [] ∧ Blanks gap ∧
    isWord c = true

/-- Blanks and a pair of parentheses around `inside`, the second one the first that closes. -/
def Encloses (behind inside : List Char) : Prop :=
  ∃ gap rest, behind = gap ++ '(' :: (inside ++ ')' :: rest) ∧ Blanks gap ∧ ')' ∉ inside

/-- The parameters that stand behind a name: those between the parentheses, and none if there are no
    parentheses or they are not closed. -/
inductive Parameters (behind : List Char) : List String → Prop where
  | listed {inside : List Char} : Encloses behind inside → Parameters behind (parametersOf inside)
  | missing : (∀ inside, ¬ Encloses behind inside) → Parameters behind []

/-- An include line with that path: what follows the keyword and a blank, trimmed. -/
def Includes (line : List Char) (path : String) : Prop :=
  ∃ indent blank rest, line = indent ++ (includeWord ++ blank :: rest) ∧ Blanks indent ∧
    isBlank blank = true ∧ trim rest ≠ [] ∧ path = String.ofList (trim rest)

/-- A declaration of that kind and name: the keyword, blanks, a word, blanks and an equals sign. -/
def Declares (line : List Char) (kind : VariableKind) (name : Token) : Prop :=
  ∃ indent gap word between rest,
    line = indent ++ (kind.keyword.toList ++ (gap ++ (word ++ (between ++ '=' :: rest)))) ∧
    Blanks indent ∧ gap ≠ [] ∧ Blanks gap ∧ word ≠ [] ∧ (∀ c ∈ word, isWord c = true) ∧
    Blanks between ∧ name = .after (indent ++ (kind.keyword.toList ++ gap)) word

/-- How the lines of each shape are written. -/
inductive Grammar (line : List Char) : LineShape → Prop where
  | knot {count : Nat} {front word behind : List Char} {parameters : List String} :
    line = front ++ (word ++ behind) → IsLead count front → 2 ≤ count →
      WordRun word behind → ¬ OpensFunction word behind → Parameters behind parameters →
      Grammar line (.knot .knot (.after front word) parameters)
  | function {count : Nat} {front gap word behind : List Char} {parameters : List String} :
    line = front ++ (functionWord ++ (gap ++ (word ++ behind))) → IsLead count front → 2 ≤ count →
      gap ≠ [] → Blanks gap → WordRun word behind → Parameters behind parameters →
      Grammar line (.knot .function (.after (front ++ functionWord ++ gap) word) parameters)
  | stitch {front word behind : List Char} {parameters : List String} :
    line = front ++ (word ++ behind) → IsLead 1 front → WordRun word behind →
      Parameters behind parameters → Grammar line (.stitch (.after front word) parameters)
  | inclusion {path : String} : Includes line path → Grammar line (.inclusion path)
  | declaration {kind : VariableKind} {name : Token} :
    Declares line kind name → Grammar line (.declaration kind name)

/-! ## Runs -/

/-- Scanning a text for a run cuts it behind the longest one. -/
theorem run_eq_iff {p : Char → Bool} {cs front behind : List Char} :
    run p cs = (front, behind) ↔ cs = front ++ behind ∧ (∀ c ∈ front, p c = true) ∧
      ∀ c ∈ behind.head?, p c = false := by
  constructor
  · intro h
    obtain ⟨rfl, rfl⟩ := Prod.mk.inj h
    refine ⟨List.takeWhile_append_dropWhile.symm, List.all_eq_true.mp List.all_takeWhile, ?_⟩
    intro c hc
    have hstop := List.head?_dropWhile_not p cs
    rw [Option.mem_def.mp hc] at hstop
    simpa using hstop
  · intro h
    obtain ⟨rfl, hfront, hends⟩ := h
    have htake : behind.takeWhile p = [] ∧ behind.dropWhile p = behind := by
      cases behind with
      | nil => exact ⟨rfl, rfl⟩
      | cons c behind =>
        have hc := hends c rfl
        exact ⟨List.takeWhile_cons_of_neg (by simp [hc]), List.dropWhile_cons_of_neg (by simp [hc])⟩
    rw [run, List.takeWhile_append_of_pos hfront, List.dropWhile_append_of_pos hfront, htake.1,
      htake.2, List.append_nil]

theorem run_spec (p : Char → Bool) (cs : List Char) :
    cs = (run p cs).1 ++ (run p cs).2 ∧ (∀ c ∈ (run p cs).1, p c = true) ∧
      ∀ c ∈ (run p cs).2.head?, p c = false :=
  run_eq_iff.mp rfl

theorem WordRun.run_eq {word behind : List Char} (h : WordRun word behind) :
    run isWord (word ++ behind) = (word, behind) :=
  run_eq_iff.mpr ⟨rfl, h.word, h.ends⟩

theorem WordRun.unique {word behind other rest : List Char} (h : WordRun word behind)
    (hother : WordRun other rest) (heq : word ++ behind = other ++ rest) :
    word = other ∧ behind = rest :=
  Prod.mk.inj (h.run_eq.symm.trans (heq ▸ hother.run_eq))

theorem exists_wordRun {c : Char} (hc : isWord c = true) (rest : List Char) :
    ∃ word behind, c :: rest = word ++ behind ∧ WordRun word behind := by
  obtain ⟨heq, hword, hends⟩ := run_eq_iff.mp (rfl : run isWord (c :: rest) = _)
  exact ⟨_, _, heq, by simp [hc], hword, hends⟩

theorem nameAt?_eq_some_iff {before rest tail : List Char} {name : Token} :
    nameAt? before rest = some (name, tail) ↔
      ∃ word, rest = word ++ tail ∧ WordRun word tail ∧ name = .after before word := by
  unfold nameAt?
  cases hrun : run isWord rest with
  | mk word behind =>
    obtain ⟨rfl, hword, hends⟩ := run_eq_iff.mp hrun
    dsimp only
    split
    · next hempty =>
      refine ⟨nofun, ?_⟩
      intro h
      obtain ⟨found, heq, hfound, -⟩ := h
      rw [heq, hfound.run_eq] at hrun
      exact absurd ((Prod.mk.inj hrun).1.trans (List.isEmpty_iff.mp hempty)) hfound.ne_nil
    · next hne =>
      have hfirst : WordRun word behind := ⟨by simpa using hne, hword, hends⟩
      constructor
      · intro h
        cases h
        exact ⟨word, rfl, hfirst, rfl⟩
      · intro h
        obtain ⟨found, heq, hfound, rfl⟩ := h
        obtain ⟨rfl, rfl⟩ := hfirst.unique hfound heq
        rfl

theorem run_blanks {gap word : List Char} (hgap : Blanks gap) (hne : word ≠ [])
    (hword : ∀ c ∈ word, isWord c = true) (behind : List Char) :
    run isBlank (gap ++ (word ++ behind)) = (gap, word ++ behind) := by
  refine run_eq_iff.mpr ⟨rfl, hgap, ?_⟩
  obtain ⟨c, more, rfl⟩ := List.exists_cons_of_ne_nil hne
  intro d hd
  cases hd
  exact isBlank_eq_false_of_isWord (hword c List.mem_cons_self)

theorem isWord_eq_false_of_isBlank {c : Char} (h : isBlank c = true) : isWord c = false := by
  cases hword : isWord c with
  | false => rfl
  | true =>
    rw [isBlank_eq_false_of_isWord hword] at h
    cases h

/-- Behind a word may stand blanks and a character that is no part of a word. -/
theorem ends_behind {gap : List Char} (hgap : Blanks gap) {stop : Char} (hstop : isWord stop = false)
    (rest : List Char) : ∀ c ∈ (gap ++ stop :: rest).head?, isWord c = false := by
  intro c hc
  cases gap with
  | nil =>
    cases hc
    exact hstop
  | cons blank gap =>
    cases hc
    exact isWord_eq_false_of_isBlank (hgap c List.mem_cons_self)

/-! ## Parameters -/

theorem trimLeft_append {gap : List Char} (hgap : Blanks gap) {c : Char} (hc : isBlank c = false)
    (behind : List Char) : trimLeft (gap ++ c :: behind) = c :: behind :=
  dropWhile_run hgap hc behind

theorem encloses_iff {behind inside : List Char} :
    Encloses behind inside ↔
      ∃ rest, trimLeft behind = '(' :: (inside ++ ')' :: rest) ∧ ')' ∉ inside := by
  constructor
  · intro h
    obtain ⟨gap, rest, rfl, hgap, hinside⟩ := h
    exact ⟨rest, trimLeft_append hgap (by decide) _, hinside⟩
  · intro h
    obtain ⟨rest, htrim, hinside⟩ := h
    refine ⟨behind.takeWhile isBlank, rest, ?_, List.all_eq_true.mp List.all_takeWhile, hinside⟩
    rw [← htrim]
    exact List.takeWhile_append_dropWhile.symm

/-- A text with a closing parenthesis is cut at the first one. -/
theorem closed_iff {cs inside : List Char} :
    (∃ rest, cs = inside ++ ')' :: rest ∧ ')' ∉ inside) ↔
      ')' ∈ cs ∧ cs.takeWhile (· ≠ ')') = inside := by
  constructor
  · intro h
    obtain ⟨rest, rfl, hinside⟩ := h
    refine ⟨by simp, takeWhile_run (fun c hc => ?_) (by simp) rest⟩
    simpa using ne_of_mem_of_not_mem hc hinside
  · intro h
    obtain ⟨hclosed, rfl⟩ := h
    obtain ⟨front, back, rfl, hfront⟩ := List.eq_append_cons_of_mem hclosed
    have htake : (front ++ ')' :: back).takeWhile (· ≠ ')') = front := by
      refine takeWhile_run (fun c hc => ?_) (by simp) back
      simpa using ne_of_mem_of_not_mem hc hfront
    rw [htake]
    exact ⟨back, rfl, hfront⟩

theorem parametersAfter_of_encloses {behind inside : List Char} (h : Encloses behind inside) :
    parametersAfter behind = parametersOf inside := by
  obtain ⟨rest, htrim, hinside⟩ := encloses_iff.mp h
  obtain ⟨hclosed, htake⟩ := closed_iff.mp ⟨rest, rfl, hinside⟩
  simp only [parametersAfter, htrim, if_pos hclosed, htake]

theorem parametersAfter_of_not_encloses {behind : List Char} (h : ∀ inside, ¬ Encloses behind inside) :
    parametersAfter behind = [] := by
  unfold parametersAfter
  split
  · next cs htrim =>
    split
    · next hclosed =>
      obtain ⟨rest, hcs, hinside⟩ := closed_iff.mpr ⟨hclosed, rfl⟩
      exact absurd (encloses_iff.mpr ⟨rest, htrim.trans (by rw [← hcs]), hinside⟩) (h _)
    · rfl
  · rfl

theorem parameters_iff {behind : List Char} {parameters : List String} :
    Parameters behind parameters ↔ parametersAfter behind = parameters := by
  constructor
  · intro h
    cases h with
    | listed h => exact parametersAfter_of_encloses h
    | missing h => exact parametersAfter_of_not_encloses h
  · intro h
    subst h
    by_cases h : ∃ inside, Encloses behind inside
    · obtain ⟨inside, hinside⟩ := h
      rw [parametersAfter_of_encloses hinside]
      exact .listed hinside
    · rw [not_exists] at h
      rw [parametersAfter_of_not_encloses h]
      exact .missing h

/-! ## Names of knots -/

theorem functionWord_isWord : ∀ c ∈ functionWord, isWord c = true :=
  List.all_eq_true.mp (by decide)

/-- The kind `function` and the name of a knot header that has them. -/
def functionName? (before rest : List Char) : Option (KnotKind × Token × List Char) := do
  let tail ← dropWord? functionWord rest
  let (gap, tail) := run isBlank tail
  if gap.isEmpty then none
  let (name, tail) ← nameAt? (before ++ functionWord ++ gap) tail
  return (.function, name, tail)

theorem knotName?_eq (before rest : List Char) :
    knotName? before rest = (functionName? before rest).or
      ((nameAt? before rest).map fun (name, tail) => (.knot, name, tail)) := by
  rw [knotName?, Option.orElse_eq_orElse, Option.orElse_eq_or]
  rfl

theorem functionName?_eq_some_iff {before rest tail : List Char} {kind : KnotKind} {name : Token} :
    functionName? before rest = some (kind, name, tail) ↔
      kind = .function ∧ ∃ gap word, rest = functionWord ++ (gap ++ (word ++ tail)) ∧ gap ≠ [] ∧
        Blanks gap ∧ WordRun word tail ∧ name = .after (before ++ functionWord ++ gap) word := by
  unfold functionName?
  constructor
  · intro h
    obtain ⟨behind, hbehind, h⟩ := Option.bind_eq_some_iff.mp h
    -- Without a blank behind the keyword, it is the beginning of a knot's name.
    cases hrun : run isBlank behind with
    | mk gap more =>
      obtain ⟨rfl, hgap, -⟩ := run_eq_iff.mp hrun
      rw [hrun] at h
      dsimp only at h
      split at h
      · cases h
      · next hne =>
        obtain ⟨⟨found, left⟩, hfound, heq⟩ := Option.bind_eq_some_iff.mp h
        cases heq
        obtain ⟨word, rfl, hword, rfl⟩ := nameAt?_eq_some_iff.mp hfound
        exact ⟨rfl, gap, word, dropWord?_eq_some_iff.mp hbehind, by simpa using hne, hgap, hword, rfl⟩
  · intro h
    obtain ⟨rfl, gap, word, rfl, hne, hgap, hword, rfl⟩ := h
    have hname : nameAt? (before ++ functionWord ++ gap) (word ++ tail) =
        some (.after (before ++ functionWord ++ gap) word, tail) :=
      nameAt?_eq_some_iff.mpr ⟨word, rfl, hword, rfl⟩
    rw [dropWord?_eq_some_iff.mpr rfl]
    simp only [Option.bind_eq_bind, Option.bind_some, run_blanks hgap hword.ne_nil hword.word tail,
      List.isEmpty_iff, hne, if_false, hname]
    rfl

theorem functionWord_run {gap : List Char} (hne : gap ≠ []) (hgap : Blanks gap)
    (behind : List Char) : WordRun functionWord (gap ++ behind) := by
  refine ⟨by decide, functionWord_isWord, ?_⟩
  obtain ⟨c, more, rfl⟩ := List.exists_cons_of_ne_nil hne
  intro d hd
  cases hd
  exact isWord_eq_false_of_isBlank (hgap c List.mem_cons_self)

theorem functionName?_eq_none_iff {before word tail : List Char} (hword : WordRun word tail) :
    functionName? before (word ++ tail) = none ↔ ¬ OpensFunction word tail := by
  constructor
  · intro hnone hopens
    obtain ⟨rfl, gap, c, rest, rfl, hne, hgap, hc⟩ := hopens
    obtain ⟨name, left, hcut, hname⟩ := exists_wordRun hc rest
    rw [hcut, functionName?_eq_some_iff.mpr ⟨rfl, gap, name, rfl, hne, hgap, hname, rfl⟩] at hnone
    cases hnone
  · intro hnot
    refine Option.eq_none_iff_forall_ne_some.mpr ?_
    intro ⟨kind, name, left⟩ hsome
    obtain ⟨rfl, gap, found, hcut, hne, hgap, hfound, rfl⟩ := functionName?_eq_some_iff.mp hsome
    -- Blanks end the word `function`, so it is the whole first word.
    obtain ⟨rfl, rfl⟩ := hword.unique (functionWord_run hne hgap _) hcut
    obtain ⟨c, more, rfl⟩ := List.exists_cons_of_ne_nil hfound.ne_nil
    exact hnot ⟨rfl, gap, c, more ++ left, rfl, hne, hgap, hfound.word c List.mem_cons_self⟩

/-- A knot header names a function behind the word `function`, and else what its first word is. -/
theorem knotName?_eq_some_iff {before rest tail : List Char} {kind : KnotKind} {name : Token} :
    knotName? before rest = some (kind, name, tail) ↔
      (kind = .function ∧ ∃ gap word, rest = functionWord ++ (gap ++ (word ++ tail)) ∧ gap ≠ [] ∧
        Blanks gap ∧ WordRun word tail ∧ name = .after (before ++ functionWord ++ gap) word) ∨
      (kind = .knot ∧ ∃ word, rest = word ++ tail ∧ WordRun word tail ∧ ¬ OpensFunction word tail ∧
        name = .after before word) := by
  rw [knotName?_eq, Option.or_eq_some_iff, functionName?_eq_some_iff]
  refine or_congr_right ?_
  constructor
  · intro h
    obtain ⟨hnone, hname⟩ := h
    obtain ⟨⟨found, left⟩, hfound, heq⟩ := Option.map_eq_some_iff.mp hname
    cases heq
    obtain ⟨word, rfl, hword, rfl⟩ := nameAt?_eq_some_iff.mp hfound
    exact ⟨rfl, word, rfl, hword, (functionName?_eq_none_iff hword).mp hnone, rfl⟩
  · intro h
    obtain ⟨rfl, word, rfl, hword, hnot, rfl⟩ := h
    refine ⟨(functionName?_eq_none_iff hword).mpr hnot, ?_⟩
    rw [nameAt?_eq_some_iff.mpr ⟨word, rfl, hword, rfl⟩]
    rfl

/-! ## Headers -/

/-- The name of a header. -/
def headerName? : LineShape → Option Token
  | .knot _ name _ | .stitch name _ => some name
  | _ => none

/-- What stands in front of a header's name, apart from the word `function`. -/
def lead (line : List Char) : List Char :=
  let behind := line.dropWhile isBlank
  line.takeWhile isBlank ++ behind.takeWhile (· == '=') ++
    (behind.dropWhile (· == '=')).takeWhile isBlank

def behindLead (line : List Char) : List Char :=
  ((line.dropWhile isBlank).dropWhile (· == '=')).dropWhile isBlank

theorem lead_append (line : List Char) : lead line ++ behindLead line = line := by
  simp [lead, behindLead]

/-- The equals signs of a header. -/
def marks (line : List Char) : List Char :=
  (line.dropWhile isBlank).takeWhile (· == '=')

theorem header?_eq (line : List Char) : header? line =
    match (marks line).length with
    | 0 => none
    | 1 => do
      let (name, tail) ← nameAt? (lead line) (behindLead line)
      return .stitch name (parametersAfter tail)
    | _ => do
      let (kind, name, tail) ← knotName? (lead line) (behindLead line)
      return .knot kind name (parametersAfter tail) :=
  rfl

theorem header?_eq_some_iff {line : List Char} {shape : LineShape} :
    header? line = some shape ↔
      ((marks line).length = 1 ∧ ∃ name tail,
        nameAt? (lead line) (behindLead line) = some (name, tail) ∧
          shape = .stitch name (parametersAfter tail)) ∨
      (2 ≤ (marks line).length ∧ ∃ kind name tail,
        knotName? (lead line) (behindLead line) = some (kind, name, tail) ∧
          shape = .knot kind name (parametersAfter tail)) := by
  rw [header?_eq]
  rcases (marks line).length with _ | _ | count
  · simp
  · simp [Option.bind_eq_some_iff, eq_comm (b := shape)]
  · simp [Option.bind_eq_some_iff, eq_comm (b := shape)]

theorem isBlank_equals : isBlank '=' = false := by decide

theorem isWord_equals : isWord '=' = false := by decide

theorem equals_of_class {c : Char} (h : isBlank c = true ∨ isWord c = true) : (c == '=') = false := by
  rw [beq_eq_false_iff_ne]
  intro h
  subst h
  revert h
  decide

/-- A lead in front of a word is the one that scanning finds. -/
theorem lead_eq {count : Nat} {line front word behind : List Char}
    (hline : line = front ++ (word ++ behind)) (hfront : IsLead count front) (hpos : 0 < count)
    (hne : word ≠ []) (hword : ∀ c ∈ word, isWord c = true) :
    lead line = front ∧ behindLead line = word ++ behind ∧ (marks line).length = count := by
  obtain ⟨indent, gap, rfl, hindent, hgap⟩ := hfront
  have hcut : line = indent ++ (List.replicate count '=' ++ (gap ++ (word ++ behind))) := by
    simp [hline]
  -- Each of the three runs ends where the next piece begins.
  have hfirst : run isBlank line =
      (indent, List.replicate count '=' ++ (gap ++ (word ++ behind))) := by
    refine run_eq_iff.mpr ⟨hcut, hindent, ?_⟩
    obtain ⟨more, rfl⟩ := Nat.exists_eq_succ_of_ne_zero (Nat.ne_of_gt hpos)
    intro c hc
    cases hc
    exact isBlank_equals
  have hsecond : run (· == '=') (List.replicate count '=' ++ (gap ++ (word ++ behind))) =
      (List.replicate count '=', gap ++ (word ++ behind)) := by
    refine run_eq_iff.mpr ⟨rfl, by simp, ?_⟩
    obtain ⟨first, more, rfl⟩ := List.exists_cons_of_ne_nil hne
    intro c hc
    cases gap with
    | nil =>
      cases hc
      exact equals_of_class (Or.inr (hword first List.mem_cons_self))
    | cons blank gap =>
      cases hc
      exact equals_of_class (Or.inl (hgap c List.mem_cons_self))
  have hthird := run_blanks hgap hne hword behind
  simp only [run, Prod.mk.injEq] at hfirst hsecond hthird
  simp only [lead, behindLead, marks, hfirst, hsecond, hthird, List.append_assoc,
    List.length_replicate, and_self]

theorem isLead_lead (line : List Char) : IsLead (marks line).length (lead line) := by
  have hmarks : marks line = List.replicate (marks line).length '=' := by
    refine List.eq_replicate_of_mem fun c hc => ?_
    simpa using List.all_eq_true.mp List.all_takeWhile c hc
  refine ⟨line.takeWhile isBlank, ((line.dropWhile isBlank).dropWhile (· == '=')).takeWhile isBlank,
    ?_, List.all_eq_true.mp List.all_takeWhile, List.all_eq_true.mp List.all_takeWhile⟩
  rw [← hmarks, ← List.append_assoc]
  rfl

/-- Headers are read exactly where they are written. -/
theorem header?_iff {line : List Char} {shape : LineShape} :
    header? line = some shape ↔ Grammar line shape ∧ shape.headerName?.isSome = true := by
  constructor
  · intro h
    have hlead := isLead_lead line
    rcases header?_eq_some_iff.mp h with ⟨hcount, name, tail, hname, rfl⟩ |
      ⟨hcount, kind, name, tail, hname, rfl⟩
    · obtain ⟨word, hrest, hword, rfl⟩ := nameAt?_eq_some_iff.mp hname
      refine ⟨.stitch ?_ (hcount ▸ hlead) hword (parameters_iff.mpr rfl), rfl⟩
      rw [← hrest, lead_append]
    · rcases knotName?_eq_some_iff.mp hname with
        ⟨rfl, gap, word, hrest, hne, hgap, hword, rfl⟩ | ⟨rfl, word, hrest, hword, hnot, rfl⟩
      · refine ⟨.function ?_ hlead hcount hne hgap hword (parameters_iff.mpr rfl), rfl⟩
        rw [← hrest, lead_append]
      · refine ⟨.knot ?_ hlead hcount hword hnot (parameters_iff.mpr rfl), rfl⟩
        rw [← hrest, lead_append]
  · intro h
    obtain ⟨hgrammar, hname⟩ := h
    -- The lead that is written ends where the scan ends it (`lead_eq`), and the name stands behind it.
    rw [header?_eq_some_iff]
    cases hgrammar with
    | @knot count front word behind parameters hline hfront hcount hword hnot hparameters =>
      obtain ⟨hlead, hrest, hmarks⟩ := lead_eq hline hfront (by omega) hword.ne_nil hword.word
      rw [hlead, hrest, hmarks]
      refine Or.inr ⟨hcount, .knot, _, behind, ?_, by rw [parameters_iff.mp hparameters]⟩
      exact knotName?_eq_some_iff.mpr (Or.inr ⟨rfl, word, rfl, hword, hnot, rfl⟩)
    | @function count front gap word behind parameters hline hfront hcount hne hgap hword hparameters =>
      obtain ⟨hlead, hrest, hmarks⟩ :=
        lead_eq hline hfront (by omega) (by decide) functionWord_isWord
      rw [hlead, hrest, hmarks]
      refine Or.inr ⟨hcount, .function, _, behind, ?_, by rw [parameters_iff.mp hparameters]⟩
      exact knotName?_eq_some_iff.mpr (Or.inl ⟨rfl, gap, word, rfl, hne, hgap, hword, rfl⟩)
    | @stitch front word behind parameters hline hfront hword hparameters =>
      obtain ⟨hlead, hrest, hmarks⟩ := lead_eq hline hfront (by omega) hword.ne_nil hword.word
      rw [hlead, hrest, hmarks]
      refine Or.inl ⟨rfl, _, behind, ?_, by rw [parameters_iff.mp hparameters]⟩
      exact nameAt?_eq_some_iff.mpr ⟨word, rfl, hword, rfl⟩
    | inclusion => cases hname
    | declaration => cases hname

/-! ## Includes and declarations -/

theorem trim_eq_nil_iff {cs : List Char} : trim cs = [] ↔ trimLeft cs = [] := by
  constructor
  · intro h
    cases hleft : trimLeft cs with
    | nil => rfl
    | cons c rest =>
      have hc : isBlank c = false := (run_eq_iff.mp (rfl : run isBlank cs = _)).2.2 c
        (by rw [trimLeft] at hleft; rw [hleft]; rfl)
      have hstop := trimRight_stop hc [] rest
      rw [List.nil_append] at hstop
      rw [trim, hleft, hstop] at h
      cases h
  · intro h
    rw [trim, h]
    rfl

theorem includeWord_isWord : ∀ c ∈ includeWord, isWord c = true :=
  List.all_eq_true.mp (by decide)

theorem keyword_isWord (kind : VariableKind) : ∀ c ∈ kind.keyword.toList, isWord c = true := by
  cases kind <;> exact List.all_eq_true.mp (by decide)

theorem keyword_ne_nil (kind : VariableKind) : kind.keyword.toList ≠ [] := by
  cases kind <;> decide

theorem includePath?_eq_some_iff {line : List Char} {path : String} (hline : '\n' ∉ line) :
    includePath? line = some path ↔ Includes line path := by
  constructor
  · intro h
    obtain ⟨behind, hword, h⟩ := Option.bind_eq_some_iff.mp h
    obtain ⟨hcut, hgap, hends⟩ := run_spec isBlank behind
    dsimp only at h
    split at h
    · cases h
    · next hnot =>
      cases h
      simp only [Bool.or_eq_true, List.isEmpty_iff, decide_eq_true_eq, not_or] at hnot
      -- The first blank ends the keyword. Trimming takes the others away.
      obtain ⟨blank, gap, hblank⟩ := List.exists_cons_of_ne_nil hnot.1.1
      rw [hblank] at hcut hgap
      have hleft : trimLeft (gap ++ (run isBlank behind).2) = (run isBlank behind).2 :=
        (Prod.mk.inj (run_eq_iff.mpr
          ⟨rfl, fun c hc => hgap c (List.mem_cons_of_mem _ hc), hends⟩)).2
      refine ⟨line.takeWhile isBlank, blank, gap ++ (run isBlank behind).2, ?_,
        List.all_eq_true.mp List.all_takeWhile, hgap blank List.mem_cons_self, ?_, ?_⟩
      · have hkeyword : trimLeft line = includeWord ++ (blank :: gap ++ (run isBlank behind).2) :=
          (dropWord?_eq_some_iff.mp hword).trans (congrArg (includeWord ++ ·) hcut)
        rw [← List.cons_append, ← hkeyword]
        exact List.takeWhile_append_dropWhile.symm
      · rw [Ne, trim_eq_nil_iff, hleft]
        exact hnot.1.2
      · rw [trim, hleft]
  · intro h
    obtain ⟨indent, blank, rest, rfl, hindent, hblank, hrest, rfl⟩ := h
    have hleft : trimLeft (indent ++ (includeWord ++ blank :: rest)) = includeWord ++ blank :: rest :=
      (Prod.mk.inj (run_blanks hindent (by decide) includeWord_isWord _)).2
    have hrun : run isBlank (blank :: rest) = (blank :: rest.takeWhile isBlank, trimLeft rest) := by
      simp [run, hblank, trimLeft]
    have hend : '\n' ∉ trimLeft rest := by
      intro hmem
      have := mem_of_mem_trimLeft hmem
      simp [this] at hline
    rw [Ne, trim_eq_nil_iff] at hrest
    have hword : dropWord? "INCLUDE".toList (trimLeft (indent ++ (includeWord ++ blank :: rest))) =
        some (blank :: rest) :=
      dropWord?_eq_some_iff.mpr hleft
    rw [includePath?, hword]
    simp [hrun, hend, hrest, trim]

theorem declaration?_eq_some_iff {line : List Char} {kind : VariableKind} {shape : LineShape} :
    declaration? kind line = some shape ↔
      ∃ name, Declares line kind name ∧ shape = .declaration kind name := by
  constructor
  · intro h
    unfold declaration? at h
    obtain ⟨behind, hkeyword, h⟩ := Option.bind_eq_some_iff.mp h
    obtain ⟨hcut, hindent, -⟩ := run_spec isBlank line
    obtain ⟨hcut', hgap, -⟩ := run_spec isBlank behind
    dsimp only at h
    split at h
    · cases h
    · next hne =>
      obtain ⟨⟨name, tail⟩, hname, h⟩ := Option.bind_eq_some_iff.mp h
      obtain ⟨word, hword, hrun, rfl⟩ := nameAt?_eq_some_iff.mp hname
      dsimp only at h
      split at h
      · next rest htrim =>
        cases h
        refine ⟨_, ⟨(run isBlank line).1, (run isBlank behind).1, word, tail.takeWhile isBlank, rest, ?_,
          hindent, by simpa using hne, hgap, hrun.ne_nil, hrun.word,
          List.all_eq_true.mp List.all_takeWhile, by rw [← List.append_assoc]; rfl⟩, rfl⟩
        rw [← htrim, trimLeft, List.takeWhile_append_dropWhile, ← hword, ← hcut',
          ← dropWord?_eq_some_iff.mp hkeyword]
        exact hcut
      · cases h
  · intro h
    obtain ⟨name, hdeclares, rfl⟩ := h
    obtain ⟨indent, gap, word, between, rest, rfl, hindent, hne, hgap, hnonempty, hword, hbetween,
      rfl⟩ := hdeclares
    -- The name ends where it is written to end: a blank or the equals sign cannot extend it.
    have hname : nameAt? (indent ++ kind.keyword.toList ++ gap) (word ++ (between ++ '=' :: rest)) =
        some (.after (indent ++ kind.keyword.toList ++ gap) word, between ++ '=' :: rest) :=
      nameAt?_eq_some_iff.mpr
        ⟨word, rfl, ⟨hnonempty, hword, ends_behind hbetween isWord_equals rest⟩, rfl⟩
    have htrim := trimLeft_append hbetween isBlank_equals rest
    simp only [declaration?, run_blanks hindent (keyword_ne_nil kind) (keyword_isWord kind),
      dropWord?_eq_some_iff.mpr rfl, run_blanks hgap hnonempty hword, Option.bind_eq_bind,
      Option.bind_some, List.isEmpty_iff, hne, if_false, hname, htrim]
    rw [List.append_assoc]
    rfl

/-! ## Shapes -/

theorem header?_first {line : List Char} {shape : LineShape} (h : header? line = some shape) :
    (trimLeft line).head? = some '=' := by
  have hpos : 0 < (marks line).length := by
    rcases header?_eq_some_iff.mp h with ⟨hcount, -⟩ | ⟨hcount, -⟩ <;> omega
  rw [marks, ← trimLeft] at hpos
  cases hline : trimLeft line with
  | nil =>
    rw [hline] at hpos
    cases hpos
  | cons c rest =>
    rw [hline] at hpos
    cases hc : c == '=' with
    | false => simp [hc] at hpos
    | true => rw [List.head?_cons, eq_of_beq hc]

theorem includePath?_first {line : List Char} {path : String} (h : includePath? line = some path) :
    (trimLeft line).head? = some 'I' := by
  obtain ⟨behind, hword, -⟩ := Option.bind_eq_some_iff.mp h
  rw [dropWord?_eq_some_iff.mp hword]
  rfl

theorem declaration?_first {line : List Char} {kind : VariableKind} {shape : LineShape}
    (h : declaration? kind line = some shape) :
    (trimLeft line).head? = kind.keyword.toList.head? := by
  obtain ⟨behind, hword, -⟩ := Option.bind_eq_some_iff.mp h
  have hleft : trimLeft line = kind.keyword.toList ++ behind := dropWord?_eq_some_iff.mp hword
  rw [hleft]
  cases kind <;> rfl

theorem classify_of_header? {line : List Char} {shape : LineShape} (h : header? line = some shape) :
    classify line = shape := by
  simp [classify, h]

theorem classify_of_includePath? {line : List Char} {path : String}
    (h : includePath? line = some path) : classify line = .inclusion path := by
  have hheader : header? line = none := by
    refine Option.eq_none_iff_forall_ne_some.mpr fun shape hshape => ?_
    have := (includePath?_first h).symm.trans (header?_first hshape)
    cases this
  simp [classify, hheader, h]

theorem classify_of_declaration? {line : List Char} {kind : VariableKind} {shape : LineShape}
    (h : declaration? kind line = some shape) : classify line = shape := by
  -- The first character behind the blanks rules out all that is tried before.
  have hheader : header? line = none := by
    refine Option.eq_none_iff_forall_ne_some.mpr fun shape hshape => ?_
    have := (declaration?_first h).symm.trans (header?_first hshape)
    cases kind <;> cases this
  have hinclude : includePath? line = none := by
    refine Option.eq_none_iff_forall_ne_some.mpr fun path hpath => ?_
    have := (declaration?_first h).symm.trans (includePath?_first hpath)
    cases kind <;> cases this
  have hother (other : VariableKind) (hne : other ≠ kind) : declaration? other line = none := by
    refine Option.eq_none_iff_forall_ne_some.mpr fun shape hshape => hne ?_
    have := (declaration?_first h).symm.trans (declaration?_first hshape)
    cases kind <;> cases other <;> first | rfl | cases this
  cases kind <;> simp [classify, hheader, hinclude, hother, h]

theorem classify_cases {line : List Char} (h : classify line ≠ .other) :
    header? line = some (classify line) ∨
      (∃ path, includePath? line = some path ∧ classify line = .inclusion path) ∨
      ∃ kind, declaration? kind line = some (classify line) := by
  cases hheader : header? line with
  | some shape => exact Or.inl (by rw [classify_of_header? hheader])
  | none =>
    cases hinclude : includePath? line with
    | some path => exact Or.inr (Or.inl ⟨path, rfl, classify_of_includePath? hinclude⟩)
    | none =>
      by_cases hkind : ∃ kind shape, declaration? kind line = some shape
      · obtain ⟨kind, shape, hshape⟩ := hkind
        exact Or.inr (Or.inr ⟨kind, by rw [hshape, classify_of_declaration? hshape]⟩)
      · have hnone (kind : VariableKind) : declaration? kind line = none :=
          Option.eq_none_iff_forall_ne_some.mpr fun shape hshape => hkind ⟨kind, shape, hshape⟩
        exact absurd (by simp [classify, hheader, hinclude, hnone]) h

theorem classify_eq_header_iff {line : List Char} {shape : LineShape}
    (hname : shape.headerName?.isSome = true) : classify line = shape ↔ Grammar line shape := by
  constructor
  · intro h
    subst h
    have hshape : classify line ≠ .other := by
      intro hother
      rw [hother] at hname
      cases hname
    rcases classify_cases hshape with hheader | ⟨path, -, heq⟩ | ⟨kind, hkind⟩
    · exact (header?_iff.mp hheader).1
    · rw [heq] at hname
      cases hname
    · obtain ⟨name, -, heq⟩ := declaration?_eq_some_iff.mp hkind
      rw [heq] at hname
      cases hname
  · intro h
    exact classify_of_header? (header?_iff.mpr ⟨h, hname⟩)

/-- What a line is read as is what it is written as. -/
theorem classify_eq_iff {line : List Char} (hline : '\n' ∉ line) {shape : LineShape}
    (hshape : shape ≠ .other) : classify line = shape ↔ Grammar line shape := by
  constructor
  · intro h
    subst h
    rcases classify_cases hshape with hheader | ⟨path, hpath, heq⟩ | ⟨kind, hkind⟩
    · exact (header?_iff.mp hheader).1
    · rw [heq]
      exact .inclusion ((includePath?_eq_some_iff hline).mp hpath)
    · obtain ⟨name, hname, heq⟩ := declaration?_eq_some_iff.mp hkind
      rw [heq]
      exact .declaration hname
  · intro h
    cases shape with
    | knot kind name parameters => exact (classify_eq_header_iff rfl).mpr h
    | stitch name parameters => exact (classify_eq_header_iff rfl).mpr h
    | inclusion path =>
      cases h with
      | inclusion h => exact classify_of_includePath? ((includePath?_eq_some_iff hline).mpr h)
    | declaration kind name =>
      cases h with
      | declaration h => exact classify_of_declaration? (declaration?_eq_some_iff.mpr ⟨name, h, rfl⟩)
    | other => exact absurd rfl hshape

/-! ## What tells the shapes apart -/

/-- A line opens a knot with two or more equals signs. -/
def OpensKnot (line : List Char) : Prop :=
  ∃ count, 2 ≤ count ∧ Opens count line

theorem opens_of_wordRun {count : Nat} {line front word behind : List Char}
    (hline : line = front ++ (word ++ behind)) (hfront : IsLead count front)
    (hne : word ≠ []) (hword : ∀ c ∈ word, isWord c = true) : Opens count line := by
  obtain ⟨c, more, rfl⟩ := List.exists_cons_of_ne_nil hne
  exact ⟨front, c, more ++ behind, hline, hfront, hword c List.mem_cons_self⟩

theorem opensKnot_iff {line : List Char} :
    OpensKnot line ↔ ∃ kind name parameters, Grammar line (.knot kind name parameters) := by
  constructor
  · intro h
    obtain ⟨count, hcount, front, c, rest, rfl, hfront, hc⟩ := h
    obtain ⟨word, behind, hcut, hword⟩ := exists_wordRun hc rest
    rw [hcut]
    by_cases hfunction : OpensFunction word behind
    · obtain ⟨rfl, gap, d, more, rfl, hne, hgap, hd⟩ := hfunction
      obtain ⟨name, left, hleft, hname⟩ := exists_wordRun hd more
      exact ⟨_, _, _, .function (by rw [hleft]) hfront hcount hne hgap hname (parameters_iff.mpr rfl)⟩
    · exact ⟨_, _, _, .knot rfl hfront hcount hword hfunction (parameters_iff.mpr rfl)⟩
  · intro h
    obtain ⟨kind, name, parameters, h⟩ := h
    cases h with
    | knot hline hfront hcount hword => exact ⟨_, hcount, opens_of_wordRun hline hfront hword.ne_nil hword.word⟩
    | function hline hfront hcount =>
      exact ⟨_, hcount, opens_of_wordRun hline hfront (by decide) functionWord_isWord⟩

theorem opensStitch_iff {line : List Char} :
    Opens 1 line ↔ ∃ name parameters, Grammar line (.stitch name parameters) := by
  constructor
  · intro h
    obtain ⟨front, c, rest, rfl, hfront, hc⟩ := h
    obtain ⟨word, behind, hcut, hword⟩ := exists_wordRun hc rest
    rw [hcut]
    exact ⟨_, _, .stitch rfl hfront hword (parameters_iff.mpr rfl)⟩
  · intro h
    obtain ⟨name, parameters, h⟩ := h
    cases h with
    | stitch hline hfront hword => exact opens_of_wordRun hline hfront hword.ne_nil hword.word

/-- A line is read as what it is written as: as a knot if it opens one, as a stitch if it begins like a
    header with one equals sign, as an include or a declaration if it is one, and else as nothing. The
    four exclude each other. Names, kinds, parameters and paths are those of the grammar. -/
theorem classify_grammar {line : List Char} (hline : '\n' ∉ line) :
    ((∃ kind name parameters, classify line = .knot kind name parameters) ↔ OpensKnot line) ∧
    ((∃ name parameters, classify line = .stitch name parameters) ↔ Opens 1 line) ∧
    (∀ path, classify line = .inclusion path ↔ Includes line path) ∧
    (∀ kind name, classify line = .declaration kind name ↔ Declares line kind name) ∧
    (classify line = .other ↔ ¬ OpensKnot line ∧ ¬ Opens 1 line ∧ (¬ ∃ path, Includes line path) ∧
      ¬ ∃ kind name, Declares line kind name) ∧
    ([OpensKnot line, Opens 1 line, ∃ path, Includes line path,
      ∃ kind name, Declares line kind name].Pairwise fun a b => ¬ (a ∧ b)) ∧
    ∀ shape, shape ≠ .other → (classify line = shape ↔ Grammar line shape) := by
  have hshape (shape : LineShape) (h : shape ≠ .other) := classify_eq_iff hline h
  have hknot : (∃ kind name parameters, classify line = .knot kind name parameters) ↔
      OpensKnot line := by
    rw [opensKnot_iff]
    exact exists_congr fun _ => exists_congr fun _ => exists_congr fun _ => hshape _ nofun
  have hstitch : (∃ name parameters, classify line = .stitch name parameters) ↔ Opens 1 line := by
    rw [opensStitch_iff]
    exact exists_congr fun _ => exists_congr fun _ => hshape _ nofun
  have hinclusion (path : String) : classify line = .inclusion path ↔ Includes line path :=
    (hshape (.inclusion path) nofun).trans ⟨fun | .inclusion h => h, .inclusion⟩
  have hdeclaration (kind : VariableKind) (name : Token) :
      classify line = .declaration kind name ↔ Declares line kind name :=
    (hshape (.declaration kind name) nofun).trans ⟨fun | .declaration h => h, .declaration⟩
  refine ⟨hknot, hstitch, hinclusion, hdeclaration, ?_, ?_, hshape⟩
  · simp only [← hknot, ← hstitch, ← hinclusion, ← hdeclaration]
    cases classify line <;> simp
  · simp only [← hknot, ← hstitch, ← hinclusion, ← hdeclaration]
    cases classify line <;> simp

/-- A function header with a blank parameter, behind letters that take more than one byte. -/
theorem classify_grammar_function :
    '\n' ∉ "\t== function\t\té (-> a, ,b) ==".toList ∧
      Grammar "\t== function\t\té (-> a, ,b) ==".toList
        (.knot .function ⟨"é", 14, 16⟩ ["-> a", "b"]) :=
  have hline : '\n' ∉ "\t== function\t\té (-> a, ,b) ==".toList := by decide
  have hgrammar := (classify_grammar hline).2.2.2.2.2.2 (.knot .function ⟨"é", 14, 16⟩ ["-> a", "b"]) nofun
  ⟨hline, hgrammar.mp (by decide +kernel)⟩

end LineShape

end InkWorkspace
