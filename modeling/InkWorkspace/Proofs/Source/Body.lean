import InkWorkspace.Proofs.Source.Place

/- Knots and their bodies, read off the lines of a text. The body of a knot header reaches from the
   line behind it to the next knot header. A text declares the knots of its knot headers, and the
   stitches of a knot are the stitch headers in its body (`stitches_inBody`, `exists_stitch`); a
   stitch header in front of every knot header belongs to none.

   Looking a line up among the knots finds the last knot header at or above it
   (`enclosingKnot?_encloses`), and looking a name up among the stitches of a knot finds the first
   stitch header of that name in its body (`stitch?_first`). Each of these lines is the only one of
   its kind, so both look-ups also find what is there (`enclosingKnot?_of_encloses`,
   `stitch?_of_first`).

   Where a header stands says in which knot it is since the line numbers of all headers rise, loose
   ones first and each knot in front of its stitches (`headers_rising`). -/
namespace InkWorkspace

open Text

/-! ## Headers of a text -/

namespace Scope

/-- The name in a line that is a knot header. -/
def knotOn? (line : List Char) : Option String :=
  match LineShape.classify line with
  | .knot _ name _ => some name.text
  | _ => none

/-- The name in a line that is a stitch header. -/
def stitchOn? (line : List Char) : Option String :=
  match LineShape.classify line with
  | .stitch name _ => some name.text
  | _ => none

/-- The name in the knot header on line `n`, if there is one. -/
def knotAt? (ls : List (List Char)) (n : Nat) : Option String :=
  ls[n]?.bind knotOn?

/-- The name in the stitch header on line `n`, if there is one. -/
def stitchAt? (ls : List (List Char)) (n : Nat) : Option String :=
  ls[n]?.bind stitchOn?

/-- Line `n` stands behind line `h`, and no knot header stands behind line `h` up to line `n`: what
    the body of the knot header on line `h` consists of. -/
def InBody (ls : List (List Char)) (h n : Nat) : Prop :=
  h < n ∧ ∀ m, h < m → m ≤ n → knotAt? ls m = none

/-- Line `h` is the last knot header at or above line `n`. -/
def Encloses (ls : List (List Char)) (n h : Nat) : Prop :=
  (knotAt? ls h).isSome = true ∧ h ≤ n ∧ ∀ m, h < m → m ≤ n → knotAt? ls m = none

/-- Line `n` is the first stitch header of that name in the body of line `h`. -/
def FirstStitch (ls : List (List Char)) (h : Nat) (name : String) (n : Nat) : Prop :=
  stitchAt? ls n = some name ∧ InBody ls h n ∧ ∀ m, h < m → m < n → stitchAt? ls m ≠ some name

variable {ls : List (List Char)} {h n m : Nat} {name : String}

theorem knotAt?_header (hknot : knotAt? ls n = some name) : ∃ line token, ls[n]? = some line ∧
    (LineShape.classify line).headerName? = some token ∧ token.text = name := by
  obtain ⟨line, hline, hon⟩ := Option.bind_eq_some_iff.mp hknot
  unfold knotOn? at hon
  split at hon
  · next token _ hshape =>
    cases hon
    exact ⟨line, token, hline, by rw [hshape]; rfl, rfl⟩
  · cases hon

theorem stitchAt?_header (hstitch : stitchAt? ls n = some name) : ∃ line token,
    ls[n]? = some line ∧ (LineShape.classify line).headerName? = some token ∧
      token.text = name := by
  obtain ⟨line, hline, hon⟩ := Option.bind_eq_some_iff.mp hstitch
  unfold stitchOn? at hon
  split at hon
  · next token _ hshape =>
    cases hon
    exact ⟨line, token, hline, by rw [hshape]; rfl, rfl⟩
  · cases hon

theorem knotAt?_eq_none_of_stitchAt? (hstitch : stitchAt? ls n = some name) :
    knotAt? ls n = none := by
  obtain ⟨line, hline, hon⟩ := Option.bind_eq_some_iff.mp hstitch
  rw [knotAt?, hline, Option.bind_some]
  unfold stitchOn? at hon
  unfold knotOn?
  split at hon
  · next hshape => rw [hshape]
  · cases hon

theorem Encloses.unique (hh : Encloses ls n h) (hm : Encloses ls n m) : h = m := by
  rcases Nat.lt_trichotomy h m with hlt | rfl | hgt
  · have hnone := hh.2.2 m hlt hm.2.1
    rw [← Option.not_isSome_iff_eq_none] at hnone
    exact absurd hm.1 hnone
  · rfl
  · have hnone := hm.2.2 h hgt hh.2.1
    rw [← Option.not_isSome_iff_eq_none] at hnone
    exact absurd hh.1 hnone

theorem FirstStitch.unique (hn : FirstStitch ls h name n) (hm : FirstStitch ls h name m) :
    n = m := by
  rcases Nat.lt_trichotomy n m with hlt | rfl | hgt
  · exact absurd hn.1 (hm.2.2 n hn.2.1.1 hlt)
  · rfl
  · exact absurd hm.1 (hn.2.2 m hm.2.1.1 hgt)

end Scope

namespace Contents

open Scope

/-! ## What the items of a text are -/

/-- The line of the header's number is of the given kind and holds the header's name. -/
def StandsOn (kind : List Char → Option String) (numbered : List (List Char × Nat))
    (header : Header) : Prop :=
  ∃ line, (line, header.line) ∈ numbered ∧ kind line = some header.name

/-- Knots stand on knot headers. Loose headers and the stitches of knots stand on stitch headers,
    and a stitch says which knot it belongs to. -/
structure Sorted (numbered : List (List Char × Nat)) (contents : Contents) : Prop where
  knots : ∀ knot ∈ contents.knots, StandsOn knotOn? numbered knot.toHeader
  stitches : ∀ knot ∈ contents.knots, ∀ stitch ∈ knot.stitches,
    stitch.knot = knot.name ∧ StandsOn stitchOn? numbered stitch.toHeader
  loose : ∀ header ∈ contents.loose, StandsOn stitchOn? numbered header

theorem StandsOn.cons {kind : List Char → Option String} {numbered : List (List Char × Nat)}
    {header : Header} (h : StandsOn kind numbered header) (first : List Char × Nat) :
    StandsOn kind (first :: numbered) header := by
  obtain ⟨line, hline, hname⟩ := h
  exact ⟨line, List.mem_cons_of_mem _ hline, hname⟩

theorem Sorted.cons {numbered : List (List Char × Nat)} {contents : Contents}
    (h : Sorted numbered contents) (first : List Char × Nat) :
    Sorted (first :: numbered) contents where
  knots := fun knot hknot => (h.knots knot hknot).cons first
  stitches := fun knot hknot stitch hstitch =>
    ⟨(h.stitches knot hknot stitch hstitch).1, (h.stitches knot hknot stitch hstitch).2.cons first⟩
  loose := fun header hheader => (h.loose header hheader).cons first

/-- A line in front keeps the items sorted: a knot header takes the loose headers as its own. -/
theorem Sorted.addLine {numbered : List (List Char × Nat)} {rest : Contents}
    (h : Sorted numbered rest) (number : Nat) (line : List Char) :
    Sorted ((line, number) :: numbered) (addLine number line rest) := by
  have hrest := h.cons (line, number)
  unfold Contents.addLine
  cases hshape : LineShape.classify line with
  | knot kind name parameters =>
    refine ⟨?_, ?_, nofun⟩
    · intro knot hknot
      rcases List.mem_cons.mp hknot with rfl | hknot
      · exact ⟨line, List.mem_cons_self, by simp only [knotOn?, hshape]; rfl⟩
      · exact hrest.knots knot hknot
    · intro knot hknot stitch hstitch
      rcases List.mem_cons.mp hknot with rfl | hknot
      · obtain ⟨header, hheader, rfl⟩ := List.mem_map.mp hstitch
        exact ⟨rfl, hrest.loose header hheader⟩
      · exact hrest.stitches knot hknot stitch hstitch
  | stitch name parameters =>
    refine ⟨hrest.knots, hrest.stitches, ?_⟩
    intro header hheader
    rcases List.mem_cons.mp hheader with rfl | hheader
    · exact ⟨line, List.mem_cons_self, by simp only [stitchOn?, hshape]; rfl⟩
    · exact hrest.loose header hheader
  | inclusion path => exact ⟨hrest.knots, hrest.stitches, hrest.loose⟩
  | declaration kind name => exact ⟨hrest.knots, hrest.stitches, hrest.loose⟩
  | other => exact ⟨hrest.knots, hrest.stitches, hrest.loose⟩

theorem sorted_ofLines (number : Nat) (ls : List (List Char)) :
    Sorted (ls.zipIdx number) (ofLines number ls) := by
  induction ls generalizing number with
  | nil => exact ⟨nofun, nofun, nofun⟩
  | cons line ls ih => exact (ih (number + 1)).addLine number line

variable {ls : List (List Char)} {knot other : Knot} {stitch : Stitch} {header : Header}
  {h n : Nat} {name : String}

theorem StandsOn.bind_eq {kind : List Char → Option String}
    (hstands : StandsOn kind (ls.zipIdx 0) header) : ls[header.line]?.bind kind = some header.name := by
  obtain ⟨line, hline, hname⟩ := hstands
  rw [List.mk_mem_zipIdx_iff_getElem?.mp hline]
  exact hname

theorem knotAt?_of_mem (hknot : knot ∈ (ofLines 0 ls).knots) :
    knotAt? ls knot.line = some knot.name :=
  ((sorted_ofLines 0 ls).knots knot hknot).bind_eq

theorem stitchAt?_of_mem (hknot : knot ∈ (ofLines 0 ls).knots) (hstitch : stitch ∈ knot.stitches) :
    stitchAt? ls stitch.line = some stitch.name :=
  ((sorted_ofLines 0 ls).stitches knot hknot stitch hstitch).2.bind_eq

theorem stitch_knot_eq (hknot : knot ∈ (ofLines 0 ls).knots) (hstitch : stitch ∈ knot.stitches) :
    stitch.knot = knot.name :=
  ((sorted_ofLines 0 ls).stitches knot hknot stitch hstitch).1

theorem stitchAt?_of_loose (hloose : header ∈ (ofLines 0 ls).loose) :
    stitchAt? ls header.line = some header.name :=
  ((sorted_ofLines 0 ls).loose header hloose).bind_eq

theorem mem_headers {contents : Contents} (hheader : header ∈ contents.headers) :
    header ∈ contents.loose ∨ ∃ knot ∈ contents.knots,
      header = knot.toHeader ∨ ∃ stitch ∈ knot.stitches, header = stitch.toHeader := by
  rcases List.mem_append.mp hheader with hloose | hheader
  · exact Or.inl hloose
  · obtain ⟨knot, hknot, hheader⟩ := List.mem_flatMap.mp hheader
    refine Or.inr ⟨knot, hknot, ?_⟩
    rcases List.mem_cons.mp hheader with rfl | hstitch
    · exact Or.inl rfl
    · obtain ⟨stitch, hmem, rfl⟩ := List.mem_map.mp hstitch
      exact Or.inr ⟨stitch, hmem, rfl⟩

theorem exists_header {line : List Char} {token : Token} (hline : ls[n]? = some line)
    (hname : (LineShape.classify line).headerName? = some token) :
    ∃ header ∈ (ofLines 0 ls).headers, header.line = n ∧ header.name = token.text := by
  obtain ⟨header, hheader, hplace, htext⟩ :
      ∃ header, headerOn? n line = some header ∧ header.line = n ∧ header.name = token.text := by
    unfold headerOn?
    split
    · next hshape => rw [hshape] at hname; cases hname; exact ⟨_, rfl, rfl, rfl⟩
    · next hshape => rw [hshape] at hname; cases hname; exact ⟨_, rfl, rfl, rfl⟩
    · next hknot hstitch =>
      cases hshape : LineShape.classify line with
      | knot kind found parameters => exact absurd hshape (hknot kind found parameters)
      | stitch found parameters => exact absurd hshape (hstitch found parameters)
      | _ => rw [hshape] at hname; cases hname
  refine ⟨header, ?_, hplace, htext⟩
  rw [headers_ofLines]
  exact List.mem_filterMap.mpr ⟨(line, n), List.mk_mem_zipIdx_iff_getElem?.mpr hline, hheader⟩

theorem exists_knot (hknot : knotAt? ls n = some name) :
    ∃ knot ∈ (ofLines 0 ls).knots, knot.line = n ∧ knot.name = name := by
  obtain ⟨line, token, hline, htoken, rfl⟩ := knotAt?_header hknot
  obtain ⟨header, hheader, rfl, hname⟩ := exists_header hline htoken
  rcases mem_headers hheader with hloose | ⟨knot, hmem, rfl | ⟨stitch, hstitch, rfl⟩⟩
  · have hnone := knotAt?_eq_none_of_stitchAt? (stitchAt?_of_loose hloose)
    rw [hknot] at hnone
    cases hnone
  · exact ⟨knot, hmem, rfl, hname⟩
  · have hnone := knotAt?_eq_none_of_stitchAt? (stitchAt?_of_mem hmem hstitch)
    rw [hknot] at hnone
    cases hnone

theorem exists_loose_or_stitch (hstitch : stitchAt? ls n = some name) :
    (∃ header ∈ (ofLines 0 ls).loose, header.line = n) ∨
      ∃ knot ∈ (ofLines 0 ls).knots, ∃ stitch ∈ knot.stitches,
        stitch.line = n ∧ stitch.name = name := by
  obtain ⟨line, token, hline, htoken, rfl⟩ := stitchAt?_header hstitch
  obtain ⟨header, hheader, rfl, hname⟩ := exists_header hline htoken
  rcases mem_headers hheader with hloose | ⟨knot, hmem, rfl | ⟨stitch, hmember, rfl⟩⟩
  · exact Or.inl ⟨header, hloose, rfl⟩
  · have hnone := knotAt?_eq_none_of_stitchAt? hstitch
    rw [knotAt?_of_mem hmem] at hnone
    cases hnone
  · exact Or.inr ⟨knot, hmem, stitch, hmember, rfl, hname⟩

/-! ## Their order -/

/-- A knot and all its stitches stand in front of a line. -/
def EndsBefore (knot : Knot) (n : Nat) : Prop :=
  knot.line < n ∧ ∀ stitch ∈ knot.stitches, stitch.line < n

theorem knots_apart (number : Nat) (ls : List (List Char)) :
    (ofLines number ls).knots.Pairwise fun a b => EndsBefore a b.line := by
  have hheaders := (List.pairwise_append.mp (headers_rising number ls)).2.1
  refine (List.pairwise_flatMap.mp hheaders).2.imp fun hab => ?_
  refine ⟨hab _ List.mem_cons_self _ List.mem_cons_self, fun stitch hstitch => ?_⟩
  exact hab _ (List.mem_cons_of_mem _ (List.mem_map_of_mem hstitch)) _ List.mem_cons_self

theorem stitches_behind {number : Nat} (hknot : knot ∈ (ofLines number ls).knots) :
    (∀ stitch ∈ knot.stitches, knot.line < stitch.line) ∧
      knot.stitches.Pairwise fun a b => a.line < b.line := by
  have hheaders := (List.pairwise_append.mp (headers_rising number ls)).2.1
  obtain ⟨hfirst, hrest⟩ := List.pairwise_cons.mp ((List.pairwise_flatMap.mp hheaders).1 knot hknot)
  rw [List.pairwise_map] at hrest
  exact ⟨fun stitch hstitch => hfirst _ (List.mem_map_of_mem hstitch), hrest⟩

theorem loose_before {number : Nat} (hloose : header ∈ (ofLines number ls).loose)
    (hknot : knot ∈ (ofLines number ls).knots) : header.line < knot.line := by
  have hfront := (List.pairwise_append.mp (headers_rising number ls)).2.2
  exact hfront header hloose _ (List.mem_flatMap.mpr ⟨knot, hknot, List.mem_cons_self⟩)

/-- Of two knots of a text one ends before the other, unless they are the same. -/
theorem knots_cases {number : Nat} (hknot : knot ∈ (ofLines number ls).knots)
    (hother : other ∈ (ofLines number ls).knots) :
    knot = other ∨ EndsBefore knot other.line ∨ EndsBefore other knot.line :=
  pairwise_cases (knots_apart number ls) hknot hother

theorem stitch_before {number : Nat} (hknot : knot ∈ (ofLines number ls).knots)
    (hstitch : stitch ∈ knot.stitches) (hother : other ∈ (ofLines number ls).knots)
    (hlt : knot.line < other.line) : stitch.line < other.line := by
  rcases knots_cases hknot hother with rfl | hbefore | hbehind
  · exact absurd hlt (Nat.lt_irrefl _)
  · exact hbefore.2 stitch hstitch
  · exact absurd hbehind.1 (Nat.lt_asymm hlt)

/-! ## Bodies -/

theorem stitches_inBody (hknot : knot ∈ (ofLines 0 ls).knots) (hstitch : stitch ∈ knot.stitches) :
    InBody ls knot.line stitch.line := by
  refine ⟨(stitches_behind hknot).1 stitch hstitch, fun m hm hle => ?_⟩
  cases hheader : knotAt? ls m with
  | none => rfl
  | some name =>
    obtain ⟨other, hother, rfl, -⟩ := exists_knot hheader
    rcases knots_cases hknot hother with rfl | hbefore | hbehind
    · omega
    · have := hbefore.2 stitch hstitch
      omega
    · have := hbehind.1
      omega

/-- The stitch headers in the body of a knot are its stitches. -/
theorem exists_stitch (hknot : knot ∈ (ofLines 0 ls).knots) (hstitch : stitchAt? ls n = some name)
    (hbody : InBody ls knot.line n) :
    ∃ stitch ∈ knot.stitches, stitch.line = n ∧ stitch.name = name := by
  obtain ⟨hlt, hnone⟩ := hbody
  rcases exists_loose_or_stitch hstitch with ⟨header, hloose, rfl⟩ |
    ⟨other, hother, stitch, hmem, rfl, hname⟩
  · have := loose_before hloose hknot
    omega
  · rcases knots_cases hknot hother with rfl | hbefore | hbehind
    · exact ⟨stitch, hmem, rfl, hname⟩
    · -- The owner's header would stand in the body of the knot.
      have := hnone other.line hbefore.1 (Nat.le_of_lt ((stitches_behind hother).1 stitch hmem))
      rw [knotAt?_of_mem hother] at this
      cases this
    · have := hbehind.2 stitch hmem
      omega

/-! ## Looking lines and names up -/

/-- What a knot answers for a name is the first stitch header of that name in its body. -/
theorem stitch?_first (hknot : knot ∈ (ofLines 0 ls).knots)
    (hstitch : knot.stitch? name = some stitch) : FirstStitch ls knot.line name stitch.line := by
  have hmem : stitch ∈ knot.stitches := List.mem_of_find?_eq_some hstitch
  have hname : stitch.name = name := by simpa using List.find?_some hstitch
  refine ⟨hname ▸ stitchAt?_of_mem hknot hmem, stitches_inBody hknot hmem, fun m hm hlt hm' => ?_⟩
  have hbody : InBody ls knot.line m :=
    ⟨hm, fun k hk hle => (stitches_inBody hknot hmem).2 k hk (by omega)⟩
  obtain ⟨other, hother, rfl, hsame⟩ := exists_stitch hknot hm' hbody
  rcases find?_first (stitches_behind hknot).2 hstitch hother (by simpa using hsame) with rfl | hfirst
  · omega
  · omega

theorem stitch?_of_first (hknot : knot ∈ (ofLines 0 ls).knots)
    (hfirst : FirstStitch ls knot.line name n) :
    ∃ stitch, knot.stitch? name = some stitch ∧ stitch.line = n := by
  obtain ⟨found, hfound, -, hname⟩ := exists_stitch hknot hfirst.1 hfirst.2.1
  have hsome : (knot.stitch? name).isSome = true :=
    List.find?_isSome.mpr ⟨found, hfound, by simpa using hname⟩
  obtain ⟨stitch, hstitch⟩ := Option.isSome_iff_exists.mp hsome
  exact ⟨stitch, hstitch, (stitch?_first hknot hstitch).unique hfirst⟩

end Contents

namespace InkFile

open Scope

variable {path : Path} {text : String} {line h : Nat} {knot : Knot}

/-- The knot around a line is declared by the last knot header at or above the line. -/
theorem enclosingKnot?_encloses (hknot : (read path text).enclosingKnot? line = some knot) :
    knot ∈ (read path text).knots ∧ Encloses (lines text.toList) line knot.line := by
  have hmem : knot ∈ (read path text).knots := List.mem_reverse.mp (List.mem_of_find?_eq_some hknot)
  have hle : knot.line ≤ line := by simpa using List.find?_some hknot
  refine ⟨hmem, by rw [Contents.knotAt?_of_mem hmem]; rfl, hle, fun m hm hle' => ?_⟩
  cases hheader : knotAt? (lines text.toList) m with
  | none => rfl
  | some name =>
    obtain ⟨other, hother, rfl, -⟩ := Contents.exists_knot hheader
    have hrising := List.pairwise_reverse.mpr (Contents.knots_apart 0 (lines text.toList))
    rcases find?_first hrising hknot (List.mem_reverse.mpr hother) (by simpa using hle') with
      rfl | hbefore
    · omega
    · have := hbefore.1
      omega

theorem enclosingKnot?_of_encloses (path : Path)
    (hencloses : Encloses (lines text.toList) line h) :
    ∃ knot, (read path text).enclosingKnot? line = some knot ∧ knot.line = h := by
  obtain ⟨name, hname⟩ := Option.isSome_iff_exists.mp hencloses.1
  obtain ⟨found, hfound, hplace, -⟩ := Contents.exists_knot hname
  have hle : found.line ≤ line := hplace ▸ hencloses.2.1
  have hsome : ((read path text).enclosingKnot? line).isSome = true :=
    List.find?_isSome.mpr ⟨found, List.mem_reverse.mpr hfound, by simpa using hle⟩
  obtain ⟨knot, hknot⟩ := Option.isSome_iff_exists.mp hsome
  exact ⟨knot, hknot, (enclosingKnot?_encloses hknot).2.unique hencloses⟩

end InkFile

end InkWorkspace
