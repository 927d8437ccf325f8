import InkWorkspace.Proofs.Source.Body
import InkWorkspace.Proofs.Story.References
import InkWorkspace.Proofs.Text.Lines

/- The scope rule of divert targets, read off the texts of the files.

   `Leads` is the rule. It looks at nothing but the lines of the texts: in which body a line stands, the
   first stitch header of a name in a body, and the knot header of a name that no other one comes
   after. `resolve?` follows it: whatever it finds, the rule leads to (`resolve?_sound`), and it finds
   whatever the rule leads to (`resolve?_complete`). For a knot the second half rests on the order of
   paths, in which one of two headers comes after the other (`LastKnot.unique`).

   A target has one segment, two, or more (`target_cases`), and each of these has one equation. -/
namespace InkWorkspace

open Text

/-- Where a definition stands: on a knot header, or on a stitch header in the body of one. -/
inductive Site where
  | knot (path : Path) (line : Nat)
  | stitch (path : Path) (owner line : Nat)
  deriving Repr, DecidableEq

namespace Definition

/-- The site of a knot or a stitch. -/
def site? : Definition → Option Site
  | .knot path k => some (.knot path k.line)
  | .stitch path k s => some (.stitch path k.line s.line)
  | .global .. => none

end Definition

/-! ## The rule -/

namespace Scope

section Rule

variable (source : Path → Option (List (List Char)))

/-- The first stitch header of that name in the body around a line. -/
def LocalStitch (path : Path) (line : Nat) (name : String) (site : Site) : Prop :=
  ∃ ls h n, source path = some ls ∧ Encloses ls line h ∧ FirstStitch ls h name n ∧
    site = .stitch path h n

/-- The knot header of that name that comes last, by path and then by line. -/
def LastKnot (name : String) (path : Path) (n : Nat) : Prop :=
  (∃ ls, source path = some ls ∧ knotAt? ls n = some name) ∧
    ∀ other m ls, source other = some ls → knotAt? ls m = some name →
      (other ≠ path → path.before other = false) ∧ (other = path → m ≤ n)

/-- Where a target leads that is written on a line of the file at `path`. `.Stitch` names a stitch of
    the knot around the line, `Name` such a stitch or else a knot, and `Knot.Stitch` a stitch of the
    knot of that name. -/
inductive Leads (path : Path) (line : Nat) : String → Site → Prop
  | dotted {name : String} {site : Site} : '.' ∉ name.toList →
      LocalStitch source path line name site → Leads path line ("." ++ name) site
  | nearby {name : String} {site : Site} : '.' ∉ name.toList →
      LocalStitch source path line name site → Leads path line name site
  | knot {name : String} {owner : Path} {h : Nat} : '.' ∉ name.toList →
      (∀ site, ¬ LocalStitch source path line name site) → LastKnot source name owner h →
      Leads path line name (.knot owner h)
  | qualified {name stitch : String} {owner : Path} {ls : List (List Char)} {h n : Nat} :
      name ≠ "" → '.' ∉ name.toList → '.' ∉ stitch.toList → LastKnot source name owner h →
      source owner = some ls → FirstStitch ls h stitch n →
      Leads path line (name ++ "." ++ stitch) (.stitch owner h n)

end Rule

variable {source : Path → Option (List (List Char))}

theorem LastKnot.unique {name : String} {path other : Path} {n m : Nat}
    (hn : LastKnot source name path n) (hm : LastKnot source name other m) : path = other ∧ n = m := by
  obtain ⟨⟨ls, hls, hheader⟩, hlast⟩ := hn
  obtain ⟨⟨ls', hls', hheader'⟩, hlast'⟩ := hm
  have hbehind := hlast other m ls' hls' hheader'
  have hbehind' := hlast' path n ls hls hheader
  by_cases heq : path = other
  · exact ⟨heq, Nat.le_antisymm (hbehind'.2 heq) (hbehind.2 heq.symm)⟩
  · rcases Path.before_total heq with hbefore | hbefore
    · rw [hbehind.1 (Ne.symm heq)] at hbefore
      cases hbefore
    · rw [hbehind'.1 heq] at hbefore
      cases hbefore

end Scope

namespace Story

open Scope

/-- The lines of an indexed file. -/
def source (story : Story) (path : Path) : Option (List (List Char)) :=
  (story.file? path).map fun file => lines file.text.toList

section Lookup

variable {story : Story} {path : Path} {line : Nat} {name target : String}

theorem WellFormed.source_eq_some_iff (h : story.WellFormed) {ls : List (List Char)} :
    story.source path = some ls ↔
      ∃ text, story.file? path = some (.read path text) ∧ ls = lines text.toList := by
  constructor
  · intro hsource
    obtain ⟨file, hfile, rfl⟩ := Option.map_eq_some_iff.mp hsource
    obtain ⟨text, rfl⟩ := h.exists_read hfile
    exact ⟨text, hfile, rfl⟩
  · rintro ⟨text, hfile, rfl⟩
    exact Option.map_eq_some_iff.mpr ⟨_, hfile, rfl⟩

/-! ## Stitches of the surrounding knot -/

theorem localStitch?_eq_some_iff {definition : Definition} :
    story.localStitch? path line name = some definition ↔
      ∃ file knot stitch, story.file? path = some file ∧ file.enclosingKnot? line = some knot ∧
        knot.stitch? name = some stitch ∧ definition = .stitch path knot stitch := by
  simp only [localStitch?, enclosingKnot?, Option.bind_eq_bind, Option.bind_eq_some_iff,
    Option.pure_def, Option.some.injEq]
  constructor
  · rintro ⟨_, ⟨file, hfile, knot, hknot, rfl⟩, stitch, hstitch, rfl⟩
    exact ⟨file, knot, stitch, hfile, hknot, hstitch, rfl⟩
  · rintro ⟨file, knot, stitch, hfile, hknot, hstitch, rfl⟩
    exact ⟨(path, knot), ⟨file, hfile, knot, hknot, rfl⟩, stitch, hstitch, rfl⟩

theorem WellFormed.localStitch?_sound (h : story.WellFormed) {definition : Definition}
    (hlocal : story.localStitch? path line name = some definition) :
    ∃ site, definition.site? = some site ∧ LocalStitch story.source path line name site := by
  obtain ⟨file, knot, stitch, hfile, hknot, hstitch, rfl⟩ := localStitch?_eq_some_iff.mp hlocal
  obtain ⟨text, rfl⟩ := h.exists_read hfile
  obtain ⟨hmem, hencloses⟩ := InkFile.enclosingKnot?_encloses hknot
  exact ⟨.stitch path knot.line stitch.line, rfl, lines text.toList, knot.line, stitch.line,
    h.source_eq_some_iff.mpr ⟨text, hfile, rfl⟩, hencloses,
    Contents.stitch?_first hmem hstitch, rfl⟩

theorem WellFormed.localStitch?_complete (h : story.WellFormed) {site : Site}
    (hlocal : LocalStitch story.source path line name site) :
    ∃ definition, story.localStitch? path line name = some definition ∧
      definition.site? = some site := by
  obtain ⟨ls, start, n, hsource, hencloses, hfirst, rfl⟩ := hlocal
  obtain ⟨text, hfile, rfl⟩ := h.source_eq_some_iff.mp hsource
  obtain ⟨knot, hknot, rfl⟩ := InkFile.enclosingKnot?_of_encloses path hencloses
  obtain ⟨stitch, hstitch, rfl⟩ :=
    Contents.stitch?_of_first (InkFile.enclosingKnot?_encloses hknot).1 hfirst
  exact ⟨_, localStitch?_eq_some_iff.mpr ⟨_, knot, stitch, hfile, hknot, hstitch, rfl⟩, rfl⟩

theorem WellFormed.localStitch?_eq_none (h : story.WellFormed)
    (hnone : ∀ site, ¬ LocalStitch story.source path line name site) :
    story.localStitch? path line name = none := by
  cases hlocal : story.localStitch? path line name with
  | none => rfl
  | some definition =>
    obtain ⟨site, -, hsite⟩ := h.localStitch?_sound hlocal
    exact absurd hsite (hnone site)

/-! ## Knots of a name -/

theorem knot?_eq_find? (story : Story) (name : String) :
    story.knot? name = story.knots.reverse.find? fun (_, knot) => knot.name == name := by
  rw [knot?, List.getLast?_eq_head?_reverse, ← List.filter_reverse, List.head?_filter]

theorem WellFormed.knots_ordered (h : story.WellFormed) :
    story.knots.Pairwise fun a b => a.1 ≠ b.1 ∧ b.1.before a.1 = false ∨
      a.1 = b.1 ∧ Contents.EndsBefore a.2 b.2.line :=
  h.collect_pairwise (·.knots) fun _ text => Contents.knots_apart 0 (lines text.toList)

theorem WellFormed.exists_knot (h : story.WellFormed) {ls : List (List Char)} {n : Nat}
    (hsource : story.source path = some ls) (hheader : knotAt? ls n = some name) :
    ∃ knot, (path, knot) ∈ story.knots ∧ knot.line = n ∧ knot.name = name := by
  obtain ⟨text, hfile, rfl⟩ := h.source_eq_some_iff.mp hsource
  obtain ⟨knot, hknot, hplace, hname⟩ := Contents.exists_knot hheader
  exact ⟨knot, h.mem_collect_iff.mpr ⟨_, hfile, hknot⟩, hplace, hname⟩

/-- Of the knots of a name one wins. -/
theorem exists_winner {owner : Path} {knot : Knot} (hknot : (owner, knot) ∈ story.knots) :
    ∃ path winner, story.knot? knot.name = some (path, winner) := by
  have hsome : (story.knot? knot.name).isSome = true := by
    rw [knot?_eq_find?]
    exact List.find?_isSome.mpr ⟨_, List.mem_reverse.mpr hknot, by simp⟩
  obtain ⟨⟨path, winner⟩, hwinner⟩ := Option.isSome_iff_exists.mp hsome
  exact ⟨path, winner, hwinner⟩

theorem WellFormed.knot?_sound (h : story.WellFormed) {knot : Knot}
    (hknot : story.knot? name = some (path, knot)) :
    LastKnot story.source name path knot.line := by
  obtain ⟨hmem, hname⟩ := mem_of_knot? hknot
  obtain ⟨file, hfile, hdeclared⟩ := h.mem_collect_iff.mp hmem
  obtain ⟨text, rfl⟩ := h.exists_read hfile
  refine ⟨⟨_, h.source_eq_some_iff.mpr ⟨text, hfile, rfl⟩, ?_⟩, ?_⟩
  · rw [← hname]
    exact Contents.knotAt?_of_mem hdeclared
  · intro other m ls hsource hheader
    obtain ⟨rival, hrival, rfl, hsame⟩ := h.exists_knot hsource hheader
    rw [knot?_eq_find?] at hknot
    rcases find?_first (List.pairwise_reverse.mpr h.knots_ordered) hknot
      (List.mem_reverse.mpr hrival) (by simpa using hsame) with heq | ⟨hne, hbefore⟩ | ⟨rfl, hends⟩
    · cases heq
      exact ⟨fun hne => absurd rfl hne, fun _ => Nat.le_refl _⟩
    · exact ⟨fun _ => hbefore, fun heq => absurd heq hne⟩
    · exact ⟨fun hne => absurd rfl hne, fun _ => Nat.le_of_lt hends.1⟩

/-- A knot that some header declares is found, on a header that no other one comes after. -/
theorem WellFormed.knot?_complete (h : story.WellFormed) {n : Nat}
    (hlast : LastKnot story.source name path n) :
    ∃ knot file, story.knot? name = some (path, knot) ∧ story.file? path = some file ∧
      knot ∈ file.knots ∧ knot.line = n := by
  obtain ⟨ls, hsource, hheader⟩ := hlast.1
  obtain ⟨declared, hdeclared, -, rfl⟩ := h.exists_knot hsource hheader
  obtain ⟨winner, knot, hknot⟩ := exists_winner hdeclared
  obtain ⟨file, hfile, hmem⟩ := h.knot?_cases hknot
  obtain ⟨rfl, rfl⟩ := hlast.unique (h.knot?_sound hknot)
  exact ⟨knot, file, hknot, hfile, hmem, rfl⟩

/-! ## Targets -/

theorem target_cases (target : String) :
    '.' ∉ target.toList ∨
    (∃ front back, target = front ++ "." ++ back ∧ '.' ∉ front.toList ∧ '.' ∉ back.toList) ∨
    ∃ front middle back, target = front ++ "." ++ middle ++ "." ++ back := by
  by_cases hdot : '.' ∈ target.toList
  · obtain ⟨front, rest, htarget, hfront⟩ := List.eq_append_cons_of_mem hdot
    by_cases hmore : '.' ∈ rest
    · obtain ⟨middle, back, rfl, -⟩ := List.eq_append_cons_of_mem hmore
      refine Or.inr (Or.inr ⟨.ofList front, .ofList middle, .ofList back, ?_⟩)
      exact String.toList_inj.mp (by simp [htarget])
    · refine Or.inr (Or.inl ⟨.ofList front, .ofList rest, ?_, ?_, ?_⟩)
      · exact String.toList_inj.mp (by simp [htarget])
      · rwa [String.toList_ofList]
      · rwa [String.toList_ofList]
  · exact Or.inl hdot

theorem resolve?_word (hname : '.' ∉ name.toList) : story.resolve? path line name =
    (story.localStitch? path line name <|>
      (story.knot? name).map fun (path, knot) => .knot path knot) := by
  simp only [resolve?, splitOn_of_not_mem hname, List.map_cons, List.map_nil, String.ofList_toList]

theorem splitOn_pair {front back : String} (hfront : '.' ∉ front.toList)
    (hback : '.' ∉ back.toList) :
    splitOn '.' (front ++ "." ++ back).toList = [front.toList, back.toList] := by
  have hlist : (front ++ "." ++ back).toList = front.toList ++ '.' :: back.toList := by simp
  rw [hlist, splitOn_append, splitOn_of_not_mem hfront, splitOn_of_not_mem hback]
  rfl

theorem resolve?_dotted (hname : '.' ∉ name.toList) :
    story.resolve? path line ("." ++ name) = story.localStitch? path line name := by
  have hpair : splitOn '.' ("" ++ "." ++ name).toList = ["".toList, name.toList] :=
    splitOn_pair (by simp) hname
  rw [String.empty_append] at hpair
  simp only [resolve?, hpair, List.map_cons, List.map_nil, String.ofList_toList]
  rfl

theorem resolve?_qualified {stitch : String} (hne : name ≠ "") (hname : '.' ∉ name.toList)
    (hstitch : '.' ∉ stitch.toList) : story.resolve? path line (name ++ "." ++ stitch) = do
      let (path, knot) ← story.knot? name
      return .stitch path knot (← knot.stitch? stitch) := by
  have hempty : name.isEmpty = false := by simpa using hne
  simp only [resolve?, splitOn_pair hname hstitch, List.map_cons, List.map_nil,
    String.ofList_toList, hempty]
  rfl

theorem resolve?_segments (front middle back : String) :
    story.resolve? path line (front ++ "." ++ middle ++ "." ++ back) = none := by
  have hlist : (front ++ "." ++ middle ++ "." ++ back).toList =
      front.toList ++ '.' :: (middle.toList ++ '.' :: back.toList) := by simp
  have hpos (cs : List Char) : 0 < (splitOn '.' cs).length :=
    List.length_pos_iff.mpr (splitOn_ne_nil '.' cs)
  have hlength : 2 < ((splitOn '.' (front ++ "." ++ middle ++ "." ++ back).toList).map
      String.ofList).length := by
    have hfront := hpos front.toList
    have hmiddle := hpos middle.toList
    have hback := hpos back.toList
    rw [hlist, splitOn_append, splitOn_append, List.length_map, List.length_append,
      List.length_append]
    omega
  unfold resolve?
  split
  · next heq =>
    rw [heq] at hlength
    exact absurd hlength (by simp)
  · next heq =>
    rw [heq] at hlength
    exact absurd hlength (by simp)
  · rfl

/-! ## Where targets lead -/

/-- Whatever a target leads to, it leads there by the rule. -/
theorem WellFormed.resolve?_sound (h : story.WellFormed) {definition : Definition}
    (hresolve : story.resolve? path line target = some definition) :
    ∃ site, definition.site? = some site ∧ Leads story.source path line target site := by
  rcases target_cases target with hname | ⟨front, back, rfl, hfront, hback⟩ | ⟨_, _, _, rfl⟩
  · rw [resolve?_word hname, Option.orElse_eq_orElse, Option.orElse_eq_or,
      Option.or_eq_some_iff] at hresolve
    rcases hresolve with hlocal | ⟨hnone, hglobal⟩
    · obtain ⟨site, hsite, hrule⟩ := h.localStitch?_sound hlocal
      exact ⟨site, hsite, .nearby hname hrule⟩
    · -- A knot is found only if no stitch nearby has the name, as the rule asks.
      obtain ⟨⟨owner, knot⟩, hknot, rfl⟩ := Option.map_eq_some_iff.mp hglobal
      refine ⟨.knot owner knot.line, rfl, .knot hname (fun site hsite => ?_) (h.knot?_sound hknot)⟩
      obtain ⟨_, hlocal, -⟩ := h.localStitch?_complete hsite
      rw [hnone] at hlocal
      cases hlocal
  · by_cases hempty : front = ""
    · rw [hempty, String.empty_append] at hresolve ⊢
      rw [resolve?_dotted hback] at hresolve
      obtain ⟨site, hsite, hlocal⟩ := h.localStitch?_sound hresolve
      exact ⟨site, hsite, .dotted hback hlocal⟩
    · rw [resolve?_qualified hempty hfront hback] at hresolve
      obtain ⟨⟨owner, knot⟩, hknot, hresolve⟩ := Option.bind_eq_some_iff.mp hresolve
      obtain ⟨stitch, hstitch, heq⟩ := Option.bind_eq_some_iff.mp hresolve
      cases heq
      obtain ⟨file, hfile, hmem⟩ := h.knot?_cases hknot
      obtain ⟨text, rfl⟩ := h.exists_read hfile
      exact ⟨_, rfl, .qualified hempty hfront hback (h.knot?_sound hknot)
        (h.source_eq_some_iff.mpr ⟨text, hfile, rfl⟩) (Contents.stitch?_first hmem hstitch)⟩
  · rw [resolve?_segments] at hresolve
    cases hresolve

/-- Wherever the rule leads, the target leads. -/
theorem WellFormed.resolve?_complete (h : story.WellFormed) {site : Site}
    (hleads : Leads story.source path line target site) :
    (story.resolve? path line target).bind Definition.site? = some site := by
  cases hleads with
  | dotted hname hlocal =>
    obtain ⟨definition, hlocal, hsite⟩ := h.localStitch?_complete hlocal
    rw [resolve?_dotted hname, hlocal]
    exact hsite
  | nearby hname hlocal =>
    obtain ⟨definition, hlocal, hsite⟩ := h.localStitch?_complete hlocal
    rw [resolve?_word hname, hlocal]
    exact hsite
  | knot hname hnone hlast =>
    obtain ⟨knot, _, hknot, -, -, rfl⟩ := h.knot?_complete hlast
    rw [resolve?_word hname, h.localStitch?_eq_none hnone, hknot]
    rfl
  | qualified hne hname hstitch hlast hsource hfirst =>
    obtain ⟨knot, file, hknot, hfile, hmem, rfl⟩ := h.knot?_complete hlast
    obtain ⟨text, htext, rfl⟩ := h.source_eq_some_iff.mp hsource
    rw [hfile] at htext
    cases htext
    obtain ⟨stitch, hfound, rfl⟩ := Contents.stitch?_of_first hmem hfirst
    rw [resolve?_qualified hne hname hstitch, hknot]
    simp only [Option.bind_eq_bind, Option.bind_some, hfound]
    rfl

theorem WellFormed.exists_knotAt? (h : story.WellFormed) {definition : Definition}
    (hdefinition : definition ∈ story.definitions) :
    ∃ ls n, story.source definition.path = some ls ∧ (knotAt? ls n).isSome = true ∧
      n ≤ definition.line := by
  obtain ⟨file, hfile, hmem⟩ := h.mem_definitions_iff.mp hdefinition
  obtain ⟨text, rfl⟩ := h.exists_read hfile
  obtain ⟨knot, hknot, hmem⟩ := List.mem_flatMap.mp hmem
  refine ⟨lines text.toList, knot.line, h.source_eq_some_iff.mpr ⟨text, hfile, rfl⟩, ?_, ?_⟩
  · rw [Contents.knotAt?_of_mem hknot]
    rfl
  · rcases List.mem_cons.mp hmem with heq | hmem
    · exact Nat.le_of_eq (congrArg Definition.line heq).symm
    · obtain ⟨stitch, hstitch, heq⟩ := List.mem_map.mp hmem
      rw [← congrArg Definition.line heq]
      exact Nat.le_of_lt ((Contents.stitches_behind hknot).1 stitch hstitch)

end Lookup

/-- Targets follow the scope rule. What a target leads to is declared in the index, stands where the
    rule leads, and has a knot header at or above it; and wherever the rule leads, the target leads.
    A target of three or more segments leads nowhere. -/
theorem resolve?_follows_scope (origin : Origin) (changes : List Edit) (path : Path) (line : Nat)
    (target : String) :
    let story := origin.story.edits changes
    (∀ definition, story.resolve? path line target = some definition →
      definition ∈ story.definitions ∧
      (∃ site, definition.site? = some site ∧ Leads story.source path line target site) ∧
      ∃ ls h, story.source definition.path = some ls ∧ (knotAt? ls h).isSome = true ∧
        h ≤ definition.line) ∧
    (∀ site, Leads story.source path line target site →
      (story.resolve? path line target).bind Definition.site? = some site) ∧
    ∀ front middle back, target = front ++ "." ++ middle ++ "." ++ back →
      story.resolve? path line target = none := by
  intro story
  have h : story.WellFormed := edits_wellFormed (origin_wellFormed origin) changes
  refine ⟨fun definition hresolve => ?_, fun site => h.resolve?_complete, ?_⟩
  · have hdefinition := h.resolve?_mem hresolve
    exact ⟨hdefinition, h.resolve?_sound hresolve, h.exists_knotAt? hdefinition⟩
  · rintro front middle back rfl
    exact resolve?_segments front middle back

/-! ## A knot that two files declare -/

namespace SharedKnot

/-- The first file. Its first line is a stitch header that belongs to no knot. -/
def a : Path := .ofString "/a.ink"

def textOfA : String := "= s\n== k\n= s\n-> .s\n"

def b : Path := .ofString "/b.ink"

def textOfB : String := "== k\n= t\n= s\n= s\n"

def changes : List Edit := [.update .empty b textOfB, .update .empty a textOfA]

def story : Story :=
  ⟨.root, ⟨[(a, .read a textOfA), (b, .read b textOfB)]⟩,
    .build [.read a textOfA, .read b textOfB] .root⟩

theorem edits_changes : (Origin.empty .root).story.edits changes = story := by
  have hempty : (Story.empty .root).WellFormed := empty_wellFormed .root
  have hb := hempty.update_of_targets_nil .empty b textOfB rfl (by decide +kernel)
  have ha := (update_wellFormed hempty .empty b textOfB).update_of_targets_nil .empty a textOfA rfl
    (by rw [hb]; decide +kernel)
  rw [hb] at ha
  simp only [edits, changes, List.foldl_cons, List.foldl_nil, edit, Origin.story, hb]
  refine ha.trans ?_
  decide +kernel

/-- The first file's divert to the knot's stitch leads to the second file, and its divert to the
    stitch around it to the stitch in its own body, not to the one above. -/
theorem leads_to_first_stitch_of_last_knot :
    Leads story.source a 3 "k.s" (.stitch b 0 2) ∧
      (story.resolve? a 3 ".s").bind Definition.site? = some (.stitch a 1 2) ∧
      story.resolve? a 3 "k.s.s" = none := by
  obtain ⟨hsound, -, -⟩ := resolve?_follows_scope (.empty .root) changes a 3 "k.s"
  obtain ⟨-, hcomplete, -⟩ := resolve?_follows_scope (.empty .root) changes a 3 ".s"
  obtain ⟨-, -, hsegments⟩ := resolve?_follows_scope (.empty .root) changes a 3 "k.s.s"
  rw [edits_changes] at hsound hcomplete hsegments
  refine ⟨?_, ?_, hsegments "k" "s" "s" rfl⟩
  · have hresolve : (story.resolve? a 3 "k.s").bind Definition.site? = some (.stitch b 0 2) := by
      decide +kernel
    obtain ⟨definition, hresolve, hsite⟩ := Option.bind_eq_some_iff.mp hresolve
    obtain ⟨-, ⟨site, hfound, hleads⟩, -⟩ := hsound definition hresolve
    rw [hsite] at hfound
    cases hfound
    exact hleads
  · have hbody (m : Nat) (hm : 1 < m) (hle : m ≤ 3) : knotAt? (lines textOfA.toList) m = none := by
      obtain rfl | rfl : m = 2 ∨ m = 3 := by omega
      · decide +kernel
      · decide +kernel
    have hfirst : FirstStitch (lines textOfA.toList) 1 "s" 2 :=
      ⟨by decide +kernel, ⟨by decide, fun m hm hle => hbody m hm (by omega)⟩, by omega⟩
    have hlocal : LocalStitch story.source a 3 "s" (.stitch a 1 2) :=
      ⟨lines textOfA.toList, 1, 2, rfl, ⟨by decide +kernel, by decide, hbody⟩, hfirst, rfl⟩
    exact hcomplete _ (.dotted (by decide) hlocal)

end SharedKnot

end Story

end InkWorkspace
