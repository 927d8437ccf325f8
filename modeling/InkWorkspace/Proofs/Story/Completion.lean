import InkWorkspace.Proofs.Line.Target
import InkWorkspace.Proofs.Story.Scope

/- Which completions lead anywhere once they are written. Every knot and every stitch is offered, those
   that a later knot of the same name hides as well. A knot is offered by its name, and of all knots of
   a name one wins, so the name leads somewhere (`resolve?_knot`). A stitch is offered behind the name
   of its knot, and the name stands for the knot that wins: the label leads somewhere if that knot
   has a stitch of the name, whether it is the one offered or not (`resolve?_stitch`).

   Labels are cut at the right place since the name of a header is a word, which holds no dot. -/
namespace InkWorkspace

open Text

namespace Scope

variable {ls : List (List Char)} {n : Nat} {name : String}

theorem dot_not_mem_of_word {cs : List Char} (h : ∀ c ∈ cs, isWord c = true) : '.' ∉ cs := by
  intro hdot
  have hword := h '.' hdot
  rw [isWord_dot] at hword
  cases hword

theorem knotAt?_name (hknot : knotAt? ls n = some name) : name ≠ "" ∧ '.' ∉ name.toList := by
  obtain ⟨line, token, -, htoken, rfl⟩ := knotAt?_header hknot
  obtain ⟨hne, hword⟩ := LineShape.headerName?_word htoken
  refine ⟨?_, dot_not_mem_of_word hword⟩
  rintro heq
  rw [heq] at hne
  exact hne rfl

theorem stitchAt?_name (hstitch : stitchAt? ls n = some name) : '.' ∉ name.toList := by
  obtain ⟨line, token, -, htoken, rfl⟩ := stitchAt?_header hstitch
  exact dot_not_mem_of_word (LineShape.headerName?_word htoken).2

end Scope

namespace Story

open Scope

section Lookup

variable {story : Story} {owner : Path} {knot : Knot} {stitch : Stitch}

theorem WellFormed.mem_stitches_iff (h : story.WellFormed) :
    (owner, knot, stitch) ∈ story.stitches ↔
      (owner, knot) ∈ story.knots ∧ stitch ∈ knot.stitches := by
  simp only [stitches, knots, h.mem_collect_iff, List.mem_flatMap, stitchesOf, List.mem_map,
    Prod.mk.injEq]
  constructor
  · rintro ⟨file, hfile, found, hfound, member, hmember, rfl, rfl⟩
    exact ⟨⟨file, hfile, hfound⟩, hmember⟩
  · rintro ⟨⟨file, hfile, hknot⟩, hstitch⟩
    exact ⟨file, hfile, knot, hknot, stitch, hstitch, rfl, rfl⟩

/-- What a knot of the project is called, and what its stitches are. -/
theorem WellFormed.names_of_mem (h : story.WellFormed) (hknot : (owner, knot) ∈ story.knots) :
    knot.name ≠ "" ∧ '.' ∉ knot.name.toList ∧
      ∀ stitch ∈ knot.stitches, stitch.knot = knot.name ∧ '.' ∉ stitch.name.toList := by
  obtain ⟨file, hfile, hmem⟩ := h.mem_collect_iff.mp hknot
  obtain ⟨text, rfl⟩ := h.exists_read hfile
  obtain ⟨hne, hdot⟩ := knotAt?_name (Contents.knotAt?_of_mem hmem)
  refine ⟨hne, hdot, fun stitch hstitch => ?_⟩
  exact ⟨Contents.stitch_knot_eq hmem hstitch,
    stitchAt?_name (Contents.stitchAt?_of_mem hmem hstitch)⟩

/-- A knot that shares its name with no other one wins. -/
theorem knot?_of_nodup (hnodup : (story.knots.map fun entry => entry.2.name).Nodup)
    (hknot : (owner, knot) ∈ story.knots) : story.knot? knot.name = some (owner, knot) := by
  obtain ⟨path, winner, hwinner⟩ := exists_winner hknot
  obtain ⟨hmem, hname⟩ := mem_of_knot? hwinner
  rcases pairwise_cases (List.pairwise_map.mp hnodup) hmem hknot with heq | hne | hne
  · rw [hwinner, heq]
  · exact absurd hname hne
  · exact absurd hname.symm hne

/-! ## Labels -/

theorem WellFormed.resolve?_knot (h : story.WellFormed) (hknot : (owner, knot) ∈ story.knots)
    (path : Path) (line : Nat) : (story.resolve? path line knot.name).isSome = true := by
  obtain ⟨-, hdot, -⟩ := h.names_of_mem hknot
  obtain ⟨winnerPath, winner, hwinner⟩ := exists_winner hknot
  rw [resolve?_word hdot, hwinner, Option.orElse_eq_orElse, Option.orElse_eq_or]
  simp

/-- The qualified name of a stitch leads to the first stitch of its name in the knot that wins. -/
theorem WellFormed.resolve?_stitch (h : story.WellFormed)
    (hstitch : (owner, knot, stitch) ∈ story.stitches) (path : Path) (line : Nat) :
    story.resolve? path line stitch.qualifiedName = do
      let (path, winner) ← story.knot? knot.name
      return .stitch path winner (← winner.stitch? stitch.name) := by
  obtain ⟨hknot, hmem⟩ := h.mem_stitches_iff.mp hstitch
  obtain ⟨hne, hdot, hstitches⟩ := h.names_of_mem hknot
  obtain ⟨howner, hname⟩ := hstitches stitch hmem
  rw [Stitch.qualifiedName, howner, resolve?_qualified hne hdot hname]

theorem WellFormed.resolve?_stitch_isSome_iff (h : story.WellFormed)
    (hstitch : (owner, knot, stitch) ∈ story.stitches) (path : Path) (line : Nat) :
    (story.resolve? path line stitch.qualifiedName).isSome = true ↔
      ∃ winnerPath winner, story.knot? knot.name = some (winnerPath, winner) ∧
        ∃ other ∈ winner.stitches, other.name = stitch.name := by
  obtain ⟨winnerPath, winner, hwinner⟩ := exists_winner (h.mem_stitches_iff.mp hstitch).1
  have hfind : (story.resolve? path line stitch.qualifiedName).isSome =
      (winner.stitch? stitch.name).isSome := by
    rw [h.resolve?_stitch hstitch, hwinner]
    cases hfound : winner.stitch? stitch.name <;> simp [hfound]
  have hmember : (winner.stitch? stitch.name).isSome = true ↔
      ∃ other ∈ winner.stitches, other.name = stitch.name := by
    simp [Knot.stitch?]
  rw [hfind, hmember]
  constructor
  · intro hother
    exact ⟨winnerPath, winner, hwinner, hother⟩
  · rintro ⟨foundPath, found, hfound, hother⟩
    rw [hwinner] at hfound
    cases hfound
    exact hother

/-! ## What is offered -/

theorem completions?_labels {settings : Settings} {path : Path} {position : Position}
    {offered : List Completion}
    (hoffered : story.completions? settings path position = some offered) :
    offered.map (·.label) = story.knots.map (fun entry => entry.2.name) ++
      story.stitches.map fun entry => entry.2.2.qualifiedName := by
  obtain ⟨line, -, hoffered⟩ := Option.bind_eq_some_iff.mp hoffered
  split at hoffered
  · cases hoffered
    rw [List.map_append, List.map_map, List.map_map]
    rfl
  · cases hoffered

end Lookup

/-- What is offered are the names of all knots and then the qualified names of all stitches. Written on
    the cursor's line, the name of a knot leads somewhere, and the qualified name of a stitch if and
    only if the knot that wins its knot's name has a stitch of its name. If no two knots share a name,
    everything that is offered leads somewhere. -/
theorem completions?_lead_somewhere (origin : Origin) (changes : List Edit) (settings : Settings)
    (path : Path) (position : Position) (offered : List Completion)
    (hoffered : (origin.story.edits changes).completions? settings path position = some offered) :
    let story := origin.story.edits changes
    let leads (label : String) : Bool := (story.resolve? path position.line label).isSome
    offered.map (·.label) = story.knots.map (fun entry => entry.2.name) ++
      story.stitches.map (fun entry => entry.2.2.qualifiedName) ∧
    (∀ entry ∈ story.knots, leads entry.2.name = true) ∧
    (∀ entry ∈ story.stitches, leads entry.2.2.qualifiedName = true ↔
      ∃ winnerPath winner, story.knot? entry.2.1.name = some (winnerPath, winner) ∧
        ∃ other ∈ winner.stitches, other.name = entry.2.2.name) ∧
    ((story.knots.map fun entry => entry.2.name).Nodup →
      ∀ completion ∈ offered, leads completion.label = true) := by
  intro story leads
  have h : story.WellFormed := edits_wellFormed (origin_wellFormed origin) changes
  have hlabels := completions?_labels hoffered
  have hknots : ∀ entry ∈ story.knots, leads entry.2.name = true :=
    fun entry hentry => h.resolve?_knot hentry path position.line
  have hstitches : ∀ entry ∈ story.stitches, leads entry.2.2.qualifiedName = true ↔
      ∃ winnerPath winner, story.knot? entry.2.1.name = some (winnerPath, winner) ∧
        ∃ other ∈ winner.stitches, other.name = entry.2.2.name :=
    fun entry hentry => h.resolve?_stitch_isSome_iff hentry path position.line
  refine ⟨hlabels, hknots, hstitches, fun hnodup completion hcompletion => ?_⟩
  have hlabel : completion.label ∈ offered.map (·.label) := List.mem_map_of_mem hcompletion
  rw [hlabels] at hlabel
  rcases List.mem_append.mp hlabel with hlabel | hlabel
  · obtain ⟨entry, hentry, heq⟩ := List.mem_map.mp hlabel
    rw [← heq]
    exact hknots entry hentry
  · -- With no name shared, the knot of a stitch is the one that its name stands for.
    obtain ⟨⟨owner, knot, stitch⟩, hentry, heq⟩ := List.mem_map.mp hlabel
    obtain ⟨hknot, hmem⟩ := h.mem_stitches_iff.mp hentry
    rw [← heq]
    exact (hstitches _ hentry).mpr ⟨owner, knot, knot?_of_nodup hnodup hknot, stitch, hmem, rfl⟩

/-! ## A hidden stitch -/

namespace HiddenStitch

/-- A file in which a knot without stitches hides a knot with one. -/
def path : Path := .ofString "/a.ink"

def text : String := "== k\n= s\n== k\n-> "

def changes : List Edit := [.update .empty path text]

def story : Story :=
  ⟨.root, ⟨[(path, .read path text)]⟩, .build [.read path text] .root⟩

theorem edits_changes : (Origin.empty .root).story.edits changes = story :=
  (empty_wellFormed .root).update_of_targets_nil .empty path text rfl (by decide +kernel)

theorem completions?_eq : ∃ offered,
    ((Origin.empty .root).story.edits changes).completions? {} path ⟨3, 3⟩ = some offered ∧
      offered.map (·.label) = ["k", "k", "k.s"] := by
  have hlabels : (story.completions? {} path ⟨3, 3⟩).map (·.map (·.label)) =
      some ["k", "k", "k.s"] := by
    decide +kernel
  rw [edits_changes]
  exact Option.map_eq_some_iff.mp hlabels

/-- The name of the knots leads somewhere. -/
theorem knot_leads_somewhere : ∃ offered,
    ((Origin.empty .root).story.edits changes).completions? {} path ⟨3, 3⟩ = some offered ∧
      "k" ∈ offered.map (·.label) ∧ (story.resolve? path 3 "k").isSome = true := by
  obtain ⟨offered, hoffered, hlabels⟩ := completions?_eq
  obtain ⟨-, hknots, -⟩ :=
    completions?_lead_somewhere (.empty .root) changes {} path ⟨3, 3⟩ offered hoffered
  rw [edits_changes] at hknots
  obtain ⟨entry, hentry, hname⟩ : ∃ entry ∈ story.knots, entry.2.name = "k" := by decide +kernel
  refine ⟨offered, hoffered, by simp [hlabels], ?_⟩
  rw [← hname]
  exact hknots entry hentry

/-- The stitch is offered, but its qualified name leads nowhere. -/
theorem stitch_leads_nowhere : ¬ ∀ (origin : Origin) (changes : List Edit) (settings : Settings)
    (path : Path) (position : Position) (offered : List Completion),
    (origin.story.edits changes).completions? settings path position = some offered →
      ∀ completion ∈ offered, ((origin.story.edits changes).resolve? path position.line
        completion.label).isSome = true := by
  intro hall
  obtain ⟨offered, hoffered, hlabels⟩ := completions?_eq
  have hmem : "k.s" ∈ offered.map (·.label) := by simp [hlabels]
  obtain ⟨completion, hcompletion, hlabel⟩ := List.mem_map.mp hmem
  have hleads := hall (.empty .root) changes {} path ⟨3, 3⟩ offered hoffered completion hcompletion
  have hnone : story.resolve? path 3 "k.s" = none := by decide +kernel
  rw [edits_changes, hlabel, hnone] at hleads
  cases hleads

end HiddenStitch

end Story

end InkWorkspace
