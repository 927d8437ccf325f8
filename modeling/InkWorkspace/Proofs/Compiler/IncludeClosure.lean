import InkWorkspace.Proofs.Compiler.Scratch

/- Which includes are staged. Following includes is a recursion with nothing to stop it but the names
   met so far: `Stages` says, line by line, which outcome it has if it ends, be it that a file cannot be
   written. It always ends, with what `stageTo` computes at a depth beyond the names that may still be
   new (`stages_stageTo`), and at any greater depth (`Stages.settles`), so there is one outcome only.

   What a run that ends well has met is read off its derivation (`Meets`): no name twice, and exactly
   the names on the lines and, with every name that can be loaded, the names on the lines of what it
   brings in (`Included`). -/
namespace InkWorkspace

open Text

namespace Staging

/-! ## Following includes without a bound -/

/-- The names that are included, from some names on: the least set that holds these and, with each name
    that can be loaded, the names that its text includes. -/
inductive Included (load : Loader) (starts : List String) : String → Prop
  | direct {name : String} : name ∈ starts → Included load starts name
  | nested {name other text : String} : Included load starts name → load name = some text →
      other ∈ includeNames (lines text.toList) → Included load starts other

/-- What becomes of lines: the lines as they are staged, or why they could not be. -/
abbrev Outcome := Except FileError (List (List Char) × Staging)

/-- The outcome with one more line in front. -/
def Outcome.withLine (line : List Char) : Outcome → Outcome :=
  Except.map fun done => (line :: done.1, done.2)

/-- The outcome with the lines joined to a text. -/
def Outcome.asText : Outcome → Except FileError (String × Staging) :=
  Except.map fun done => (joinLines done.1, done.2)

/-- A line with the target in place of the name. -/
def pointed (line : List Char) (name target : String) : List Char :=
  if target = name then line else replaceFirst name.toList target.toList line

/-- The target of the include that is met next. -/
def nextTarget (staging : Staging) (name : String) : String :=
  targetOf name staging.staged.length

/-- An include is met for the first time. -/
def meet (staging : Staging) (name : String) : Staging :=
  { staging with staged := staging.staged ++ [(name, staging.nextTarget name)] }

/-- How lines are staged, with no bound on how deep their includes nest. -/
inductive Stages (load : Loader) : List (List Char) → Staging → Outcome → Prop
  | nil {staging : Staging} : Stages load [] staging (.ok ([], staging))
  | plain {line : List Char} {rest : List (List Char)} {staging : Staging} {outcome : Outcome} :
      LineShape.includePath? line = none → Stages load rest staging outcome →
        Stages load (line :: rest) staging (outcome.withLine line)
  | known {line : List Char} {rest : List (List Char)} {staging : Staging} {outcome : Outcome}
      {name target : String} :
      LineShape.includePath? line = some name → staging.staged.lookup name = some target →
        Stages load rest staging outcome →
          Stages load (line :: rest) staging (outcome.withLine (pointed line name target))
  | missing {line : List Char} {rest : List (List Char)} {staging : Staging} {outcome : Outcome}
      {name : String} :
      LineShape.includePath? line = some name → staging.staged.lookup name = none →
        load name = none → Stages load rest (staging.meet name) outcome →
          Stages load (line :: rest) staging
            (outcome.withLine (pointed line name (staging.nextTarget name)))
  | loaded {line : List Char} {rest inner : List (List Char)} {staging after : Staging}
      {outcome : Outcome} {name text : String} {disk : Disk} :
      LineShape.includePath? line = some name → staging.staged.lookup name = none →
        load name = some text →
          Stages load (lines text.toList) (staging.meet name) (.ok (inner, after)) →
            writeFile after.scratch (staging.nextTarget name) (joinLines inner) = .ok disk →
              Stages load rest { after with scratch := disk } outcome →
                Stages load (line :: rest) staging
                  (outcome.withLine (pointed line name (staging.nextTarget name)))
  | stopped {line : List Char} {rest : List (List Char)} {staging : Staging} {name text : String}
      {error : FileError} :
      LineShape.includePath? line = some name → staging.staged.lookup name = none →
        load name = some text →
          Stages load (lines text.toList) (staging.meet name) (.error error) →
            Stages load (line :: rest) staging (.error error)
  | unwritten {line : List Char} {rest inner : List (List Char)} {staging after : Staging}
      {name text : String} {error : FileError} :
      LineShape.includePath? line = some name → staging.staged.lookup name = none →
        load name = some text →
          Stages load (lines text.toList) (staging.meet name) (.ok (inner, after)) →
            writeFile after.scratch (staging.nextTarget name) (joinLines inner) = .error error →
              Stages load (line :: rest) staging (.error error)

/-- How a text is staged, with no bound on how deep its includes nest. -/
def StagesText (load : Loader) (text : String) (staging : Staging)
    (outcome : Except FileError (String × Staging)) : Prop :=
  ∃ staged, Stages load (lines text.toList) staging staged ∧ outcome = staged.asText

variable {load : Loader}

theorem Outcome.eq_ok_of_withLine {outcome : Outcome} {line : List Char}
    {result : List (List Char)} {after : Staging}
    (h : outcome.withLine line = .ok (result, after)) :
    ∃ rest, outcome = .ok (rest, after) := by
  cases outcome with
  | error error => cases h
  | ok done =>
    cases h
    exact ⟨done.1, rfl⟩

/-! ## One line after the other -/

section Lines

variable {nested : Stager} {line : List Char} {rest : List (List Char)} {staging : Staging}
  {name : String}

theorem stageLines_cons :
    stageLines load nested (line :: rest) staging =
      (stageLine load nested line staging).bind fun first =>
        Outcome.withLine first.1 (stageLines load nested rest first.2) := by
  rw [stageLines]
  cases stageLine load nested line staging with
  | error error => rfl
  | ok first =>
    simp only [bind, Except.bind]
    cases stageLines load nested rest first.2 <;> rfl

theorem stageLine_include (hline : LineShape.includePath? line = some name) :
    stageLine load nested line staging =
      (place load nested name staging).map fun placed => (pointed line name placed.1, placed.2) := by
  simp only [stageLine, hline]
  cases place load nested name staging with
  | error error => rfl
  | ok placed =>
    simp only [bind, Except.bind, Except.map, pointed]
    split <;> rfl

theorem stageLines_plain (hline : LineShape.includePath? line = none) :
    stageLines load nested (line :: rest) staging =
      Outcome.withLine line (stageLines load nested rest staging) := by
  rw [stageLines_cons, stageLine, hline]
  rfl

theorem stageLines_known {target : String} (hline : LineShape.includePath? line = some name)
    (hlookup : staging.staged.lookup name = some target) :
    stageLines load nested (line :: rest) staging =
      Outcome.withLine (pointed line name target) (stageLines load nested rest staging) := by
  rw [stageLines_cons, stageLine_include hline, place, hlookup]
  rfl

theorem stageLines_missing (hline : LineShape.includePath? line = some name)
    (hlookup : staging.staged.lookup name = none) (hload : load name = none) :
    stageLines load nested (line :: rest) staging =
      Outcome.withLine (pointed line name (staging.nextTarget name))
        (stageLines load nested rest (staging.meet name)) := by
  rw [stageLines_cons, stageLine_include hline, place, hlookup, hload]
  rfl

theorem place_loaded {text : String} (hlookup : staging.staged.lookup name = none)
    (hload : load name = some text) :
    place load nested name staging =
      (nested text (staging.meet name)).bind fun inner =>
        (writeFile inner.2.scratch (staging.nextTarget name) inner.1).map fun disk =>
          (staging.nextTarget name, { inner.2 with scratch := disk }) := by
  simp only [place, hlookup, hload, nextTarget, meet]
  generalize targetOf name staging.staged.length = target
  simp only [bind, Except.bind]
  cases nested text _ with
  | error error => rfl
  | ok inner =>
    dsimp only
    cases writeFile inner.2.scratch target inner.1 <;> rfl

theorem stageLines_loaded {text : String} (hline : LineShape.includePath? line = some name)
    (hlookup : staging.staged.lookup name = none) (hload : load name = some text) :
    stageLines load nested (line :: rest) staging =
      (nested text (staging.meet name)).bind fun inner =>
        (writeFile inner.2.scratch (staging.nextTarget name) inner.1).bind fun disk =>
          Outcome.withLine (pointed line name (staging.nextTarget name))
            (stageLines load nested rest { inner.2 with scratch := disk }) := by
  rw [stageLines_cons, stageLine_include hline, place_loaded hlookup hload]
  generalize staging.nextTarget name = target
  cases nested text (staging.meet name) with
  | error error => rfl
  | ok inner =>
    simp only [Except.bind]
    cases writeFile inner.2.scratch target inner.1 <;> rfl

end Lines

theorem stageTo_succ (depth : Nat) (text : String) (staging : Staging) :
    stageTo load (depth + 1) text staging =
      Outcome.asText (stageLines load (stageTo load depth) (lines text.toList) staging) := by
  simp only [stageTo, bind, Except.bind]
  cases stageLines load (stageTo load depth) (lines text.toList) staging <;> rfl

/-! ## What a run has met -/

theorem Included.of_starts {starts others : List String} {name : String}
    (h : Included load starts name) (hstarts : ∀ start ∈ starts, Included load others start) :
    Included load others name := by
  induction h with
  | direct hmem => exact hstarts _ hmem
  | nested _ hload hother ih => exact ih.nested hload hother

theorem mem_includeNames_singleton {line : List Char} {name : String} :
    name ∈ includeNames [line] ↔ LineShape.includePath? line = some name := by
  simp [includeNames]

theorem mem_includeNames_cons {line : List Char} {rest : List (List Char)} {name : String} :
    name ∈ includeNames (line :: rest) ↔ name ∈ includeNames [line] ∨ name ∈ includeNames rest := by
  rw [includeNames, ← List.singleton_append, List.filterMap_append]
  exact List.mem_append

theorem eq_of_met {before : Names} {name other target : String}
    (hother : other ∈ (before ++ [(name, target)]).map Prod.fst)
    (hnew : other ∉ before.map Prod.fst) : other = name := by
  rw [List.map_append] at hother
  exact List.mem_singleton.mp ((List.mem_append.mp hother).resolve_left hnew)

theorem not_mem_keys {staged : Names} {name : String} (h : staged.lookup name = none) :
    name ∉ staged.map Prod.fst := by
  rw [Lookup.mem_keys_iff, h]
  exact Bool.false_ne_true

theorem nodup_met {before : Names} {name : String} (hlookup : before.lookup name = none)
    (target : String) (h : (before.map Prod.fst).Nodup) :
    ((before ++ [(name, target)]).map Prod.fst).Nodup := by
  rw [List.map_append, List.nodup_append]
  refine ⟨h, by simp, ?_⟩
  intro met hmet other hother heq
  rw [heq, List.mem_singleton.mp hother] at hmet
  exact not_mem_keys hlookup hmet

/-- Staging lines leads from some names to more of them: no name comes twice, what the lines include
    is among them, and what is new is closed under includes and comes from the lines. -/
structure Meets (load : Loader) (ls : List (List Char)) (before after : Names) : Prop where
  grows : before <+: after
  nodup : (before.map Prod.fst).Nodup → (after.map Prod.fst).Nodup
  covers : Covers after ls
  closed : ∀ name ∈ after.map Prod.fst, name ∉ before.map Prod.fst →
    ∀ text, load name = some text → Covers after (lines text.toList)
  included : ∀ name ∈ after.map Prod.fst, name ∉ before.map Prod.fst →
    Included load (includeNames ls) name

namespace Meets

variable {before between after : Names} {line : List Char} {rest : List (List Char)} {name : String}

theorem refl {ls : List (List Char)} (hcovers : Covers before ls) : Meets load ls before before where
  grows := List.prefix_refl before
  nodup := id
  covers := hcovers
  closed := fun _ hname hnew => absurd hname hnew
  included := fun _ hname hnew => absurd hname hnew

theorem cons (hline : Meets load [line] before between) (hrest : Meets load rest between after) :
    Meets load (line :: rest) before after where
  grows := hline.grows.trans hrest.grows
  nodup := hrest.nodup ∘ hline.nodup
  covers := (hline.covers.mono hrest.grows).cons hrest.covers
  closed := by
    intro name hname hnew text hload
    by_cases hbetween : name ∈ between.map Prod.fst
    · exact (hline.closed name hbetween hnew text hload).mono hrest.grows
    · exact hrest.closed name hname hbetween text hload
  included := by
    intro name hname hnew
    by_cases hbetween : name ∈ between.map Prod.fst
    · exact (hline.included name hbetween hnew).of_starts fun start hstart =>
        .direct (mem_includeNames_cons.mpr (Or.inl hstart))
    · exact (hrest.included name hname hbetween).of_starts fun start hstart =>
        .direct (mem_includeNames_cons.mpr (Or.inr hstart))

theorem plain (hline : LineShape.includePath? line = none) : Meets load [line] before before := by
  apply refl
  apply covers_line
  intro name hname
  rw [hline] at hname
  cases hname

section Met

variable {target : String} (hline : LineShape.includePath? line = some name)

include hline

theorem known (hlookup : before.lookup name = some target) : Meets load [line] before before := by
  apply refl
  apply covers_line
  intro other hother
  rw [← Option.some.inj (hline.symm.trans hother), hlookup]
  rfl

variable (hlookup : before.lookup name = none)

include hlookup

theorem covers_met (target : String) (hgrows : before ++ [(name, target)] <+: after) :
    Covers after [line] := by
  apply covers_line
  intro other hother
  rw [← Option.some.inj (hline.symm.trans hother),
    lookup_of_grows hgrows (lookup_met hlookup target)]
  rfl

theorem missing (hload : load name = none) (target : String) :
    Meets load [line] before (before ++ [(name, target)]) where
  grows := List.prefix_append before _
  nodup := nodup_met hlookup target
  covers := covers_met hline hlookup target (List.prefix_refl _)
  closed := by
    intro other hother hnew text htext
    rw [eq_of_met hother hnew, hload] at htext
    cases htext
  included := by
    intro other hother hnew
    rw [eq_of_met hother hnew]
    exact .direct (mem_includeNames_singleton.mpr hline)

theorem loaded {text : String} (hload : load name = some text)
    (hinner : Meets load (lines text.toList) (before ++ [(name, target)]) after) :
    Meets load [line] before after where
  grows := (List.prefix_append before _).trans hinner.grows
  nodup := hinner.nodup ∘ nodup_met hlookup target
  covers := covers_met hline hlookup target hinner.grows
  closed := by
    intro other hother hnew contents hcontents
    by_cases hmet : other ∈ (before ++ [(name, target)]).map Prod.fst
    · rw [eq_of_met hmet hnew, hload] at hcontents
      cases hcontents
      exact hinner.covers
    · exact hinner.closed other hother hmet contents hcontents
  included := by
    intro other hother hnew
    have hname : Included load (includeNames [line]) name :=
      .direct (mem_includeNames_singleton.mpr hline)
    by_cases hmet : other ∈ (before ++ [(name, target)]).map Prod.fst
    · rw [eq_of_met hmet hnew]
      exact hname
    · exact (hinner.included other hother hmet).of_starts fun start hstart =>
        hname.nested hload hstart

end Met

end Meets

/-- A run that ends well has met what its lines lead to. -/
theorem Stages.meets {ls result : List (List Char)} {staging after : Staging}
    (h : Stages load ls staging (.ok (result, after))) :
    Meets load ls staging.staged after.staged := by
  generalize hresult : (Except.ok (result, after) : Outcome) = outcome at h
  induction h generalizing result after with
  | nil =>
    cases hresult
    exact .refl (covers_nil _)
  | plain hline _ ih =>
    obtain ⟨rest, hrest⟩ := Outcome.eq_ok_of_withLine hresult.symm
    exact (Meets.plain hline).cons (ih hrest.symm)
  | known hline hlookup _ ih =>
    obtain ⟨rest, hrest⟩ := Outcome.eq_ok_of_withLine hresult.symm
    exact (Meets.known hline hlookup).cons (ih hrest.symm)
  | missing hline hlookup hload _ ih =>
    obtain ⟨rest, hrest⟩ := Outcome.eq_ok_of_withLine hresult.symm
    exact (Meets.missing hline hlookup hload _).cons (ih hrest.symm)
  | loaded hline hlookup hload _ _ _ ihinner ihrest =>
    obtain ⟨rest, hrest⟩ := Outcome.eq_ok_of_withLine hresult.symm
    exact (Meets.loaded hline hlookup hload (ihinner rfl)).cons (ihrest hrest.symm)
  | stopped => cases hresult
  | unwritten => cases hresult

/-! ## A run ends -/

section Ends

variable {bound : List String}

theorem stages_stageLines {nested : Stager} {depth : Nat}
    (hnested : ∀ {name text staging}, load name = some text →
      Include.fresh bound (staging.staged.map Prod.fst) < depth →
        StagesText load text staging (nested text staging))
    {ls : List (List Char)} {staging : Staging}
    (hroom : HasRoom bound depth (staging.staged.map Prod.fst) (includeNames ls)) :
    Stages load ls staging (stageLines load nested ls staging) := by
  induction ls generalizing staging with
  | nil => exact .nil
  | cons line rest ih =>
    cases hline : LineShape.includePath? line with
    | none =>
      rw [stageLines_plain hline]
      exact .plain hline (ih (hasRoom_tail hroom (List.prefix_refl _)))
    | some name =>
      cases hlookup : staging.staged.lookup name with
      | some target =>
        rw [stageLines_known hline hlookup]
        exact .known hline hlookup (ih (hasRoom_tail hroom (List.prefix_refl _)))
      | none =>
        -- The name is new, so fewer names are left for the text that it brings in.
        have hmem : name ∈ includeNames (line :: rest) :=
          mem_includeNames_cons.mpr (Or.inl (mem_includeNames_singleton.mpr hline))
        have hfewer : Include.fresh bound ((staging.meet name).staged.map Prod.fst) < depth := by
          rw [meet, List.map_append]
          exact hroom name hmem (not_mem_keys hlookup)
        have hmet : staging.staged <+: (staging.meet name).staged := List.prefix_append _ _
        cases hload : load name with
        | none =>
          rw [stageLines_missing hline hlookup hload]
          exact .missing hline hlookup hload (ih (hasRoom_tail hroom hmet))
        | some text =>
          rw [stageLines_loaded hline hlookup hload]
          obtain ⟨outcome, hstages, heq⟩ := hnested hload hfewer
          rw [heq]
          cases outcome with
          | error error => exact .stopped hline hlookup hload hstages
          | ok inner =>
            obtain ⟨inner, after⟩ := inner
            simp only [Outcome.asText, Except.map, Except.bind]
            cases hwrite : writeFile after.scratch (staging.nextTarget name) (joinLines inner) with
            | error error => exact .unwritten hline hlookup hload hstages hwrite
            | ok disk =>
              exact .loaded hline hlookup hload hstages hwrite
                (ih (hasRoom_tail hroom (hmet.trans hstages.meets.grows)))

/-- With a depth that has room for all includes that may still be new, staging a text is such a
    run. -/
theorem stages_stageTo
    (hbound : ∀ name text, load name = some text →
      ∀ other ∈ includeNames (lines text.toList), other ∈ bound)
    {depth : Nat} {text : String} {staging : Staging}
    (hroom : HasRoom bound depth (staging.staged.map Prod.fst) (includeNames (lines text.toList))) :
    StagesText load text staging (stageTo load (depth + 1) text staging) := by
  induction depth generalizing text staging with
  | zero =>
    refine ⟨_, stages_stageLines ?_ hroom, stageTo_succ 0 text staging⟩
    exact fun _ hless => absurd hless (Nat.not_lt_zero _)
  | succ depth ih =>
    refine ⟨_, stages_stageLines ?_ hroom, stageTo_succ (depth + 1) text staging⟩
    intro name included staging hload hless
    exact ih (hasRoom_of_fresh_le (hbound name included hload) (Nat.le_of_lt_succ hless))

end Ends

/-- The depth of a project's files is beyond all names that they can bring in. -/
theorem stages_stage (root : Path) (texts : PathMap String) (disk : Disk) (text : String)
    (scratch : Disk) :
    StagesText (FileHandler.ofFiles root texts disk).included? text ⟨[], scratch⟩
      (stage (.ofFiles root texts disk) text ⟨[], scratch⟩) :=
  stages_stageTo (fun _ _ hload _ hother => FileHandler.mem_findings hload hother)
    (FileHandler.hasRoom_ofFiles root texts disk LineShape.includePath? _ _)

/-- Staging lines has the outcome at every depth that is great enough. -/
def Settles (load : Loader) (ls : List (List Char)) (staging : Staging) (outcome : Outcome) : Prop :=
  ∃ least, ∀ depth, least ≤ depth → stageLines load (stageTo load depth) ls staging = outcome

namespace Settles

variable {ls rest : List (List Char)} {line staged : List Char} {staging next : Staging}
  {outcome other : Outcome}

theorem cons
    (hline : ∀ nested, stageLines load nested (line :: rest) staging =
      Outcome.withLine staged (stageLines load nested rest next))
    (h : Settles load rest next outcome) :
    Settles load (line :: rest) staging (outcome.withLine staged) := by
  obtain ⟨least, hleast⟩ := h
  refine ⟨least, fun depth hdepth => ?_⟩
  rw [hline, hleast depth hdepth]

theorem text {text : String} (h : Settles load (lines text.toList) staging outcome) :
    ∃ least, ∀ depth, least ≤ depth → stageTo load depth text staging = outcome.asText := by
  obtain ⟨least, hleast⟩ := h
  refine ⟨least + 1, fun depth hdepth => ?_⟩
  cases depth with
  | zero => exact absurd hdepth (Nat.not_succ_le_zero least)
  | succ depth => rw [stageTo_succ, hleast depth (Nat.le_of_succ_le_succ hdepth)]

theorem unique (h : Settles load ls staging outcome) (hother : Settles load ls staging other) :
    outcome = other := by
  obtain ⟨least, hleast⟩ := h
  obtain ⟨least', hleast'⟩ := hother
  calc outcome
      = stageLines load (stageTo load (max least least')) ls staging :=
        (hleast _ (Nat.le_max_left _ _)).symm
    _ = other := hleast' _ (Nat.le_max_right _ _)

end Settles

/-- What a run leads to is what `stageTo` computes, at some depth and at all that are greater. -/
theorem Stages.settles {ls : List (List Char)} {staging : Staging} {outcome : Outcome}
    (h : Stages load ls staging outcome) : Settles load ls staging outcome := by
  induction h with
  | nil => exact ⟨0, fun _ _ => rfl⟩
  | plain hline _ ih => exact ih.cons fun _ => stageLines_plain hline
  | known hline hlookup _ ih => exact ih.cons fun _ => stageLines_known hline hlookup
  | missing hline hlookup hload _ ih => exact ih.cons fun _ => stageLines_missing hline hlookup hload
  | loaded hline hlookup hload _ hwrite _ ihinner ihrest =>
    obtain ⟨inside, hinside⟩ := ihinner.text
    obtain ⟨least, hleast⟩ := ihrest
    refine ⟨max inside least, fun depth hdepth => ?_⟩
    rw [stageLines_loaded hline hlookup hload, hinside depth (by omega), ← hleast depth (by omega)]
    simp only [Outcome.asText, Except.map, Except.bind, hwrite]
  | stopped hline hlookup hload _ ih =>
    obtain ⟨inside, hinside⟩ := ih.text
    refine ⟨inside, fun depth hdepth => ?_⟩
    rw [stageLines_loaded hline hlookup hload, hinside depth hdepth]
    rfl
  | unwritten hline hlookup hload _ hwrite ih =>
    obtain ⟨inside, hinside⟩ := ih.text
    refine ⟨inside, fun depth hdepth => ?_⟩
    rw [stageLines_loaded hline hlookup hload, hinside depth hdepth]
    simp only [Outcome.asText, Except.map, Except.bind, hwrite]

theorem StagesText.unique {text : String} {staging : Staging}
    {outcome other : Except FileError (String × Staging)}
    (h : StagesText load text staging outcome) (hother : StagesText load text staging other) :
    outcome = other := by
  obtain ⟨staged, hstages, rfl⟩ := h
  obtain ⟨staged', hstages', rfl⟩ := hother
  rw [hstages.settles.unique hstages'.settles]

/-! ## Which includes are staged -/

/-- Writing files stops only at one that cannot be written, after those in front of it were. -/
theorem perform_eq_error {disk : Disk} {files : Files} {error : FileError}
    (h : perform disk files = .error error) :
    ∃ front file back written, files = front ++ file :: back ∧
      perform disk front = .ok written ∧ writeFile written file.1 file.2 = .error error := by
  induction files generalizing disk with
  | nil => cases h
  | cons file files ih =>
    rw [perform_cons] at h
    cases hwrite : writeFile disk file.1 file.2 with
    | error stop =>
      rw [hwrite] at h
      cases h
      exact ⟨[], file, files, disk, rfl, rfl, hwrite⟩
    | ok next =>
      rw [hwrite] at h
      obtain ⟨front, other, back, written, hfiles, hfront, hstop⟩ := ih h
      refine ⟨file :: front, other, back, written, ?_, ?_, hstop⟩
      · rw [hfiles, List.cons_append]
      · rw [perform_cons, hwrite]
        exact hfront

theorem Meets.mem_iff {ls : List (List Char)} {after : Names} (h : Meets load ls [] after)
    (name : String) : name ∈ after.map Prod.fst ↔ Included load (includeNames ls) name := by
  constructor
  · intro hname
    exact h.included name hname List.not_mem_nil
  · intro hincluded
    induction hincluded with
    | direct hmem => exact Lookup.mem_keys_iff.mpr (h.covers _ hmem)
    | nested _ hload hother ih =>
      exact Lookup.mem_keys_iff.mpr (h.closed _ ih List.not_mem_nil _ hload _ hother)

/-- Staging a text is the run that follows its includes, so this always ends, and it fails only where
    a file cannot be written. What is staged at the end is the include closure of the text, each name
    once: the names on its lines and, with every name that can be loaded, those on the lines of what it
    brings in. -/
theorem stage_meets_closure (root : Path) (texts : PathMap String) (disk : Disk) (text : String)
    (scratch : Disk) :
    let handler := FileHandler.ofFiles root texts disk
    (∀ outcome, StagesText handler.included? text ⟨[], scratch⟩ outcome ↔
      stage handler text ⟨[], scratch⟩ = outcome) ∧
    (∀ error, stage handler text ⟨[], scratch⟩ = .error error →
      ∃ front file back written, (Program.planFor handler text).files = front ++ file :: back ∧
        perform scratch front = .ok written ∧ writeFile written file.1 file.2 = .error error) ∧
    ∀ result staging, stage handler text ⟨[], scratch⟩ = .ok (result, staging) →
      (staging.staged.map Prod.fst).Nodup ∧
        ∀ name, name ∈ staging.staged.map Prod.fst ↔
          Included handler.included? (includeNames (lines text.toList)) name := by
  intro handler
  have hruns := stages_stage root texts disk text scratch
  refine ⟨fun outcome => ⟨hruns.unique, fun heq => heq ▸ hruns⟩, ?_, ?_⟩
  · intro error herror
    -- Staging writes the files of its plan in turn, so it stops where that stops.
    have hcarry : stage handler text ⟨[], scratch⟩ =
        (Program.planFor handler text).carryOut scratch := stageTo_eq _ _ _ _
    rw [hcarry, carryOut_eq_map] at herror
    apply perform_eq_error
    cases hperform : perform scratch (Program.planFor handler text).files with
    | error stop =>
      rw [hperform] at herror
      cases herror
      rfl
    | ok disk =>
      rw [hperform] at herror
      cases herror
  · intro result staging hstage
    rw [hstage] at hruns
    obtain ⟨outcome, hstages, houtcome⟩ := hruns
    cases outcome with
    | error stop => cases houtcome
    | ok done =>
      cases houtcome
      exact ⟨hstages.meets.nodup List.nodup_nil, hstages.meets.mem_iff⟩

/-- Two files that include each other, one of them also itself, and a file that is missing. -/
def entangled : FileHandler :=
  .ofFiles (.ofString "/story")
    ⟨[(.ofString "/story/a.ink", "INCLUDE a.ink\nINCLUDE b.ink\n"),
      (.ofString "/story/b.ink", "INCLUDE a.ink\nINCLUDE c.ink\n")]⟩
    .empty

/-- What is staged for a text that includes both, one of them on a way through the folder above. -/
def disentangled : Staging where
  staged := [("a.ink", "a.ink"), ("b.ink", "b.ink"), ("c.ink", "c.ink"),
    ("../story/b.ink", "__external__/3_b.ink")]
  scratch := .ofTexts [("b.ink", "INCLUDE a.ink\nINCLUDE c.ink"),
    ("a.ink", "INCLUDE a.ink\nINCLUDE b.ink"),
    ("__external__/3_b.ink", "INCLUDE a.ink\nINCLUDE c.ink")]

/-- Includes that go round in circles are staged once for each of their names. -/
theorem entangled_meets_closure :
    stage entangled "INCLUDE a.ink\nINCLUDE ../story/b.ink\n" ⟨[], .empty⟩ =
        .ok ("INCLUDE a.ink\nINCLUDE __external__/3_b.ink", disentangled) ∧
      (disentangled.staged.map Prod.fst).Nodup ∧
      ∀ name, name ∈ ["a.ink", "b.ink", "c.ink", "../story/b.ink"] ↔
        Included entangled.included? ["a.ink", "../story/b.ink"] name := by
  have hstage : stage entangled "INCLUDE a.ink\nINCLUDE ../story/b.ink\n" ⟨[], .empty⟩ =
      .ok ("INCLUDE a.ink\nINCLUDE __external__/3_b.ink", disentangled) := by
    apply ok_of_toOption
    decide +kernel
  have hnames : includeNames (lines "INCLUDE a.ink\nINCLUDE ../story/b.ink\n".toList) =
      ["a.ink", "../story/b.ink"] := by
    decide +kernel
  obtain ⟨hnodup, hiff⟩ := (stage_meets_closure _ _ _ _ .empty).2.2 _ _ hstage
  rw [hnames] at hiff
  exact ⟨hstage, hnodup, hiff⟩

end Staging

end InkWorkspace
