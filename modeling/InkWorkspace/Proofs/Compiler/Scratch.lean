import InkWorkspace.Compiler.Program
import InkWorkspace.Proofs.Compiler.Handler
import InkWorkspace.Proofs.Compiler.Retarget

/- The scratch folder that a program is started in. A file stays as it is until another one is
   written to its place (`perform_holds`), and files of one place that are both moved or both contained
   hold the same text. So each staged include is found where its target leads, and so is the root text
   (`prepare_holds`), as long as no author writes down a place that staging takes for itself: names are
   not checked for those (`reserved_names_are_overwritten`). -/
namespace InkWorkspace

open Text

namespace Staging

/-! ## Writing -/

/-- The files of the first are those of the second, at least. -/
def Keeps (before after : Disk) : Prop :=
  ∀ place bytes, before.entry? place = some (.file bytes) → after.entry? place = some (.file bytes)

theorem makeWay_keeps {disk after : Disk} {above : Place} {names : List FileName}
    (h : makeWay disk above names = .ok after) : Keeps disk after := by
  induction names generalizing disk above with
  | nil =>
    cases h
    exact fun _ _ hfile => hfile
  | cons name names ih =>
    simp only [makeWay] at h
    split at h
    · exact ih h
    · cases h
    · next hnone =>
      split at h
      · cases h
      · intro place bytes hfile
        refine ih h place bytes ?_
        have hroot : place ≠ [] := by
          rintro rfl
          cases hfile
        have hplace : place ≠ above ++ [name] := by
          rintro rfl
          rw [hnone] at hfile
          cases hfile
        rw [Disk.entry?_put, if_neg hroot, if_neg hplace, hfile]

theorem spellingError?_root (disk : Disk) (name : String) :
    (spellingError? disk name []).isSome = true := by
  simp only [spellingError?, Disk.entry?]
  split
  · rfl
  · simp

theorem writeFile_ok {disk after : Disk} {target text : String}
    (h : writeFile disk target text = .ok after) :
    placeOf target ≠ [] ∧
      ∃ way, Keeps disk way ∧ after = way.put (placeOf target) (.ofText text) := by
  unfold writeFile at h
  dsimp only at h
  cases hfolder : textError? (folderText target) with
  | some error =>
    rw [hfolder] at h
    cases h
  | none =>
    rw [hfolder] at h
    cases hway : makeWay disk [] (placeOf target).dropLast with
    | error e =>
      rw [placeOf] at hway
      rw [hway] at h
      cases h
    | ok way =>
      rw [placeOf] at hway
      rw [hway] at h
      dsimp only [bind, Except.bind] at h
      cases hspelling : textError? target.toList <|> spellingError? way target (placeOf target) with
      | some error =>
        rw [placeOf] at hspelling
        rw [hspelling] at h
        cases h
      | none =>
        have hafter : after = way.put (placeOf target) (.ofText text) := by
          rw [placeOf] at hspelling
          rw [hspelling] at h
          cases h
          rfl
        refine ⟨?_, way, makeWay_keeps hway, hafter⟩
        intro hroot
        -- A spelling that leads to the folder itself is refused.
        have hnone := (Option.or_eq_none_iff.mp (Option.orElse_eq_or.symm.trans hspelling)).2
        have hsome := spellingError?_root way target
        rw [← hroot, hnone] at hsome
        cases hsome

/-- If all files for a place have one text, the place holds it, be it that one of them is written or that
    it was there. -/
theorem perform_holds {disk after : Disk} {files : Files} {place : Place} {text : String}
    (hsame : ∀ file ∈ files, placeOf file.1 = place → file.2 = text)
    (hholds : (∃ file ∈ files, placeOf file.1 = place) ∨ disk.entry? place = some (.ofText text))
    (h : perform disk files = .ok after) : after.entry? place = some (.ofText text) := by
  induction files generalizing disk with
  | nil =>
    cases h
    exact hholds.resolve_left (by simp)
  | cons file files ih =>
    rw [perform_cons] at h
    cases hwrite : writeFile disk file.1 file.2 with
    | error e =>
      rw [hwrite] at h
      cases h
    | ok next =>
      rw [hwrite] at h
      refine ih (fun other hother => hsame other (List.mem_cons_of_mem file hother)) ?_ h
      obtain ⟨hroot, way, hkeeps, rfl⟩ := writeFile_ok hwrite
      rw [Disk.entry?_put]
      by_cases hplace : placeOf file.1 = place
      · rw [if_neg (hplace ▸ hroot), if_pos hplace.symm, hsame file List.mem_cons_self hplace]
        exact Or.inr rfl
      · -- A file for another place leaves what is there, and what is still to be written.
        rcases hholds with ⟨other, hother, heq⟩ | hthere
        · rcases List.mem_cons.mp hother with rfl | hother
          · exact absurd heq hplace
          · exact Or.inl ⟨other, hother, heq⟩
        · have hne : place ≠ [] := by
            rintro rfl
            cases hthere
          rw [if_neg hne, if_neg (Ne.symm hplace)]
          exact Or.inr (hkeeps place _ hthere)

end Staging

namespace Program

open Staging

/-- The plan for a text and all that it includes. -/
def planFor (handler : FileHandler) (text : String) : Plan String :=
  planTo handler.included? (handler.depth + 1) text []

/-- No include of a project's files is cut off. -/
theorem planFor_settled (root : Path) (texts : PathMap String) (disk : Disk) (text : String) :
    SettledText (FileHandler.ofFiles root texts disk).included? text
      (planFor (.ofFiles root texts disk) text) :=
  planTo_settled (fun _ _ hload _ hother => FileHandler.mem_findings hload hother) Numbered.nil
    (FileHandler.hasRoom_ofFiles root texts disk LineShape.includePath? _ _)

theorem prepare_ok {call : CompileCall} {handler : FileHandler}
    (hhandler : call.handler = some handler) {staging : Staging}
    (h : prepare call = .ok staging) :
    staging.staged = (planFor handler call.source).staged ∧
      ∃ written, perform .empty (planFor handler call.source).files = .ok written ∧
        writeFile written rootFile (planFor handler call.source).result = .ok staging.scratch := by
  unfold prepare at h
  rw [hhandler] at h
  dsimp only at h
  rw [show stage handler call.source ⟨[], .empty⟩ = (planFor handler call.source).carryOut .empty
    from stageTo_eq _ _ _ _, carryOut_eq_map] at h
  cases hperform : perform .empty (planFor handler call.source).files with
  | error e =>
    rw [hperform] at h
    cases h
  | ok written =>
    rw [hperform] at h
    dsimp only [Except.map, bind, Except.bind] at h
    cases hroot : writeFile written rootFile (planFor handler call.source).result with
    | error e =>
      rw [hroot] at h
      cases h
    | ok scratch =>
      rw [hroot] at h
      cases h
      exact ⟨rfl, written, rfl, hroot⟩

theorem included?_eq_of_places_eq {staged : Names} (hnumbered : Numbered staged)
    {entry other : String × String} (hentry : entry ∈ staged) (hother : other ∈ staged)
    (hplace : placeOf entry.2 = placeOf other.2) (hkind : isContained entry.1 = isContained other.1)
    (root : Path) (texts : PathMap String) (disk : Disk) :
    (FileHandler.ofFiles root texts disk).included? entry.1 =
      (FileHandler.ofFiles root texts disk).included? other.1 := by
  cases hcontained : isContained entry.1 with
  | false =>
    rw [hnumbered.eq_of_places_eq hentry hother hcontained (hkind ▸ hcontained) hplace]
  | true =>
    have hcontained' := hkind ▸ hcontained
    obtain ⟨index, -, htarget⟩ := hnumbered.target_eq hentry
    obtain ⟨number, -, htarget'⟩ := hnumbered.target_eq hother
    rw [htarget, htarget', targetOf_contained hcontained, targetOf_contained hcontained'] at hplace
    simp only [FileHandler.included?, FileHandler.ofFiles,
      resolve_eq_of_places_eq hcontained hcontained' hplace]

/-- Moved includes and contained ones do not meet at a place. -/
def Unmixed (staged : Names) (place : Place) : Prop :=
  ∀ entry ∈ staged, ∀ other ∈ staged, placeOf entry.2 = place → placeOf other.2 = place →
    isContained entry.1 = isContained other.1

theorem unmixed_of_head_ne {staged : Names} (hnumbered : Numbered staged) {place : Place}
    (h : place.head? ≠ some externalName) : Unmixed staged place := by
  have hall : ∀ entry ∈ staged, placeOf entry.2 = place → isContained entry.1 = true := by
    intro entry hentry hplace
    cases hcontained : isContained entry.1 with
    | true => rfl
    | false =>
      obtain ⟨index, -, htarget⟩ := hnumbered.target_eq hentry
      rw [← hplace, htarget, placeOf_moved hcontained] at h
      exact absurd rfl h
  intro entry hentry other hother hplace hplace'
  rw [hall entry hentry hplace, hall other hother hplace']

/-- A text stands at a place as it should: all that it includes has a target, and the file there is
    the text with its includes pointing at the targets. -/
structure HoldsAt (staging : Staging) (place : Place) (text : String) : Prop where
  covers : Covers staging.staged (lines text.toList)
  entry : staging.scratch.entry? place = some (.ofText (retarget staging.staged text))

/-- After staging, the root text stands in the root file, and what an include brings in stands at its
    target. It takes that the include does not name the root file, and that no moved include meets a
    contained one at its target, which can happen only in the folder for moved ones. -/
theorem prepare_holds {call : CompileCall} {root : Path} {texts : PathMap String} {disk : Disk}
    (hhandler : call.handler = some (.ofFiles root texts disk)) {staging : Staging}
    (h : prepare call = .ok staging) :
    HoldsAt staging (placeOf rootFile) call.source ∧
      (∀ name target text, (name, target) ∈ staging.staged →
        (FileHandler.ofFiles root texts disk).included? name = some text →
        placeOf target ≠ placeOf rootFile → Unmixed staging.staged (placeOf target) →
          HoldsAt staging (placeOf target) text) ∧
      ∀ place : Place, place.head? ≠ some externalName → Unmixed staging.staged place := by
  obtain ⟨hstaged, written, hperform, hroot⟩ := prepare_ok hhandler h
  obtain ⟨-, way, hkeeps, hscratch⟩ := writeFile_ok hroot
  have hsettled := planFor_settled root texts disk call.source
  let handler := FileHandler.ofFiles root texts disk
  have hrecords : Records handler.included? [] (planFor handler call.source).staged
      (planFor handler call.source).files := (records handler.included?).planTo _ call.source []
  rw [← hstaged] at hrecords
  have hnumbered := hrecords.numbered Numbered.nil
  have hfiles : Faithful handler.included? staging.staged (planFor handler call.source).files :=
    hstaged ▸ hsettled.files
  have hrootFile : placeOf rootFile ≠ [] := by decide +kernel
  refine ⟨⟨hstaged ▸ hsettled.covers, ?_⟩, ?_, fun place hhead => unmixed_of_head_ne hnumbered hhead⟩
  · rw [hscratch, Disk.entry?_put, if_neg hrootFile, if_pos rfl, hsettled.result_eq,
      hstaged]
  · intro name target text hmem hload hother hunmixed
    -- Whatever is written to the place of the target is the text of this include.
    have hsame : ∀ file ∈ (planFor handler call.source).files, placeOf file.1 = placeOf target →
        Covers staging.staged (lines text.toList) ∧ file.2 = retarget staging.staged text := by
      intro file hfile hmeets
      obtain ⟨source, contents, hsource, hcontents, hcovers, htext⟩ := hfiles file hfile
      have hequal := included?_eq_of_places_eq hnumbered hsource hmem hmeets
        (hunmixed _ hsource _ hmem hmeets rfl) root texts disk
      rw [hcontents, hload] at hequal
      cases hequal
      exact ⟨hcovers, htext⟩
    obtain ⟨result, hresult⟩ := hrecords.written _ hmem List.not_mem_nil text hload
    have hwritten := perform_holds (fun file hfile hmeets => (hsame file hfile hmeets).2)
      (Or.inl ⟨_, hresult, rfl⟩) hperform
    have hne : placeOf target ≠ [] := by
      intro hnil
      rw [hnil] at hwritten
      cases hwritten
    refine ⟨(hsame _ hresult rfl).1, ?_⟩
    rw [hscratch, Disk.entry?_put, if_neg hne, if_neg hother]
    exact hkeeps _ _ hwritten

namespace ReservedNames

/-- A file outside the folder of the root text, and two in it whose names staging takes for
    itself. -/
def files : FileHandler :=
  .ofFiles (.ofString "/story")
    ⟨[(.ofString "/story/__external__/0_x.ink", "=== b ===\n"),
      (.ofString "/story/__root__.ink", "=== c ===\n"),
      (.ofString "/x.ink", "=== a ===\n")]⟩
    .empty

def call (text : String) : CompileCall :=
  ⟨text, ⟨true, none, []⟩, some files⟩

theorem prepare_eq_ok {text : String} {staging : Staging}
    (h : (prepare (call text)).toOption = some staging) : prepare (call text) = .ok staging := by
  cases hprepare : prepare (call text) with
  | error e =>
    rw [hprepare] at h
    cases h
  | ok found =>
    rw [hprepare] at h
    cases h
    rfl

/-- What is prepared for a text that includes the file outside. -/
def prepared : Staging where
  staged := [("../x.ink", "__external__/0_x.ink")]
  scratch := .ofTexts [("__external__/0_x.ink", "=== a ==="),
    ("__root__.ink", "INCLUDE __external__/0_x.ink\n-> a")]

/-- A file from outside is found where the root text includes it from. -/
theorem prepare_holds_file_outside :
    (call "INCLUDE ../x.ink\n-> a").handler = some files ∧
      prepare (call "INCLUDE ../x.ink\n-> a") = .ok prepared ∧
      files.included? "../x.ink" = some "=== a ===\n" ∧
      placeOf "__external__/0_x.ink" ≠ placeOf rootFile ∧
      Unmixed prepared.staged (placeOf "__external__/0_x.ink") ∧
      HoldsAt prepared (placeOf "__external__/0_x.ink") "=== a ===\n" := by
  have hprepare : prepare (call "INCLUDE ../x.ink\n-> a") = .ok prepared :=
    prepare_eq_ok (by decide +kernel)
  have hincluded : files.included? "../x.ink" = some "=== a ===\n" := by decide +kernel
  have hplace : placeOf "__external__/0_x.ink" ≠ placeOf rootFile := by decide +kernel
  have hunmixed : Unmixed prepared.staged (placeOf "__external__/0_x.ink") := by
    intro entry hentry other hother _ _
    rw [List.mem_singleton.mp hentry, List.mem_singleton.mp hother]
  exact ⟨rfl, hprepare, hincluded, hplace, hunmixed, (prepare_holds rfl hprepare).2.1 "../x.ink" _ _
    List.mem_cons_self hincluded hplace hunmixed⟩

/-- A file in the folder for moved includes takes the place of the one that is moved there, and the
    root text that of a file which has its name. -/
theorem reserved_names_are_overwritten :
    (∃ staging, prepare (call "INCLUDE ../x.ink\nINCLUDE __external__/0_x.ink\n-> a") =
        .ok staging ∧
      ("../x.ink", "__external__/0_x.ink") ∈ staging.staged ∧
      files.included? "../x.ink" = some "=== a ===\n" ∧
      staging.scratch.entry? (placeOf "__external__/0_x.ink") = some (.ofText "=== b ===")) ∧
    ∃ staging, prepare (call "INCLUDE __root__.ink\n-> c") = .ok staging ∧
      ("__root__.ink", "__root__.ink") ∈ staging.staged ∧
      files.included? "__root__.ink" = some "=== c ===\n" ∧
      staging.scratch.entry? (placeOf "__root__.ink") =
        some (.ofText "INCLUDE __root__.ink\n-> c") := by
  refine ⟨⟨⟨[("../x.ink", "__external__/0_x.ink"),
      ("__external__/0_x.ink", "__external__/0_x.ink")], .ofTexts [
        ("__external__/0_x.ink", "=== b ==="), ("__root__.ink",
        "INCLUDE __external__/0_x.ink\nINCLUDE __external__/0_x.ink\n-> a")]⟩,
      prepare_eq_ok (by decide +kernel), ?_⟩,
    ⟨⟨[("__root__.ink", "__root__.ink")],
      .ofTexts [("__root__.ink", "INCLUDE __root__.ink\n-> c")]⟩,
      prepare_eq_ok (by decide +kernel), ?_⟩⟩
  · exact ⟨by decide +kernel, by decide +kernel, by decide +kernel⟩
  · exact ⟨by decide +kernel, by decide +kernel, by decide +kernel⟩

end ReservedNames

end Program

end InkWorkspace
