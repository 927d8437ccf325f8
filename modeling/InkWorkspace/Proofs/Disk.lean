import InkWorkspace.Disk
import InkWorkspace.Proofs.Lookup
import InkWorkspace.Proofs.Path

/- Reading by path. A walk over files is bounded by `Disk.spellings`, so it misses nothing only if
   every path that it may be given and that can be read is listed there: `mem_spellings` says this of
   all normal paths.

   There are no links, so folding an absolute path by its spelling alone is safe: whatever can be read
   through it can be read through its normal form (`text?_normalize`). The other way fails, since a path
   may climb out of a folder that is not there; and of a relative path that climbs twice, folding
   makes another one. -/
namespace InkWorkspace

theorem ok_of_toOption {ε α : Type} {outcome : Except ε α} {a : α}
    (h : outcome.toOption = some a) : outcome = .ok a := by
  cases outcome with
  | error e => cases h
  | ok b =>
    cases h
    rfl

end InkWorkspace

namespace InkWorkspace.Disk

open Text

theorem text?_eq_some_iff {disk : Disk} {path : Path} {text : String} :
    disk.text? path = some text ↔
      ∃ place bytes, disk.locate path = .ok place ∧ disk.entry? place = some (.file bytes) ∧
        decode? bytes = some text := by
  simp only [text?, readText, readBytes]
  cases hl : disk.locate path with
  | error e => simp [bind, Except.bind, Except.toOption]
  | ok place =>
    cases he : disk.entry? place with
    | none => simp [bind, Except.bind, Except.toOption, he, throw, throwThe, MonadExceptOf.throw]
    | some entry =>
      cases entry with
      | folder =>
        simp [bind, Except.bind, Except.toOption, he, throw, throwThe, MonadExceptOf.throw]
      | file bytes =>
        cases hd : decode? bytes with
        | none =>
          simp [bind, Except.bind, Except.toOption, he, hd, pure, Except.pure, throw, throwThe,
            MonadExceptOf.throw]
        | some found =>
          simp [bind, Except.bind, Except.toOption, he, hd, pure, Except.pure]

theorem follow_named {disk : Disk} {parts : List Component} (h : ∀ c ∈ parts, Path.Named c)
    {place dest : Place} (hf : disk.follow parts place = .ok dest) :
    ∃ names : List FileName, parts = names.map .name ∧ dest = place ++ names := by
  induction parts generalizing place with
  | nil =>
    simp only [follow, Except.ok.injEq] at hf
    exact ⟨[], rfl, by simp [hf]⟩
  | cons c rest ih =>
    have hrest : ∀ x ∈ rest, Path.Named x := fun x hx => h x (List.mem_cons_of_mem c hx)
    simp only [follow] at hf
    split at hf
    · cases hf
    · cases c with
      | here => exact absurd rfl (h _ List.mem_cons_self).1
      | up => exact absurd rfl (h _ List.mem_cons_self).2
      | name file =>
        dsimp only at hf
        split at hf
        · cases hf
        · obtain ⟨names, rfl, rfl⟩ := ih hrest hf
          exact ⟨file :: names, rfl, by simp⟩

theorem follow_up {disk : Disk} {rest : List Component} {place dest : Place}
    (h : disk.follow (.up :: rest) place = .ok dest) :
    disk.follow rest place.dropLast = .ok dest := by
  simp only [follow] at h
  split at h
  · cases h
  · exact h

theorem mem_entries_of_file {disk : Disk} {place : Place} {bytes : List UInt8}
    (h : disk.entry? place = some (.file bytes)) : (place, .file bytes) ∈ disk.entries := by
  unfold entry? at h
  split at h
  · cases h
  · exact Lookup.mem_of_lookup h

theorem locate_cases {disk : Disk} {path : Path} {place : Place}
    (h : disk.locate path = .ok place) :
    pathError? path = none ∧
      (path.absolute = true ∧ disk.follow path.parts [] = .ok place ∨
        path.absolute = false ∧ disk.follow path.parts disk.workingFolder = .ok place) := by
  unfold locate at h
  split at h
  · cases h
  · next herror =>
    refine ⟨herror, ?_⟩
    split at h
    · next habs => exact Or.inl ⟨habs, h⟩
    · next habs =>
      split at h
      · cases h
      · exact Or.inr ⟨by simpa using habs, h⟩

theorem mem_spellingsOf {disk : Disk} {path : Path} {place : Place} {bytes : List UInt8}
    (hn : path.normalize = path) (hl : disk.locate path = .ok place)
    (hfile : disk.entry? place = some (.file bytes)) : path ∈ disk.spellingsOf place := by
  obtain ⟨-, ⟨habs, hf⟩ | ⟨hrel, hf⟩⟩ := locate_cases hl
  · obtain ⟨absolute, parts⟩ := path
    obtain ⟨names, hnames, hparts⟩ := Path.folded_of_normal hn habs
    dsimp only at habs hf hparts
    subst habs
    rcases hparts with rfl | rfl
    · obtain ⟨files, rfl, rfl⟩ := follow_named hnames hf
      simp [spellingsOf]
    · -- The parent of the root is the root.
      obtain ⟨files, rfl, rfl⟩ := follow_named hnames (follow_up hf)
      simp [spellingsOf]
  · rcases Path.normal_cases hn with rfl | ⟨names, hnames, hparts⟩
    · -- A lone dot leads to a folder.
      simp only [follow, folderError?] at hf
      split at hf
      · cases hf
      · next hfolder =>
        cases hf
        rw [hfile] at hfolder
        cases hfolder
    · obtain ⟨absolute, parts⟩ := path
      dsimp only at hrel hf hparts
      subst hrel
      rcases hparts with rfl | rfl
      · obtain ⟨files, rfl, rfl⟩ := follow_named hnames hf
        simp [spellingsOf]
      · obtain ⟨files, rfl, rfl⟩ := follow_named hnames (follow_up hf)
        simp [spellingsOf]

/-- Every normal path that can be read is listed. -/
theorem mem_spellings {disk : Disk} {path : Path} {text : String}
    (hn : path.normalize = path) (h : disk.text? path = some text) : path ∈ disk.spellings := by
  obtain ⟨place, bytes, hl, he, -⟩ := text?_eq_some_iff.mp h
  exact List.mem_flatMap.mpr ⟨_, mem_entries_of_file he, mem_spellingsOf hn hl he⟩

/-! ## Reading behind a fold -/

theorem follow_append (disk : Disk) (front back : List Component) (place : Place) :
    disk.follow (front ++ back) place = (disk.follow front place).bind (disk.follow back) := by
  induction front generalizing place with
  | nil => rfl
  | cons c front ih =>
    simp only [List.cons_append, follow]
    cases disk.folderError? place with
    | some error => rfl
    | none =>
      cases c with
      | here => exact ih place
      | up => exact ih place.dropLast
      | name file =>
        dsimp only
        split
        · rfl
        · exact ih (place ++ [file])

theorem follow_concat_iff {disk : Disk} {front : List Component} {last : Component}
    {start dest : Place} :
    disk.follow (front ++ [last]) start = .ok dest ↔
      ∃ place, disk.follow front start = .ok place ∧ disk.follow [last] place = .ok dest := by
  rw [follow_append]
  cases disk.follow front start with
  | error e => simp [Except.bind]
  | ok place => simp [Except.bind]

theorem follow_dropLast {disk : Disk} {parts : List Component} (hfolded : Path.Folded parts)
    {place : Place} (h : disk.follow parts [] = .ok place) :
    disk.follow parts.dropLast [] = .ok place.dropLast := by
  rcases List.eq_nil_or_concat parts with rfl | ⟨front, last, rfl⟩
  · cases h
    rfl
  · rw [List.concat_eq_append] at hfolded h ⊢
    rw [List.dropLast_concat]
    obtain ⟨above, habove, hlast⟩ := follow_concat_iff.mp h
    rcases hfolded.last_named with hnamed | ⟨rfl, rfl⟩
    · obtain ⟨names, hname, rfl⟩ := follow_named (by simpa using hnamed) hlast
      obtain ⟨file, rfl⟩ : ∃ file, names = [file] := by
        have hlength := congrArg List.length hname
        rw [List.length_map] at hlength
        exact List.length_eq_one_iff.mp hlength.symm
      rw [List.dropLast_concat]
      exact habove
    · -- The parent of the root is the root.
      cases habove
      cases h
      rfl

theorem follow_fold {disk : Disk} {parts : List Component} (hfolded : Path.Folded parts)
    {c : Component} {place next : Place} (h : disk.follow parts [] = .ok place)
    (hc : disk.follow [c] place = .ok next) :
    disk.follow (Path.fold parts c) [] = .ok next := by
  have hfolder : disk.folderError? place = none := by
    cases he : disk.folderError? place with
    | none => rfl
    | some error => simp [follow, he] at hc
  cases c with
  | name file => exact follow_concat_iff.mpr ⟨place, h, hc⟩
  | here =>
    simp only [follow, hfolder, Except.ok.injEq] at hc
    rw [← hc]
    exact h
  | up =>
    simp only [follow, hfolder, Except.ok.injEq] at hc
    subst hc
    simp only [Path.fold]
    split
    · next hempty =>
      rw [List.isEmpty_iff.mp hempty] at h
      cases h
      rfl
    · exact follow_dropLast hfolded h

/-- A way that leads somewhere leads there also after folding. -/
theorem follow_foldl {disk : Disk} {parts done : List Component} (hfolded : Path.Folded done)
    {place dest : Place} (hdone : disk.follow done [] = .ok place)
    (h : disk.follow parts place = .ok dest) :
    disk.follow (parts.foldl Path.fold done) [] = .ok dest := by
  induction parts generalizing done place with
  | nil =>
    cases h
    exact hdone
  | cons c parts ih =>
    rw [← List.singleton_append, follow_append] at h
    cases hc : disk.follow [c] place with
    | error e =>
      rw [hc] at h
      cases h
    | ok next =>
      rw [hc] at h
      exact ih (hfolded.fold c) (follow_fold hfolded hdone hc) h

/-- Folding takes away components, so a path that can be looked up can be so folded. -/
theorem pathError?_normalize {path : Path} (habs : path.absolute = true)
    (h : pathError? path = none) : pathError? path.normalize = none := by
  have hsub := Path.foldl_sublist path.parts []
  rw [List.nil_append] at hsub
  have hnormal : path.normalize = ⟨path.absolute, path.parts.foldl Path.fold []⟩ := by
    simp [Path.normalize, habs]
  have hlength : path.normalize.length ≤ path.length := by
    rw [hnormal]
    exact Path.length_le_of_sublist hsub path.absolute
  unfold pathError? at h ⊢
  split at h
  · cases h
  · next hbytes =>
    split at h
    · cases h
    · next hlong =>
      rw [if_neg, if_neg (by omega)]
      rw [hnormal]
      intro hany
      obtain ⟨part, hpart, hzero⟩ := List.any_eq_true.mp hany
      exact hbytes (List.any_eq_true.mpr ⟨part, hsub.subset hpart, hzero⟩)

theorem locate_normalize {disk : Disk} {path : Path} (habs : path.absolute = true) {place : Place}
    (h : disk.locate path = .ok place) : disk.locate path.normalize = .ok place := by
  obtain ⟨herror, ⟨-, hway⟩ | ⟨hrel, -⟩⟩ := locate_cases h
  · have hparts : path.normalize.parts = path.parts.foldl Path.fold [] := by
      simp [Path.normalize, habs]
    have hfolded := follow_foldl ⟨[], by simp, Or.inl rfl⟩ rfl hway
    rw [locate, pathError?_normalize habs herror]
    simp [habs, hparts, hfolded]
  · rw [habs] at hrel
    cases hrel

/-- What can be read below the root can be read under the normal form of its path. -/
theorem text?_normalize {disk : Disk} {path : Path} (habs : path.absolute = true) {text : String}
    (h : disk.text? path = some text) : disk.text? path.normalize = some text := by
  obtain ⟨place, bytes, hl, he, hd⟩ := text?_eq_some_iff.mp h
  exact text?_eq_some_iff.mpr ⟨place, bytes, locate_normalize habs hl, he, hd⟩

theorem text?_of_readSpelled {disk : Disk} {spelling : Spelling} {text : String}
    (h : disk.readSpelled spelling = .ok text) : disk.text? spelling.path = some text := by
  have hread : disk.readText spelling.path = .ok text := by
    unfold readSpelled at h
    split at h
    · cases h
    · exact h
  simp [text?, hread, Except.toOption]

/-! ## Entries that are put -/

theorem entry?_put (disk : Disk) (place other : Place) (entry : Entry) :
    Disk.entry? (disk.put place entry) other =
      if other = [] then some .folder
      else if other = place then some entry
      else disk.entry? other := by
  unfold entry? put
  rw [List.lookup_append, Lookup.lookup_filter_ne, Lookup.lookup_cons]
  by_cases hroot : other = []
  · simp [hroot]
  · by_cases hplace : other = place <;> simp [hroot, hplace]

end InkWorkspace.Disk
