import InkWorkspace.Server.Request
import InkWorkspace.Proofs.Story.Saved
import InkWorkspace.Proofs.Uri

/- The editor's text counts. `Event.held` says what an editor has of a document: the text it sent last,
   until it closes the document. `Follows` says that a session has the same: its open documents are those
   that the editor holds, and each is indexed with the editor's text. Every event keeps this
   (`Follows.apply`), on any disk, although each of them may rewrite the index: whatever an event
   changes lies at the path of the document it is about, or is read from disk where nothing was
   indexed, and a reload puts the open documents back one by one, in whatever order the runtime takes
   them. All this rests on one path having one address (`NamesApart`); a watched file under a second
   address would overwrite the text.

   All other files have the text of the disk as long as the disk stays the same (`Follows.apply_saved`). -/
namespace InkWorkspace

/-- The path under which a document is indexed. -/
def Uri.document? (uri : Uri) : Option Path :=
  uri.toPath?.map Path.normalize

theorem Uri.document?_normal {uri : Uri} {path : Path} (h : uri.document? = some path) :
    path.normalize = path := by
  obtain ⟨spelled, -, rfl⟩ := Option.map_eq_some_iff.mp h
  exact Path.normalize_normalize spelled

/-- No two of the addresses name the same file. -/
def NamesApart (uris : List Uri) : Prop :=
  ∀ u ∈ uris, ∀ v ∈ uris, u.document?.isSome = true → u.document? = v.document? → u = v

/-! ## What the editor holds -/

namespace Event

/-- The addresses that an event names. -/
def uris : Event → List Uri
  | .ready | .configured _ => []
  | .opened uri _ _ | .changed uri _ _ | .saved uri | .closed uri => [uri]
  | .filesChanged changes => changes.map (·.uri)

/-- The text of a document that an event sends. -/
def sent? (uri : Uri) : Event → Option String
  | .opened other _ text => if other = uri then some text else none
  | .changed other _ texts => if other = uri then texts.getLast? else none
  | _ => none

/-- What the editor has of a document after an event, given what it had before. -/
def held (uri : Uri) (before : Option String) : Event → Option String
  | .closed other => if other = uri then none else before
  | event => event.sent? uri <|> before

/-- What the editor has of a document after some events: the text it sent last, unless it has closed
    the document since. -/
def heldAfter (events : List Event) (uri : Uri) : Option String :=
  events.foldl (held uri) none

/-- The text of a document that the editor sent last. -/
def lastSent? (events : List Event) (uri : Uri) : Option String :=
  (events.filterMap (sent? uri)).getLast?

/-- An event ends what the editor holds of a document, or sends a text, or changes nothing. -/
theorem held_cases (uri : Uri) (before : Option String) (event : Event) :
    held uri before event = none ∨ held uri before event = (event.sent? uri).or before := by
  cases event with
  | closed other =>
    by_cases h : other = uri
    · exact Or.inl (by simp [held, h])
    · exact Or.inr (by simp [held, sent?, h])
  | _ => exact Or.inr (by simp [held])

theorem getLast?_sent_cons (uri : Uri) (event : Event) (events : List Event) :
    ((event :: events).filterMap (sent? uri)).getLast? =
      (events.filterMap (sent? uri)).getLast?.or (event.sent? uri) := by
  cases hsent : event.sent? uri with
  | none => rw [List.filterMap_cons_none hsent, Option.or_none]
  | some text =>
    rw [List.filterMap_cons_some hsent, List.getLast?_cons]
    cases (events.filterMap (sent? uri)).getLast? <;> rfl

theorem lastSent?_of_heldAfter {events : List Event} {uri : Uri} {text : String}
    (h : heldAfter events uri = some text) : lastSent? events uri = some text := by
  have run : ∀ (events : List Event) (before : Option String),
      events.foldl (held uri) before = some text →
        (events.filterMap (sent? uri)).getLast?.or before = some text := by
    intro events
    induction events with
    | nil => intro before hheld; exact hheld
    | cons event events ih =>
      intro before hheld
      have hrest := ih (held uri before event) hheld
      rw [getLast?_sent_cons, Option.or_assoc]
      rcases held_cases uri before event with hnone | hsent
      · rw [hnone, Option.or_none] at hrest
        rw [hrest, Option.some_or]
      · rw [← hsent]
        exact hrest
  have hlast := run events none h
  rwa [Option.or_none] at hlast

theorem mem_uris_of_held {uri : Uri} {before : Option String} {event : Event} {text : String}
    (h : held uri before event = some text) : before = some text ∨ uri ∈ event.uris := by
  cases event with
  | ready => exact Or.inl h
  | saved other => exact Or.inl h
  | configured settings => exact Or.inl h
  | filesChanged changes => exact Or.inl h
  | opened other version sent =>
    by_cases heq : other = uri
    · exact Or.inr (by simp [uris, heq])
    · simp [held, sent?, heq] at h
      exact Or.inl h
  | changed other version texts =>
    by_cases heq : other = uri
    · exact Or.inr (by simp [uris, heq])
    · simp [held, sent?, heq] at h
      exact Or.inl h
  | closed other =>
    by_cases heq : other = uri
    · exact Or.inr (by simp [uris, heq])
    · simp [held, heq] at h
      exact Or.inl h

end Event

namespace Session

/-! ## Open documents -/

theorem lookup_setVersion (uri other : Uri) (version : Int) (documents : List (Uri × Int)) :
    (setVersion uri version documents).lookup other =
      if other = uri then some version else documents.lookup other := by
  induction documents with
  | nil => exact Lookup.lookup_cons other uri version []
  | cons entry rest ih =>
    obtain ⟨first, old⟩ := entry
    simp only [setVersion]
    split
    · next heq =>
      subst heq
      by_cases h : other = first <;> simp [Lookup.lookup_cons, h]
    · next hne =>
      rw [Lookup.lookup_cons, Lookup.lookup_cons, ih]
      by_cases h : other = first
      · subst h
        simp [hne]
      · simp [h]

theorem mem_uris_iff {session : Session} {uri : Uri} :
    uri ∈ session.uris ↔ session.isOpen uri = true :=
  Lookup.mem_keys_iff

/-- An open document lies at the path. -/
def OpenAt (session : Session) (path : Path) : Prop :=
  ∃ uri, session.isOpen uri = true ∧ uri.document? = some path

/-- The session has what the editor holds: the same documents are open, and each is indexed with the
    editor's text. A document without a path is never open. -/
structure Follows (held : Uri → Option String) (session : Session) : Prop where
  isOpen_iff (uri : Uri) :
    session.isOpen uri = true ↔ uri.document?.isSome = true ∧ (held uri).isSome = true
  indexed {uri : Uri} {path : Path} {text : String} : held uri = some text →
    uri.document? = some path → session.story.files.find? path = some (InkFile.read path text)

section Events

variable {σ : Type} {held : Uri → Option String} {session : Session} {disk : Disk}

theorem Follows.congr (h : session.Follows held) {other : Uri → Option String}
    (heq : ∀ uri, other uri = held uri) : session.Follows other := by
  rwa [funext heq]

theorem Follows.file?_eq (h : session.Follows held) {uri : Uri} (hopen : session.isOpen uri = true) :
    ∃ path text, uri.document? = some path ∧ held uri = some text ∧
      session.file? uri = some (InkFile.read path text) := by
  obtain ⟨hdocument, hheld⟩ := (h.isOpen_iff uri).mp hopen
  obtain ⟨path, hpath⟩ := Option.isSome_iff_exists.mp hdocument
  obtain ⟨text, htext⟩ := Option.isSome_iff_exists.mp hheld
  refine ⟨path, text, hpath, htext, ?_⟩
  obtain ⟨spelled, hspelled, rfl⟩ := Option.map_eq_some_iff.mp hpath
  simp only [file?, hspelled, Option.bind_eq_bind, Option.bind_some, Story.file?]
  exact h.indexed htext hpath

theorem Follows.withLedger (h : session.Follows held) (ledger : Ledger Uri) :
    { session with ledger := ledger }.Follows held :=
  ⟨h.isOpen_iff, h.indexed⟩

/-! ## Taking in a text -/

theorem isOpen_updateDocument (disk : Disk) (session : Session) (uri other : Uri) (version : Int)
    (text : String) :
    (session.updateDocument disk uri version text).isOpen other = true ↔
      (other = uri ∧ uri.document?.isSome = true) ∨ session.isOpen other = true := by
  unfold updateDocument
  cases hpath : uri.toPath? with
  | none => simp [Uri.document?, hpath]
  | some path =>
    simp only [isOpen, version?, lookup_setVersion, Uri.document?, hpath]
    by_cases h : other = uri <;> simp [h]

theorem Follows.updateDocument (h : session.Follows held) {uri : Uri}
    (hapart : ∀ other, (held other).isSome = true → uri.document?.isSome = true →
      uri.document? = other.document? → uri = other) (disk : Disk) (version : Int) (text : String) :
    (session.updateDocument disk uri version text).Follows
      (fun other => if uri = other then some text else held other) where
  isOpen_iff other := by
    rw [isOpen_updateDocument, h.isOpen_iff]
    by_cases heq : uri = other
    · subst heq
      simp +contextual
    · simp [heq, Ne.symm heq]
  indexed := by
    intro other path found hheld hpath
    unfold Session.updateDocument
    by_cases heq : uri = other
    · subst heq
      rw [if_pos rfl] at hheld
      cases hheld
      obtain ⟨spelled, hspelled, rfl⟩ := Option.map_eq_some_iff.mp hpath
      rw [hspelled]
      exact Story.find?_update_document disk session.story spelled text
    · rw [if_neg heq] at hheld
      have hold := h.indexed hheld hpath
      cases hspelled : uri.toPath? with
      | none => exact hold
      | some spelled =>
        -- The document lies elsewhere, so its update leaves the other file alone.
        have hother : path ≠ spelled.normalize := by
          rintro rfl
          have hdocument : uri.document? = some spelled.normalize := by
            rw [Uri.document?, hspelled, Option.map_some]
          exact heq (hapart other (by simp [hheld]) (by simp [hdocument])
            (hdocument.trans hpath.symm))
        exact Story.find?_update_of_ne hother hold

theorem updateDocument_saved (h : session.story.SavedExcept disk session.OpenAt) (uri : Uri)
    (version : Int) (text : String) :
    (session.updateDocument disk uri version text).story.SavedExcept disk
      (session.updateDocument disk uri version text).OpenAt := by
  have hopen : ∀ path, session.OpenAt path →
      (session.updateDocument disk uri version text).OpenAt path := by
    rintro path ⟨other, hother, hpath⟩
    exact ⟨other, (isOpen_updateDocument disk session uri other version text).mpr (Or.inr hother),
      hpath⟩
  cases hspelled : uri.toPath? with
  | none =>
    have heq : session.updateDocument disk uri version text = session := by
      simp only [updateDocument, hspelled]
    rwa [heq]
  | some path =>
    have hdocument : uri.document? = some path.normalize := by
      rw [Uri.document?, hspelled, Option.map_some]
    have hstory : (session.updateDocument disk uri version text).story =
        session.story.update disk path text := by
      simp only [updateDocument, hspelled]
    rw [hstory]
    refine (h.update path text).mono ?_
    rintro other (hother | rfl)
    · exact hopen other hother
    · exact ⟨uri, (isOpen_updateDocument disk session uri uri version text).mpr
        (Or.inl ⟨rfl, by simp [hdocument]⟩), hdocument⟩

/-! ## Closing a document -/

theorem find?_releaseFile_of_ne {story : Story} {path other : Path} (hnormal : path.normalize = path)
    (hother : other ≠ path) {file : InkFile} (h : story.files.find? other = some file) :
    (releaseFile disk story path).files.find? other = some file := by
  have hne : other ≠ path.normalize := by rwa [hnormal]
  have hremoved : (story.remove path).2.files.find? other = some file := by
    rw [Story.find?_remove, if_neg hne, h]
  unfold releaseFile
  split
  · split
    · exact Story.find?_update_of_ne hne h
    · exact hremoved
  · exact hremoved

theorem releaseFile_saved {story : Story} {unsaved : Path → Prop}
    (h : story.SavedExcept disk unsaved) {path : Path} (hnormal : path.normalize = path) :
    (releaseFile disk story path).SavedExcept disk (fun other => unsaved other ∧ other ≠ path) := by
  have hremoved := h.remove path
  rw [hnormal] at hremoved
  unfold releaseFile
  split
  · next text htext =>
    split
    · have hread := h.update_onDisk (hnormal.symm ▸ htext)
      rwa [hnormal] at hread
    · exact hremoved
  · exact hremoved

theorem isOpen_closeDocument (disk : Disk) (session : Session) (uri other : Uri) :
    (session.closeDocument disk uri).isOpen other = true ↔
      other ≠ uri ∧ session.isOpen other = true := by
  simp only [isOpen, version?, closeDocument, Lookup.lookup_filter_ne]
  by_cases h : other = uri <;> simp [h]

theorem closeDocument_story (disk : Disk) (session : Session) (uri : Uri) :
    (session.closeDocument disk uri).story =
      uri.document?.elim session.story (releaseFile disk session.story) := by
  simp only [closeDocument, Uri.document?]
  cases uri.toPath? <;> rfl

theorem Follows.closeDocument (h : session.Follows held) {uri : Uri}
    (hapart : ∀ other, (held other).isSome = true → uri.document?.isSome = true →
      uri.document? = other.document? → uri = other) (disk : Disk) :
    (session.closeDocument disk uri).Follows
      (fun other => if uri = other then none else held other) where
  isOpen_iff other := by
    rw [isOpen_closeDocument, h.isOpen_iff]
    by_cases heq : uri = other
    · simp [heq]
    · simp [heq, Ne.symm heq]
  indexed := by
    intro other path text hheld hpath
    by_cases heq : uri = other
    · rw [if_pos heq] at hheld
      cases hheld
    · rw [if_neg heq] at hheld
      have hold := h.indexed hheld hpath
      rw [closeDocument_story]
      cases hdocument : uri.document? with
      | none => exact hold
      | some closed =>
        have hother : path ≠ closed := by
          rintro rfl
          exact heq (hapart other (by simp [hheld]) (by simp [hdocument])
            (hdocument.trans hpath.symm))
        exact find?_releaseFile_of_ne (Uri.document?_normal hdocument) hother hold

theorem closeDocument_saved (h : session.story.SavedExcept disk session.OpenAt) (uri : Uri) :
    (session.closeDocument disk uri).story.SavedExcept disk
      (session.closeDocument disk uri).OpenAt := by
  rw [closeDocument_story]
  have hopen : ∀ path, session.OpenAt path → uri.document? ≠ some path →
      (session.closeDocument disk uri).OpenAt path := by
    rintro path ⟨other, hother, hpath⟩ hne
    refine ⟨other, (isOpen_closeDocument disk session uri other).mpr ⟨?_, hother⟩, hpath⟩
    rintro rfl
    exact hne hpath
  cases hdocument : uri.document? with
  | none => exact h.mono fun path hpath => hopen path hpath (by simp [hdocument])
  | some closed =>
    refine (releaseFile_saved h (Uri.document?_normal hdocument)).mono fun path hpath => ?_
    refine hopen path hpath.1 ?_
    rw [hdocument]
    exact fun heq => hpath.2 (Option.some.inj heq).symm

/-! ## Changes on disk -/

/-- A change on disk concerns a document that is not open: it is dropped or read again. -/
theorem refresh_cases (disk : Disk) (session : Session) (story : Story) (change : FileChange) :
    session.refresh disk story change = story ∨
      ∃ path : Path, change.uri.document? = some path.normalize ∧
        session.isOpen change.uri = false ∧
        (session.refresh disk story change = (story.remove path).2 ∨
          ∃ text, disk.text? path.normalize = some text ∧
            session.refresh disk story change = story.update disk path text) := by
  unfold refresh
  cases hchanged : session.changedFile? change with
  | none => exact Or.inl rfl
  | some file =>
    -- A change that is taken up has a path, and its document is not open.
    have hfile : change.uri.toSpelling? = some file ∧ session.isOpen change.uri = false := by
      unfold changedFile? at hchanged
      cases hspelling : change.uri.toSpelling? with
      | none => simp [hspelling] at hchanged
      | some spelling =>
        simp only [hspelling, Option.bind_eq_bind, Option.bind_some] at hchanged
        split at hchanged
        · next hmatters =>
          cases hchanged
          simp only [Bool.and_eq_true, Bool.not_eq_true'] at hmatters
          exact ⟨rfl, hmatters.2⟩
        · cases hchanged
    have hdocument : change.uri.document? = some file.path.normalize := by
      simp [Uri.document?, Uri.toPath?, hfile.1]
    dsimp only
    split
    · exact Or.inr ⟨file.path, hdocument, hfile.2, Or.inl rfl⟩
    · cases hread : disk.readSpelled file with
      | error e => exact Or.inl rfl
      | ok text =>
        have htext := Disk.text?_normalize (Uri.absolute_of_toSpelling? hfile.1)
          (Disk.text?_of_readSpelled hread)
        exact Or.inr ⟨file.path, hdocument, hfile.2, Or.inr ⟨text, htext, rfl⟩⟩

/-- A change on disk leaves the files of open documents alone. -/
theorem find?_refresh_of_open {story : Story} {change : FileChange} {uri : Uri} {path : Path}
    (hopen : session.isOpen uri = true) (hpath : uri.document? = some path)
    (hapart : change.uri.document?.isSome = true → change.uri.document? = uri.document? →
      change.uri = uri) {file : InkFile} (h : story.files.find? path = some file) :
    (session.refresh disk story change).files.find? path = some file := by
  rcases refresh_cases disk session story change with heq | ⟨changed, hchanged, hclosed, hcases⟩
  · rw [heq, h]
  · have hother : path ≠ changed.normalize := by
      rintro rfl
      have huri := hapart (by simp [hchanged]) (hchanged.trans hpath.symm)
      rw [huri, hopen] at hclosed
      cases hclosed
    rcases hcases with heq | ⟨text, -, heq⟩
    · rw [heq, Story.find?_remove, if_neg hother, h]
    · rw [heq]
      exact Story.find?_update_of_ne hother h

theorem refresh_saved {story : Story} {unsaved : Path → Prop} (h : story.SavedExcept disk unsaved)
    (session : Session) (change : FileChange) :
    (session.refresh disk story change).SavedExcept disk unsaved := by
  rcases refresh_cases disk session story change with heq | ⟨path, -, -, heq | ⟨text, htext, heq⟩⟩
  · rwa [heq]
  · rw [heq]
    exact (h.remove path).mono fun _ hun => hun.1
  · rw [heq]
    exact (h.update_onDisk htext).mono fun _ hun => hun.1

theorem Follows.takeChanges (h : session.Follows held) {changes : List FileChange}
    (hapart : ∀ change ∈ changes, ∀ other, (held other).isSome = true →
      change.uri.document?.isSome = true → change.uri.document? = other.document? →
        change.uri = other) (disk : Disk) :
    (session.takeChanges disk changes).Follows held where
  isOpen_iff := h.isOpen_iff
  indexed := by
    intro uri path text hheld hpath
    have hopen : session.isOpen uri = true :=
      (h.isOpen_iff uri).mpr ⟨by simp [hpath], by simp [hheld]⟩
    have run : ∀ (changes : List FileChange) (story : Story),
        (∀ change ∈ changes, change.uri.document?.isSome = true →
          change.uri.document? = uri.document? → change.uri = uri) →
        story.files.find? path = some (InkFile.read path text) →
        (changes.foldl (session.refresh disk) story).files.find? path =
          some (InkFile.read path text) := by
      intro changes
      induction changes with
      | nil => intro story _ hstory; exact hstory
      | cons change changes ih =>
        intro story huri hstory
        refine ih _ (fun other hother => huri other (List.mem_cons_of_mem change hother)) ?_
        exact find?_refresh_of_open hopen hpath (huri change List.mem_cons_self) hstory
    exact run changes session.story
      (fun change hchange => hapart change hchange uri (by simp [hheld])) (h.indexed hheld hpath)

theorem takeChanges_saved (h : session.story.SavedExcept disk session.OpenAt)
    (changes : List FileChange) :
    (session.takeChanges disk changes).story.SavedExcept disk session.OpenAt := by
  have run : ∀ (changes : List FileChange) (story : Story),
      story.SavedExcept disk session.OpenAt →
      (changes.foldl (session.refresh disk) story).SavedExcept disk session.OpenAt := by
    intro changes
    induction changes with
    | nil => intro story hstory; exact hstory
    | cons change changes ih =>
      intro story hstory
      exact ih _ (refresh_saved hstory session change)
  exact run changes session.story h

/-! ## Reloading -/

theorem Follows.replay_eq (h : session.Follows held) {uri : Uri} (hopen : session.isOpen uri = true)
    (disk : Disk) (story : Story) :
    ∃ path text, uri.document? = some path ∧ held uri = some text ∧
      session.replay disk story uri = story.update disk path text := by
  obtain ⟨path, text, hpath, htext, hfile⟩ := h.file?_eq hopen
  refine ⟨path, text, hpath, htext, ?_⟩
  rw [replay, hfile]
  rfl

/-- After a replay of open documents, each of them is indexed with the editor's text, and so is every
    document that was so before. -/
theorem Follows.find?_replays (h : session.Follows held)
    (hapart : ∀ u v, (held u).isSome = true → (held v).isSome = true →
      u.document?.isSome = true → u.document? = v.document? → u = v)
    {uri : Uri} {path : Path} {text : String} (hheld : held uri = some text)
    (hpath : uri.document? = some path) {uris : List Uri}
    (huris : ∀ u ∈ uris, session.isOpen u = true) {story : Story}
    (hstory : uri ∈ uris ∨ story.files.find? path = some (InkFile.read path text)) :
    (uris.foldl (session.replay disk) story).files.find? path = some (InkFile.read path text) := by
  induction uris generalizing story with
  | nil => exact hstory.resolve_left List.not_mem_nil
  | cons u uris ih =>
    refine ih (fun v hv => huris v (List.mem_cons_of_mem u hv)) ?_
    obtain ⟨other, found, hother, hfound, heq⟩ :=
      h.replay_eq (huris u List.mem_cons_self) disk story
    rw [heq]
    by_cases hu : uri = u
    · -- The document itself is replayed.
      subst hu
      rw [hpath] at hother
      cases hother
      rw [hheld] at hfound
      cases hfound
      have hdocument := Story.find?_update_document disk story path text
      rw [Uri.document?_normal hpath] at hdocument
      exact Or.inr hdocument
    · rcases hstory with hmem | hstory
      · exact Or.inl ((List.mem_cons.mp hmem).resolve_left hu)
      · refine Or.inr (Story.find?_update_of_ne ?_ hstory)
        rw [Uri.document?_normal hother]
        rintro rfl
        exact hu (hapart uri u (by simp [hheld]) (by simp [hfound]) (by simp [hpath])
          (hpath.trans hother.symm))

theorem Follows.replays_saved (h : session.Follows held) {uris : List Uri}
    (huris : ∀ u ∈ uris, session.isOpen u = true) {story : Story}
    (hstory : story.SavedExcept disk session.OpenAt) :
    (uris.foldl (session.replay disk) story).SavedExcept disk session.OpenAt := by
  induction uris generalizing story with
  | nil => exact hstory
  | cons u uris ih =>
    refine ih (fun v hv => huris v (List.mem_cons_of_mem u hv)) ?_
    have hopen := huris u List.mem_cons_self
    obtain ⟨path, text, hpath, -, heq⟩ := h.replay_eq hopen disk story
    rw [heq]
    refine (hstory.update path text).mono ?_
    rintro other (hother | rfl)
    · exact hother
    · rw [Uri.document?_normal hpath]
      exact ⟨u, hopen, hpath⟩

/-- A reload replays the open documents into an index that the disk alone has made. -/
theorem reload_story (runtime : Runtime σ) (host : Host) (session : Session) :
    ∃ scanned : Story, scanned.SavedExcept host.disk (fun _ => False) ∧
      (session.reload runtime host).2.story =
        (runtime.order session.uris).foldl (session.replay host.disk) scanned := by
  refine ⟨_, ?_, rfl⟩
  split
  · exact Story.build_saved host.disk _ _
  · exact Story.empty_saved host.disk _

theorem mem_order_iff (runtime : Runtime σ) {session : Session} {uri : Uri} :
    uri ∈ runtime.order session.uris ↔ session.isOpen uri = true :=
  (runtime.perm session.uris).mem_iff.trans mem_uris_iff

theorem Follows.reload (h : session.Follows held)
    (hapart : ∀ u v, (held u).isSome = true → (held v).isSome = true →
      u.document?.isSome = true → u.document? = v.document? → u = v)
    (runtime : Runtime σ) (host : Host) : (session.reload runtime host).2.Follows held where
  isOpen_iff := h.isOpen_iff
  indexed := by
    intro uri path text hheld hpath
    obtain ⟨scanned, -, hstory⟩ := reload_story runtime host session
    have hopen : session.isOpen uri = true :=
      (h.isOpen_iff uri).mpr ⟨by simp [hpath], by simp [hheld]⟩
    rw [hstory]
    exact h.find?_replays hapart hheld hpath (fun u hu => (mem_order_iff runtime).mp hu)
      (Or.inl ((mem_order_iff runtime).mpr hopen))

theorem Follows.reload_saved (h : session.Follows held) (runtime : Runtime σ) (host : Host) :
    (session.reload runtime host).2.story.SavedExcept host.disk session.OpenAt := by
  obtain ⟨scanned, hsaved, hstory⟩ := reload_story runtime host session
  rw [hstory]
  refine h.replays_saved (fun u hu => (mem_order_iff runtime).mp hu) ?_
  exact hsaved.mono fun _ hfalse => hfalse.elim

/-! ## Any event -/

/-- An event leads to what the editor holds after it. The addresses of its documents and of those that
    the editor held before must be apart. -/
theorem Follows.apply (h : session.Follows held) {uris : List Uri} (hapart : NamesApart uris)
    (hheld : ∀ uri, (held uri).isSome = true → uri ∈ uris) {event : Event}
    (hevent : ∀ uri ∈ event.uris, uri ∈ uris) (runtime : Runtime σ) (host : Host) :
    (session.apply runtime host event).2.Follows (fun uri => event.held uri (held uri)) := by
  -- A document of the event has its file to itself among those that the editor holds.
  have hnamed : ∀ uri ∈ event.uris, ∀ other, (held other).isSome = true →
      uri.document?.isSome = true → uri.document? = other.document? → uri = other :=
    fun uri huri other hother => hapart uri (hevent uri huri) other (hheld other hother)
  cases event with
  | ready => exact h
  | saved uri => exact h
  | opened uri version text =>
    have hopened : session.openDocument host.disk uri version text |>.Follows
        (fun other => if uri = other then some text else held other) :=
      Follows.updateDocument (h.withLedger _) (hnamed uri List.mem_cons_self) host.disk version text
    refine hopened.congr fun other => ?_
    by_cases heq : uri = other <;> simp [Event.held, Event.sent?, heq]
  | changed uri version texts =>
    simp only [Session.apply]
    cases hlast : texts.getLast? with
    | none => exact h.congr fun other => by simp [Event.held, Event.sent?, hlast]
    | some text =>
      refine (h.updateDocument (hnamed uri List.mem_cons_self) host.disk version text).congr
        fun other => ?_
      by_cases heq : uri = other <;> simp [Event.held, Event.sent?, heq, hlast]
  | closed uri => exact h.closeDocument (hnamed uri List.mem_cons_self) host.disk
  | configured settings =>
    have hclient : { session with client := section? (some settings) }.Follows held :=
      ⟨h.isOpen_iff, h.indexed⟩
    exact hclient.reload (fun u v hu hv => hapart u (hheld u hu) v (hheld v hv)) runtime host
  | filesChanged changes =>
    exact h.takeChanges (fun change hchange => hnamed change.uri (List.mem_map_of_mem hchange))
      host.disk

/-- On one disk, an event leaves every file but those of open documents with the text of the disk. -/
theorem Follows.apply_saved (h : session.Follows held) (runtime : Runtime σ) {host : Host}
    (hsaved : session.story.SavedExcept host.disk session.OpenAt) (event : Event) :
    (session.apply runtime host event).2.story.SavedExcept host.disk
      (session.apply runtime host event).2.OpenAt := by
  cases event with
  | ready => exact hsaved
  | saved uri => exact hsaved
  | opened uri version text =>
    have hledger : { session with ledger := (session.ledger.openSession uri).2 }.story.SavedExcept
        host.disk { session with ledger := (session.ledger.openSession uri).2 }.OpenAt := hsaved
    exact updateDocument_saved hledger uri version text
  | changed uri version texts =>
    simp only [Session.apply]
    cases texts.getLast? with
    | none => exact hsaved
    | some text => exact updateDocument_saved hsaved uri version text
  | closed uri => exact closeDocument_saved hsaved uri
  | configured settings =>
    have hclient : { session with client := section? (some settings) }.Follows held :=
      ⟨h.isOpen_iff, h.indexed⟩
    exact hclient.reload_saved runtime host
  | filesChanged changes => exact takeChanges_saved hsaved changes

end Events

variable {σ : Type}

/-- Diagnosing a document changes nothing but the ledger. -/
theorem publish_session (runtime : Runtime σ) (toolchain : Toolchain σ) (disk : Disk)
    (session : Session) (uri : Uri) (s : σ) :
    ∃ ledger, (session.publish runtime toolchain disk uri s).2.1 =
      { session with ledger := ledger } := by
  unfold publish
  split
  · exact ⟨_, rfl⟩
  · exact ⟨session.ledger, rfl⟩

theorem publishAll_session (runtime : Runtime σ) (toolchain : Toolchain σ) (disk : Disk)
    (uris : List Uri) (session : Session) (s : σ) :
    ∃ ledger, (publishAll runtime toolchain disk uris session s).2.1 =
      { session with ledger := ledger } := by
  induction uris generalizing session s with
  | nil => exact ⟨session.ledger, rfl⟩
  | cons uri uris ih =>
    obtain ⟨first, hfirst⟩ := publish_session runtime toolchain disk session uri s
    obtain ⟨ledger, hrest⟩ := ih (session.publish runtime toolchain disk uri s).2.1
      (session.publish runtime toolchain disk uri s).2.2
    have hstep : (publishAll runtime toolchain disk (uri :: uris) session s).2.1 =
        (publishAll runtime toolchain disk uris (session.publish runtime toolchain disk uri s).2.1
          (session.publish runtime toolchain disk uri s).2.2).2.1 := rfl
    refine ⟨ledger, ?_⟩
    rw [hstep, hrest, hfirst]

theorem handle_session (runtime : Runtime σ) (toolchain : Toolchain σ) (host : Host)
    (session : Session) (event : Event) (s : σ) :
    ∃ ledger, (session.handle runtime toolchain host event s).2.1 =
      { (session.apply runtime host event).2 with ledger := ledger } :=
  publishAll_session runtime toolchain host.disk _ _ s

end Session

/-! ## Runs of a server -/

namespace Server

/-- What a server is told, the host as it is then, and what the runtime decides meanwhile. -/
structure Turn (σ : Type) where
  runtime : Runtime σ
  host : Host
  event : Event

variable {σ : Type}

/-- A server that an editor has started. -/
def started (runtime : Runtime σ) (toolchain : Toolchain σ) (memory : σ) (host : Host)
    (opening : Opening) : Server σ :=
  ((fresh memory).request runtime toolchain host (.start opening)).2.2

/-- The server after it has taken in events one by one. -/
def run (toolchain : Toolchain σ) (server : Server σ) (turns : List (Turn σ)) : Server σ :=
  turns.foldl (fun server turn => (server.notify turn.runtime toolchain turn.host turn.event).2)
    server

theorem started_follows (runtime : Runtime σ) (toolchain : Toolchain σ) (memory : σ) (host : Host)
    (opening : Opening) :
    (started runtime toolchain memory host opening).phase = .running ∧
      (started runtime toolchain memory host opening).session.Follows (fun _ => none) ∧
      (started runtime toolchain memory host opening).session.story.SavedExcept host.disk
        (started runtime toolchain memory host opening).session.OpenAt := by
  have hblank : { Session.blank with
      workspace := opening.workspace?
      client := Session.section? opening.options }.Follows (fun _ => none) :=
    ⟨fun uri => by simp [Session.isOpen, Session.version?, Session.blank], by simp⟩
  exact ⟨rfl, hblank.reload (by simp) runtime host, hblank.reload_saved runtime host⟩

theorem notify_running (runtime : Runtime σ) (toolchain : Toolchain σ) (host : Host)
    {server : Server σ} (h : server.phase = .running) (event : Event) :
    (server.notify runtime toolchain host event).2.phase = .running ∧
      ∃ ledger, (server.notify runtime toolchain host event).2.session =
        { (server.session.apply runtime host event).2 with ledger := ledger } := by
  obtain ⟨ledger, hledger⟩ :=
    Session.handle_session runtime toolchain host server.session event server.memory
  unfold notify
  rw [h]
  exact ⟨rfl, ledger, hledger⟩

/-- What a run keeps: the session follows the editor, and on a disk that stays the same it holds the
    text of the disk elsewhere. -/
theorem run_follows (toolchain : Toolchain σ) {uris : List Uri} (hapart : NamesApart uris)
    {turns : List (Turn σ)} (hturns : ∀ turn ∈ turns, ∀ uri ∈ turn.event.uris, uri ∈ uris)
    {server : Server σ} (hrunning : server.phase = .running) {held : Uri → Option String}
    (h : server.session.Follows held) (hheld : ∀ uri, (held uri).isSome = true → uri ∈ uris) :
    (server.run toolchain turns).session.Follows
        (fun uri => (turns.map Turn.event).foldl (Event.held uri) (held uri)) ∧
      ∀ disk, (∀ turn ∈ turns, turn.host.disk = disk) →
        server.session.story.SavedExcept disk server.session.OpenAt →
          (server.run toolchain turns).session.story.SavedExcept disk
            (server.run toolchain turns).session.OpenAt := by
  induction turns generalizing server held with
  | nil => exact ⟨h, fun _ _ hsaved => hsaved⟩
  | cons turn turns ih =>
    obtain ⟨runtime, host, event⟩ := turn
    -- A turn does what its event does to the session, up to what has been published.
    obtain ⟨hnext, ledger, hsession⟩ := notify_running runtime toolchain host hrunning event
    have hevent : ∀ uri ∈ event.uris, uri ∈ uris := hturns _ List.mem_cons_self
    have hfollows : (server.notify runtime toolchain host event).2.session.Follows
        (fun uri => event.held uri (held uri)) := by
      rw [hsession]
      exact (h.apply hapart hheld hevent runtime host).withLedger ledger
    have hheld' : ∀ uri, (event.held uri (held uri)).isSome = true → uri ∈ uris := by
      intro uri huri
      obtain ⟨text, htext⟩ := Option.isSome_iff_exists.mp huri
      rcases Event.mem_uris_of_held htext with hbefore | hmem
      · exact hheld uri (by simp [hbefore])
      · exact hevent uri hmem
    obtain ⟨hrun, hruns⟩ := ih (fun other hother => hturns other (List.mem_cons_of_mem _ hother))
      hnext hfollows hheld'
    refine ⟨hrun, fun disk hdisks hsaved => hruns disk ?_ ?_⟩
    · exact fun other hother => hdisks other (List.mem_cons_of_mem _ hother)
    · have hdisk : host.disk = disk := hdisks ⟨runtime, host, event⟩ List.mem_cons_self
      subst hdisk
      rw [hsession]
      exact h.apply_saved runtime hsaved event

/-- Editor text is authoritative. After any run of events in which no two addresses name one file, and
    whatever the runtime decides meanwhile, the open documents are those that the editor holds, each is
    indexed with the text the editor sent last, and if the disk stays the same, every other indexed file
    has the text of the disk. -/
theorem run_keeps_editor_text (runtime : Runtime σ) (toolchain : Toolchain σ) (memory : σ)
    (host : Host) (opening : Opening) (turns : List (Turn σ))
    (hapart : NamesApart (turns.flatMap fun turn => turn.event.uris)) :
    let events := turns.map Turn.event
    let session := ((started runtime toolchain memory host opening).run toolchain turns).session
    (∀ uri, session.isOpen uri = true ↔
      uri.document?.isSome = true ∧ (Event.heldAfter events uri).isSome = true) ∧
    (∀ uri, session.isOpen uri = true →
      ∃ file, session.file? uri = some file ∧ Event.lastSent? events uri = some file.text) ∧
    ((∀ turn ∈ turns, turn.host.disk = host.disk) → ∀ path file,
      session.story.files.find? path = some file → ¬ session.OpenAt path →
        host.disk.text? path = some file.text) := by
  intro events session
  obtain ⟨hrunning, hfollows, hsaved⟩ := started_follows runtime toolchain memory host opening
  have hturns : ∀ turn ∈ turns, ∀ uri ∈ turn.event.uris,
      uri ∈ turns.flatMap fun turn => turn.event.uris :=
    fun turn hturn uri huri => List.mem_flatMap.mpr ⟨turn, hturn, huri⟩
  obtain ⟨hrun, hruns⟩ := run_follows toolchain hapart hturns hrunning hfollows (by simp)
  refine ⟨hrun.isOpen_iff, fun uri hopen => ?_, fun hdisks => hruns host.disk hdisks hsaved⟩
  obtain ⟨path, text, hpath, hheld, hfile⟩ := hrun.file?_eq hopen
  exact ⟨InkFile.read path text, hfile, Event.lastSent?_of_heldAfter hheld⟩

/-! ## An unsaved text -/

namespace UnsavedText

def host : Host :=
  ⟨.ofTexts [("/p/a.ink", "INCLUDE b.ink\n"), ("/p/b.ink", "")], "/"⟩

def address (name : String) : Uri := ⟨"file", some .blank, "/p/" ++ name, ""⟩

def toolchain : Toolchain Unit := fun _ => ⟨fun _ memory => (⟨[], .ok "\x7b\x7d"⟩, memory)⟩

/-- A runtime that takes the document first that was opened last. -/
def newestFirst : Runtime Unit :=
  ⟨List.reverse, fun uris => uris.reverse_perm, true, fun _ => none⟩

/-- Both files are opened, one of them is edited, the other is reported to have changed, and the project
    is loaded anew. -/
def turns : List (Turn Unit) :=
  [⟨.steady, host, .opened (address "b.ink") 1 ""⟩,
    ⟨.steady, host, .opened (address "a.ink") 1 "INCLUDE b.ink\n"⟩,
    ⟨.steady, host, .changed (address "a.ink") 2 ["-> b"]⟩,
    ⟨.steady, host, .filesChanged [⟨address "b.ink", false⟩]⟩,
    ⟨newestFirst, host, .configured .null⟩]

/-- The text of the open document is the unsaved one after all this, and the rest is as on disk. -/
theorem run_keeps_unsaved_text :
    NamesApart (turns.flatMap fun turn => turn.event.uris) ∧
      let session :=
        ((started .steady toolchain () host ⟨[], none, none⟩).run toolchain turns).session
      (∃ file, session.file? (address "a.ink") = some file ∧ file.text = "-> b") ∧
        ∀ path file, session.story.files.find? path = some file → ¬ session.OpenAt path →
          host.disk.text? path = some file.text := by
  have hapart : NamesApart (turns.flatMap fun turn => turn.event.uris) := by
    unfold NamesApart
    decide +kernel
  obtain ⟨hopen, htext, hdisk⟩ :=
    run_keeps_editor_text .steady toolchain () host ⟨[], none, none⟩ turns hapart
  have hheld : (address "a.ink").document?.isSome = true ∧
      (Event.heldAfter (turns.map Turn.event) (address "a.ink")).isSome = true := by decide +kernel
  obtain ⟨file, hfile, hlast⟩ := htext (address "a.ink") ((hopen (address "a.ink")).mpr hheld)
  have hsent : Event.lastSent? (turns.map Turn.event) (address "a.ink") = some "-> b" := by
    decide +kernel
  refine ⟨hapart, ⟨file, hfile, ?_⟩, hdisk (by simp [turns])⟩
  exact Option.some.inj (hlast.symm.trans hsent)

end UnsavedText

end Server

end InkWorkspace
