import InkWorkspace.Ledger
import InkWorkspace.Proofs.Lookup

/- The ledger over any run. A run keeps a log of what was asked and answered, and everything is said in
   terms of that log: which session of a document is current (`IsCurrent`), and which versions were
   published in a session (`versionsOf`).

   A commit counts exactly if its session is current and nothing newer was published in it
   (`Agrees.commit_iff`). For this the ledger has to agree with the log: its open documents are the ones
   with a current session, and the version it holds of each is the one published last. A new session
   starts without a version, and rightly so, because its number occurs nowhere in the log: all sessions
   there are at most `newest` (`Agrees.versionsOf_new`). -/
namespace InkWorkspace.Ledger

variable {α : Type}

/-! ## Logs -/

/-- What can be asked of a ledger. -/
inductive Operation (α : Type) where
  | opening (uri : α)
  | closing (uri : α)
  | commit (uri : α) (session : Nat) (version : Int)

/-- The document that an operation is about. -/
def Operation.uri : Operation α → α
  | opening uri | closing uri | commit uri _ _ => uri

/-- An operation together with its answer. -/
inductive Occurrence (α : Type) where
  | opened (uri : α) (session : Nat)
  | closed (uri : α)
  | committed (uri : α) (session : Nat) (version : Int) (accepted : Bool)

namespace Occurrence

/-- The session that begins here. -/
def begun? : Occurrence α → Option Nat
  | opened _ session => some session
  | _ => none

/-- The version that is published here in a session. -/
def published? (session : Nat) : Occurrence α → Option Int
  | committed _ other version true => if other = session then some version else none
  | _ => none

/-- A session of the document begins or ends here. -/
def Turns (uri : α) : Occurrence α → Prop
  | opened other _ | closed other => other = uri
  | committed _ _ _ _ => False

end Occurrence

/-- The sessions that began, in order. -/
def sessionsOf (log : List (Occurrence α)) : List Nat :=
  log.filterMap Occurrence.begun?

/-- The versions that were published in a session, in order. -/
def versionsOf (session : Nat) (log : List (Occurrence α)) : List Int :=
  log.filterMap (Occurrence.published? session)

/-- The session is the one that began last for the document, and the document was not closed since. -/
def IsCurrent (log : List (Occurrence α)) (uri : α) (session : Nat) : Prop :=
  ∃ earlier later, log = earlier ++ .opened uri session :: later ∧
    ∀ occurrence ∈ later, ¬ occurrence.Turns uri

theorem sessionsOf_concat (log : List (Occurrence α)) (last : Occurrence α) :
    sessionsOf (log ++ [last]) = sessionsOf log ++ last.begun?.toList := by
  rw [sessionsOf, List.filterMap_append]
  cases h : last.begun? <;> simp [sessionsOf, h]

theorem versionsOf_concat (session : Nat) (log : List (Occurrence α)) (last : Occurrence α) :
    versionsOf session (log ++ [last]) =
      versionsOf session log ++ (last.published? session).toList := by
  rw [versionsOf, List.filterMap_append]
  cases h : last.published? session <;> simp [versionsOf, h]

theorem not_isCurrent_nil (uri : α) (session : Nat) : ¬ IsCurrent [] uri session := by
  rintro ⟨earlier, later, heq, -⟩
  cases earlier <;> cases heq

theorem isCurrent_concat {log : List (Occurrence α)} {last : Occurrence α} {uri : α}
    {session : Nat} : IsCurrent (log ++ [last]) uri session ↔
      last = .opened uri session ∨ ¬ last.Turns uri ∧ IsCurrent log uri session := by
  constructor
  · rintro ⟨earlier, later, heq, hlater⟩
    rcases List.eq_nil_or_concat later with rfl | ⟨front, back, rfl⟩
    · obtain ⟨-, hlast⟩ := List.append_inj' heq rfl
      exact Or.inl (List.cons.inj hlast).1
    · rw [List.concat_eq_append] at heq hlater
      rw [← List.cons_append, ← List.append_assoc] at heq
      obtain ⟨hlog, hlast⟩ := List.append_inj' heq rfl
      obtain rfl := (List.cons.inj hlast).1
      refine Or.inr ⟨hlater last (by simp), earlier, front, hlog, fun occurrence hmem => ?_⟩
      exact hlater occurrence (List.mem_append_left _ hmem)
  · rintro (rfl | ⟨hlast, earlier, later, rfl, hlater⟩)
    · exact ⟨log, [], rfl, by simp⟩
    · refine ⟨earlier, later ++ [last], by simp, fun occurrence hmem => ?_⟩
      rcases List.mem_append.mp hmem with hmem | hmem
      · exact hlater occurrence hmem
      · rw [List.mem_singleton.mp hmem]
        exact hlast

theorem isCurrent_committed {log : List (Occurrence α)} {uri other : α} {session id : Nat}
    {version : Int} {accepted : Bool} :
    IsCurrent (log ++ [.committed uri session version accepted]) other id ↔
      IsCurrent log other id := by
  rw [isCurrent_concat]
  simp [Occurrence.Turns]

theorem IsCurrent.mem_sessionsOf {log : List (Occurrence α)} {uri : α} {session : Nat}
    (h : IsCurrent log uri session) : session ∈ sessionsOf log := by
  obtain ⟨earlier, later, rfl, -⟩ := h
  exact List.mem_filterMap.mpr ⟨.opened uri session, by simp, rfl⟩

/-! ## One operation -/

variable [DecidableEq α]

theorem find?_openSession (ledger : Ledger α) (uri other : α) :
    (ledger.openSession uri).2.find? other =
      if other = uri then some ⟨ledger.newest + 1, none⟩ else ledger.find? other := by
  simp only [find?, openSession, set]
  rw [Lookup.lookup_cons, Lookup.lookup_filter_ne]
  split <;> rfl

theorem find?_closeSession (ledger : Ledger α) (uri other : α) :
    (ledger.closeSession uri).find? other =
      if other = uri then none else ledger.find? other :=
  Lookup.lookup_filter_ne other uri ledger.sessions

/-- The document is open in that session, and nothing newer was published in it. -/
def Accepts (ledger : Ledger α) (uri : α) (session : Nat) (version : Int) : Prop :=
  ∃ current, ledger.find? uri = some current ∧ current.id = session ∧
    ∀ latest, current.committed = some latest → latest ≤ version

theorem commit_of_accepts {ledger : Ledger α} {uri : α} {session : Nat} {version : Int}
    (h : ledger.Accepts uri session version) :
    ledger.commit uri session version =
      (true, ⟨ledger.set uri ⟨session, some version⟩, ledger.newest⟩) := by
  obtain ⟨current, hfind, rfl, hlatest⟩ := h
  have hall : current.committed.all (· ≤ version) = true := by
    cases hcommitted : current.committed with
    | none => rfl
    | some latest => simpa using hlatest latest hcommitted
  simp [commit, hfind, hall]

theorem commit_of_not_accepts {ledger : Ledger α} {uri : α} {session : Nat} {version : Int}
    (h : ¬ ledger.Accepts uri session version) :
    ledger.commit uri session version = (false, ledger) := by
  unfold commit
  split
  · rfl
  · next current hfind =>
    rw [if_neg]
    intro hboth
    rw [Bool.and_eq_true, decide_eq_true_eq] at hboth
    refine h ⟨current, hfind, hboth.1, fun latest hlatest => ?_⟩
    rw [hlatest] at hboth
    simpa using hboth.2

theorem commit_iff_accepts (ledger : Ledger α) (uri : α) (session : Nat) (version : Int) :
    (ledger.commit uri session version).1 = true ↔ ledger.Accepts uri session version := by
  by_cases h : ledger.Accepts uri session version
  · simp [commit_of_accepts h, h]
  · simp [commit_of_not_accepts h, h]

theorem commit_of_rejected {ledger : Ledger α} {uri : α} {session : Nat} {version : Int}
    (h : (ledger.commit uri session version).1 = false) :
    (ledger.commit uri session version).2 = ledger := by
  have hnot : ¬ ledger.Accepts uri session version := by
    rw [← commit_iff_accepts, h]
    exact Bool.false_ne_true
  rw [commit_of_not_accepts hnot]

theorem find?_commit {ledger : Ledger α} {uri : α} {session : Nat} {version : Int}
    (h : ledger.Accepts uri session version) (other : α) :
    (ledger.commit uri session version).2.find? other =
      if other = uri then some ⟨session, some version⟩ else ledger.find? other := by
  rw [commit_of_accepts h]
  simp only [find?, set]
  rw [Lookup.lookup_cons, Lookup.lookup_filter_ne]
  split <;> rfl

/-- The answer to an operation, and the ledger after it. -/
def step (ledger : Ledger α) : Operation α → Occurrence α × Ledger α
  | .opening uri => (.opened uri (ledger.openSession uri).1, (ledger.openSession uri).2)
  | .closing uri => (.closed uri, ledger.closeSession uri)
  | .commit uri session version =>
    (.committed uri session version (ledger.commit uri session version).1,
      (ledger.commit uri session version).2)

/-- Other documents stay in their sessions, with their versions. -/
theorem find?_step_of_ne (ledger : Ledger α) {operation : Operation α} {other : α}
    (h : other ≠ operation.uri) : (ledger.step operation).2.find? other = ledger.find? other := by
  cases operation with
  | opening uri => exact (find?_openSession ledger uri other).trans (if_neg h)
  | closing uri => exact (find?_closeSession ledger uri other).trans (if_neg h)
  | commit uri session version =>
    change (ledger.commit uri session version).2.find? other = ledger.find? other
    by_cases haccepts : ledger.Accepts uri session version
    · exact (find?_commit haccepts other).trans (if_neg h)
    · rw [commit_of_not_accepts haccepts]

/-! ## The ledger agrees with the log -/

/-- What the ledger knows is what the log says. -/
structure Agrees (log : List (Occurrence α)) (ledger : Ledger α) : Prop where
  session (uri : α) (session : Nat) :
    ledger.session? uri = some session ↔ IsCurrent log uri session
  committed {uri : α} {current : DocumentSession} (h : ledger.find? uri = some current) :
    current.committed = (versionsOf current.id log).getLast?
  apart {uri other : α} {session : Nat} (h : ledger.session? uri = some session)
    (h' : ledger.session? other = some session) : uri = other
  le_newest : ∀ session ∈ sessionsOf log, session ≤ ledger.newest
  begun (session : Nat) (h : versionsOf session log ≠ []) : session ∈ sessionsOf log
  rising : (sessionsOf log).Pairwise (· < ·)
  sorted (session : Nat) : (versionsOf session log).Pairwise (· ≤ ·)

namespace Agrees

variable {log : List (Occurrence α)} {ledger : Ledger α}

theorem empty : Agrees ([] : List (Occurrence α)) empty where
  session uri session := by simp [session?, find?, Ledger.empty, not_isCurrent_nil]
  committed h := by cases h
  apart h := by cases h
  le_newest := by simp [sessionsOf]
  begun session h := absurd rfl h
  rising := List.Pairwise.nil
  sorted _ := List.Pairwise.nil

theorem id_le (h : Agrees log ledger) {uri : α} {session : Nat}
    (hsession : ledger.session? uri = some session) : session ≤ ledger.newest :=
  h.le_newest session ((h.session uri session).mp hsession).mem_sessionsOf

theorem le_last (h : Agrees log ledger) {session : Nat} {latest version : Int}
    (hlast : (versionsOf session log).getLast? = some latest)
    (hversion : version ∈ versionsOf session log) : version ≤ latest := by
  obtain ⟨front, hfront⟩ := List.getLast?_eq_some_iff.mp hlast
  have hsorted := h.sorted session
  rw [hfront, List.pairwise_append] at hsorted
  rw [hfront] at hversion
  rcases List.mem_append.mp hversion with hmem | hmem
  · exact hsorted.2.2 version hmem latest (List.mem_singleton.mpr rfl)
  · exact Int.le_of_eq (List.mem_singleton.mp hmem)

theorem accepts_iff (h : Agrees log ledger) (uri : α) (session : Nat) (version : Int) :
    ledger.Accepts uri session version ↔
      IsCurrent log uri session ∧ ∀ other ∈ versionsOf session log, other ≤ version := by
  constructor
  · rintro ⟨current, hfind, rfl, hlatest⟩
    refine ⟨(h.session uri current.id).mp (by simp [session?, hfind]), fun other hother => ?_⟩
    rw [h.committed hfind] at hlatest
    cases hlast : (versionsOf current.id log).getLast? with
    | none => simp [List.getLast?_eq_none_iff.mp hlast] at hother
    | some latest => exact Int.le_trans (h.le_last hlast hother) (hlatest latest hlast)
  · rintro ⟨hcurrent, hversions⟩
    obtain ⟨current, hfind, hid⟩ := Option.map_eq_some_iff.mp ((h.session uri session).mpr hcurrent)
    refine ⟨current, hfind, hid, fun latest hlatest => hversions latest ?_⟩
    rw [h.committed hfind, hid] at hlatest
    exact List.mem_of_getLast? hlatest

/-- A commit counts if its session is current and nothing newer was published there. -/
theorem commit_iff (h : Agrees log ledger) (uri : α) (session : Nat) (version : Int) :
    (ledger.commit uri session version).1 = true ↔
      IsCurrent log uri session ∧ ∀ other ∈ versionsOf session log, other ≤ version :=
  (commit_iff_accepts ledger uri session version).trans (h.accepts_iff uri session version)

theorem versionsOf_new (h : Agrees log ledger) : versionsOf (ledger.newest + 1) log = [] := by
  cases hversions : versionsOf (ledger.newest + 1) log with
  | nil => rfl
  | cons version rest =>
    have hle := h.le_newest _ (h.begun (ledger.newest + 1) (by simp [hversions]))
    omega

theorem openSession (h : Agrees log ledger) (uri : α) :
    Agrees (log ++ [.opened uri (ledger.newest + 1)]) (ledger.openSession uri).2 := by
  have hsession (other : α) : (ledger.openSession uri).2.session? other =
      if other = uri then some (ledger.newest + 1) else ledger.session? other := by
    rw [session?, find?_openSession]
    split <;> rfl
  have hversions (session : Nat) :
      versionsOf session (log ++ [.opened uri (ledger.newest + 1)]) = versionsOf session log := by
    rw [versionsOf_concat]
    exact List.append_nil _
  have hsessions : sessionsOf (log ++ [.opened uri (ledger.newest + 1)]) =
      sessionsOf log ++ [ledger.newest + 1] := sessionsOf_concat log _
  constructor
  case session =>
    intro other session
    rw [hsession, isCurrent_concat, ← h.session]
    by_cases hother : other = uri
    · simp [hother, Occurrence.Turns]
    · simp [hother, Occurrence.Turns, Ne.symm hother]
  case committed =>
    intro other current hfind
    rw [find?_openSession] at hfind
    rw [hversions]
    split at hfind
    · cases hfind
      rw [h.versionsOf_new]
      rfl
    · exact h.committed hfind
  case apart =>
    intro first second session hfirst hsecond
    rw [hsession] at hfirst hsecond
    -- Only the document itself has the new number, and the numbers given before are below it.
    split at hfirst <;> split at hsecond
    · next heq heq' => rw [heq, heq']
    · cases hfirst
      exact absurd (h.id_le hsecond) (by omega)
    · cases hsecond
      exact absurd (h.id_le hfirst) (by omega)
    · exact h.apart hfirst hsecond
  case le_newest =>
    intro session hmem
    rw [hsessions] at hmem
    rcases List.mem_append.mp hmem with hmem | hmem
    · exact Nat.le_succ_of_le (h.le_newest session hmem)
    · exact Nat.le_of_eq (List.mem_singleton.mp hmem)
  case begun =>
    intro session hne
    rw [hversions] at hne
    rw [hsessions]
    exact List.mem_append_left _ (h.begun session hne)
  case rising =>
    rw [hsessions, List.pairwise_append]
    refine ⟨h.rising, List.pairwise_singleton _ _, fun session hmem next hnext => ?_⟩
    rw [List.mem_singleton.mp hnext]
    exact Nat.lt_succ_of_le (h.le_newest session hmem)
  case sorted =>
    intro session
    rw [hversions]
    exact h.sorted session

/-- An occurrence that begins no session and publishes nothing: documents may be closed by it. -/
theorem quiet (h : Agrees log ledger) {last : Occurrence α} {after : Ledger α}
    (hbegun : last.begun? = none) (hpublished : ∀ session, last.published? session = none)
    (hnewest : after.newest = ledger.newest)
    (hfind : ∀ uri current, after.find? uri = some current → ledger.find? uri = some current)
    (hsession : ∀ uri session,
      after.session? uri = some session ↔ IsCurrent (log ++ [last]) uri session) :
    Agrees (log ++ [last]) after := by
  have hsessions : sessionsOf (log ++ [last]) = sessionsOf log := by
    rw [sessionsOf_concat, hbegun]
    exact List.append_nil _
  have hversions (session : Nat) : versionsOf session (log ++ [last]) = versionsOf session log := by
    rw [versionsOf_concat, hpublished]
    exact List.append_nil _
  -- No document is opened, so what is current afterwards was current before.
  have hopen {uri : α} {session : Nat} (hafter : after.session? uri = some session) :
      ledger.session? uri = some session := by
    obtain ⟨current, hcurrent, hid⟩ := Option.map_eq_some_iff.mp hafter
    exact Option.map_eq_some_iff.mpr ⟨current, hfind uri current hcurrent, hid⟩
  constructor
  case session => exact hsession
  case committed =>
    intro uri current hcurrent
    rw [hversions]
    exact h.committed (hfind uri current hcurrent)
  case apart =>
    intro first second session hfirst hsecond
    exact h.apart (hopen hfirst) (hopen hsecond)
  case le_newest =>
    rw [hsessions, hnewest]
    exact h.le_newest
  case begun =>
    intro session hne
    rw [hversions] at hne
    rw [hsessions]
    exact h.begun session hne
  case rising =>
    rw [hsessions]
    exact h.rising
  case sorted =>
    intro session
    rw [hversions]
    exact h.sorted session

theorem closeSession (h : Agrees log ledger) (uri : α) :
    Agrees (log ++ [.closed uri]) (ledger.closeSession uri) := by
  refine h.quiet rfl (fun _ => rfl) rfl ?_ ?_
  · intro other current hfind
    rw [find?_closeSession] at hfind
    split at hfind
    · cases hfind
    · exact hfind
  · intro other session
    rw [session?, find?_closeSession, isCurrent_concat, ← h.session]
    by_cases hother : other = uri
    · simp [hother, Occurrence.Turns]
    · simp [hother, Occurrence.Turns, Ne.symm hother, session?]

theorem publish (h : Agrees log ledger) {uri : α} {session : Nat} {version : Int}
    (haccepts : ledger.Accepts uri session version) :
    Agrees (log ++ [.committed uri session version true])
      (ledger.commit uri session version).2 := by
  have hsessions : sessionsOf (log ++ [.committed uri session version true]) = sessionsOf log :=
    (sessionsOf_concat log _).trans (List.append_nil _)
  have hversions (id : Nat) :
      versionsOf id (log ++ [.committed uri session version true]) =
        versionsOf id log ++ if session = id then [version] else [] := by
    rw [versionsOf_concat]
    simp only [Occurrence.published?]
    split <;> rfl
  have hid : ledger.session? uri = some session := by
    obtain ⟨current, hfind, hid, -⟩ := haccepts
    simp [session?, hfind, hid]
  have hsession (other : α) :
      (ledger.commit uri session version).2.session? other = ledger.session? other := by
    rw [session?, find?_commit haccepts]
    split
    · next heq => rw [heq, hid]; rfl
    · rfl
  have hlatest := ((h.accepts_iff uri session version).mp haccepts).2
  constructor
  case session =>
    intro other id
    rw [hsession, isCurrent_committed, h.session]
  case committed =>
    intro other current hfind
    rw [find?_commit haccepts] at hfind
    rw [hversions]
    split at hfind
    · cases hfind
      simp
    · next hother =>
      -- The session of another document has another number.
      have hne : session ≠ current.id := by
        rintro rfl
        exact hother (h.apart (by simp [session?, hfind]) hid)
      rw [if_neg hne, List.append_nil]
      exact h.committed hfind
  case apart =>
    intro first second id hfirst hsecond
    rw [hsession] at hfirst hsecond
    exact h.apart hfirst hsecond
  case le_newest =>
    rw [hsessions, commit_of_accepts haccepts]
    exact h.le_newest
  case begun =>
    intro id hne
    rw [hsessions]
    by_cases heq : session = id
    · rw [← heq]
      exact ((h.session uri session).mp hid).mem_sessionsOf
    · rw [hversions, if_neg heq, List.append_nil] at hne
      exact h.begun id hne
  case rising =>
    rw [hsessions]
    exact h.rising
  case sorted =>
    intro id
    rw [hversions]
    split
    · next heq =>
      subst heq
      rw [List.pairwise_append]
      refine ⟨h.sorted session, List.pairwise_singleton _ _, fun other hother next hnext => ?_⟩
      rw [List.mem_singleton.mp hnext]
      exact hlatest other hother
    · rw [List.append_nil]
      exact h.sorted id

theorem commit (h : Agrees log ledger) (uri : α) (session : Nat) (version : Int) :
    Agrees (log ++ [.committed uri session version (ledger.commit uri session version).1])
      (ledger.commit uri session version).2 := by
  by_cases haccepts : ledger.Accepts uri session version
  · rw [(commit_iff_accepts ledger uri session version).mpr haccepts]
    exact h.publish haccepts
  · rw [commit_of_not_accepts haccepts]
    refine h.quiet rfl (fun _ => rfl) rfl (fun _ _ hfind => hfind) ?_
    intro other id
    rw [isCurrent_committed, h.session]

theorem step (h : Agrees log ledger) (operation : Operation α) :
    Agrees (log ++ [(ledger.step operation).1]) (ledger.step operation).2 := by
  cases operation with
  | opening uri => exact h.openSession uri
  | closing uri => exact h.closeSession uri
  | commit uri session version => exact h.commit uri session version

end Agrees

/-! ## Runs -/

/-- A ledger with the log of what happened to it. -/
structure Run (α : Type) where
  log : List (Occurrence α)
  ledger : Ledger α

/-- The run with one more operation. -/
def Run.take (run : Run α) (operation : Operation α) : Run α :=
  ⟨run.log ++ [(run.ledger.step operation).1], (run.ledger.step operation).2⟩

/-- The run of some operations, from the ledger without open documents. -/
def run (operations : List (Operation α)) : Run α :=
  operations.foldl Run.take ⟨[], empty⟩

theorem run_agrees (operations : List (Operation α)) :
    Agrees (run operations).log (run operations).ledger := by
  have keep : ∀ (operations : List (Operation α)) (before : Run α),
      Agrees before.log before.ledger →
        Agrees (operations.foldl Run.take before).log (operations.foldl Run.take before).ledger := by
    intro operations
    induction operations with
    | nil => intro before h; exact h
    | cons operation operations ih => intro before h; exact ih _ (h.step operation)
  exact keep operations ⟨[], empty⟩ Agrees.empty

/-- After any run, of which every beginning is a run too: sessions have risen, each session has been
    published in order, a commit counts exactly if its session is current and nothing newer was
    published in it, and otherwise changes nothing. No operation touches another document. -/
theorem run_publishes_current (operations : List (Operation α)) :
    (sessionsOf (run operations).log).Pairwise (· < ·) ∧
    (∀ session, (versionsOf session (run operations).log).Pairwise (· ≤ ·)) ∧
    (∀ uri session version,
      ((run operations).ledger.commit uri session version).1 = true ↔
        IsCurrent (run operations).log uri session ∧
          ∀ other ∈ versionsOf session (run operations).log, other ≤ version) ∧
    (∀ uri session version, ((run operations).ledger.commit uri session version).1 = false →
      ((run operations).ledger.commit uri session version).2 = (run operations).ledger) ∧
    ∀ operation other, other ≠ operation.uri →
      ((run operations).ledger.step operation).2.find? other =
        (run operations).ledger.find? other := by
  have h := run_agrees operations
  refine ⟨h.rising, h.sorted, h.commit_iff, ?_, ?_⟩
  · intro uri session version hrejected
    exact commit_of_rejected hrejected
  · intro operation other hother
    exact find?_step_of_ne _ hother

/-- A document is opened, diagnosed, closed and opened again, and then a result of its first session
    arrives. -/
def reopened : List (Operation String) :=
  [.opening "a.ink", .commit "a.ink" 1 9, .closing "a.ink", .opening "a.ink"]

/-- The late result is newer than all others and is still refused. -/
theorem reopened_refuses_late_result :
    ((run reopened).ledger.commit "a.ink" 1 12).1 = false ∧
      ((run reopened).ledger.commit "a.ink" 1 12).2 = (run reopened).ledger ∧
      ("a.ink" ≠ "b.ink" ∧ ((run reopened).ledger.step (.opening "b.ink")).2.find? "a.ink" =
        (run reopened).ledger.find? "a.ink") := by
  obtain ⟨-, -, -, hrejected, hother⟩ := run_publishes_current reopened
  have hlate : ((run reopened).ledger.commit "a.ink" 1 12).1 = false := by decide
  have hne : "a.ink" ≠ "b.ink" := by decide
  exact ⟨hlate, hrejected "a.ink" 1 12 hlate, hne, hother (.opening "b.ink") "a.ink" hne⟩

end InkWorkspace.Ledger
