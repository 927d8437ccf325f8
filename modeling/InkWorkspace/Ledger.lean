/- Which diagnostics may be published. Diagnostics of a document are computed while it may be edited
   or closed, so results can arrive late. A result counts only if the document is still in the
   session in which the computation began and no newer version has been published in it. -/
namespace InkWorkspace

/-- An open document: the number of its session and the version published last. -/
structure DocumentSession where
  id : Nat
  committed : Option Int
  deriving Repr, DecidableEq

/-- The open documents, by address, and the number of the newest session. -/
structure Ledger (α : Type) where
  sessions : List (α × DocumentSession)
  newest : Nat
  deriving Repr, DecidableEq

namespace Ledger

variable {α : Type} [DecidableEq α]

/-- The ledger without open documents. -/
def empty : Ledger α := ⟨[], 0⟩

/-- The open document at an address. -/
def find? (ledger : Ledger α) (uri : α) : Option DocumentSession :=
  ledger.sessions.lookup uri

/-- The current session of a document. -/
def session? (ledger : Ledger α) (uri : α) : Option Nat :=
  (ledger.find? uri).map (·.id)

/-- The sessions with that of one document replaced. -/
def set (ledger : Ledger α) (uri : α) (session : DocumentSession) : List (α × DocumentSession) :=
  (uri, session) :: ledger.sessions.filter (·.1 ≠ uri)

/-- Starts a new session. Results of earlier ones no longer count. -/
def openSession (ledger : Ledger α) (uri : α) : Nat × Ledger α :=
  let id := ledger.newest + 1
  (id, ⟨ledger.set uri ⟨id, none⟩, id⟩)

/-- Records a version and tells whether its results may be published. -/
def commit (ledger : Ledger α) (uri : α) (session : Nat) (version : Int) : Bool × Ledger α :=
  match ledger.find? uri with
  | none => (false, ledger)
  | some current =>
    if current.id = session && current.committed.all (· ≤ version) then
      (true, { ledger with sessions := ledger.set uri { current with committed := some version } })
    else (false, ledger)

/-- Ends the session of a document. -/
def closeSession (ledger : Ledger α) (uri : α) : Ledger α :=
  { ledger with sessions := ledger.sessions.filter (·.1 ≠ uri) }

end Ledger

end InkWorkspace
