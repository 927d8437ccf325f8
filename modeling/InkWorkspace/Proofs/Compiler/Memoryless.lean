import InkWorkspace.Diagnostic

/- Compilers whose answers depend on the call alone. What they remember between calls then makes no
   difference to anything that is found out with them, however many calls it takes: `Steady x` says that
   the result of `x` is the same from any memory, and is kept where one run hands its result on to
   another (`Steady.bind`). So diagnosing a text is steady (`Memoryless.allDiagnostics`). -/
namespace InkWorkspace

/-- The result of a run does not depend on what is remembered when it starts. -/
def Steady {σ α : Type} (run : σ → α × σ) : Prop :=
  ∀ s t, (run s).1 = (run t).1

namespace Steady

variable {σ α β : Type}

theorem pure (a : α) : Steady (fun s : σ => (a, s)) :=
  fun _ _ => rfl

theorem bind {run : σ → α × σ} {next : α → σ → β × σ} (hrun : Steady run)
    (hnext : ∀ a, Steady (next a)) : Steady fun s => next (run s).1 (run s).2 := by
  intro s t
  show (next (run s).1 (run s).2).1 = (next (run t).1 (run t).2).1
  rw [hrun s t]
  exact hnext (run t).1 (run s).2 (run t).2

end Steady

namespace Compiler

variable {σ : Type} {compiler : Compiler σ}

/-- The answer of the compiler depends on the call alone. -/
def Memoryless (compiler : Compiler σ) : Prop :=
  ∀ call, Steady (compiler.run call)

namespace Memoryless

variable (h : compiler.Memoryless)

include h

theorem attempt (text : String) (handler : Option FileHandler) :
    Steady (compiler.attempt text handler) :=
  Steady.bind (h ⟨text, .standard, handler⟩) fun reply => .pure (Attempt.ofReply reply)

theorem collectIssues (text : String) (handler : Option FileHandler) :
    Steady (compiler.collectIssues text handler) :=
  Steady.bind (h.attempt text handler) fun attempt => .pure attempt.issues

theorem healFrom (text : String) (handler : Option FileHandler) (limit left : Nat)
    (patches : Patches) : Steady (compiler.healFrom text handler limit left patches) := by
  induction left using Nat.strongRecOn generalizing patches with
  | ind left ih =>
    intro s t
    rw [Compiler.healFrom, Compiler.healFrom]
    have hattempt := h.attempt (patches.render text) handler s t
    generalize compiler.attempt (patches.render text) handler s = first at hattempt ⊢
    generalize compiler.attempt (patches.render text) handler t = other at hattempt ⊢
    obtain ⟨attempt, s⟩ := first
    obtain ⟨attempt', t⟩ := other
    cases hattempt
    dsimp only
    cases attempt.result with
    | ok json => rfl
    | error failure =>
      dsimp only
      cases nextRepair attempt failure patches with
      | error error => rfl
      | ok next =>
        cases left with
        | zero => rfl
        | succ left => exact ih left (Nat.lt_succ_self left) (patches.apply next.1) s t

theorem healIssues (text : String) (handler : Option FileHandler) (limit : Nat) :
    Steady (compiler.healIssues text handler limit) := by
  intro s t
  have hheal : (compiler.heal text handler limit s).1 = (compiler.heal text handler limit t).1 :=
    h.healFrom text handler limit limit {} s t
  unfold Compiler.healIssues
  generalize compiler.heal text handler limit s = first at hheal ⊢
  generalize compiler.heal text handler limit t = other at hheal ⊢
  obtain ⟨healed, s⟩ := first
  obtain ⟨healed', t⟩ := other
  cases hheal
  cases healed with
  | compiled story => rfl
  | failed issues patches error => cases error <;> rfl

theorem issuesWith (settings : Settings) (text : String) (handler : Option FileHandler) :
    Steady (compiler.issuesWith settings text handler) := by
  intro s t
  unfold Compiler.issuesWith
  cases settings.engine with
  | ink => exact h.collectIssues text handler s t
  | pixiVn =>
    exact congrArg HealedIssues.issues (h.healIssues text handler settings.maxRepairs s t)

theorem diagnostics (settings : Settings) (text : String) (handler : Option FileHandler) :
    Steady (compiler.diagnostics settings text handler) := by
  intro s t
  unfold Compiler.diagnostics
  split
  · exact congrArg (Diagnostic.ofIssues text) (h.issuesWith settings text handler s t)
  · rfl

/-- The diagnostics of a document are the same whatever the compiler was asked before. -/
theorem allDiagnostics (disk : Disk) (story : Story) (settings : Settings)
    (handler : Option FileHandler) (path : Path) (text : String) :
    Steady (compiler.allDiagnostics disk story settings handler path text) :=
  Steady.bind (h.diagnostics settings text handler) fun compiled =>
    .pure (compiled ++ story.indexDiagnostics disk settings path text)

end Memoryless

end Compiler

end InkWorkspace
