import InkWorkspace.Compiler.Heal
import Mathlib.Data.List.Nodup

/- The repair loop against any compiler. What the compiler answers is not restricted in any way: it
   may depend on all it was asked before. `Compiler.recorded` is the compiler with a record of its
   exchanges; recording changes nothing else (`recorded_healFrom`).

   `Heals` says how a run looks: every exchange but the last is a failed call whose first error asks
   for a repair that has not been made, and the repair is made; the last one ends the run. The loop
   runs this way from any state (`healFrom_heals`), and what the run's length, its calls, its repairs
   and its ending are follows by induction over `Heals`. -/
namespace InkWorkspace

/-! ## Repairs and patches -/

namespace Patches

/-- The patches that repairs make, one after the other. -/
def ofRepairs (repairs : List Repair) : Patches :=
  repairs.foldl apply {}

end Patches

namespace Repair

/-- The name of the stub knot that a repair adds. -/
def knot? : Repair → Option String
  | stubKnot name => some name
  | declareVariable _ => none

/-- The name of the variable that a repair declares. -/
def global? : Repair → Option String
  | stubKnot _ => none
  | declareVariable name => some name

@[simp]
theorem knot?_eq_some_iff {repair : Repair} {name : String} :
    repair.knot? = some name ↔ repair = stubKnot name := by
  cases repair <;> simp [knot?]

@[simp]
theorem global?_eq_some_iff {repair : Repair} {name : String} :
    repair.global? = some name ↔ repair = declareVariable name := by
  cases repair <;> simp [global?]

end Repair

namespace Patches

theorem foldl_apply_knots (patches : Patches) (repairs : List Repair) :
    (repairs.foldl apply patches).knots = patches.knots ++ repairs.filterMap Repair.knot? := by
  induction repairs generalizing patches with
  | nil => simp
  | cons repair repairs ih =>
    rw [List.foldl_cons, ih]
    cases repair <;> simp [apply, List.filterMap_cons, Repair.knot?]

theorem foldl_apply_globals (patches : Patches) (repairs : List Repair) :
    (repairs.foldl apply patches).globals =
      patches.globals ++ repairs.filterMap Repair.global? := by
  induction repairs generalizing patches with
  | nil => simp
  | cons repair repairs ih =>
    rw [List.foldl_cons, ih]
    cases repair <;> simp [apply, List.filterMap_cons, Repair.global?]

@[simp]
theorem ofRepairs_knots (repairs : List Repair) :
    (ofRepairs repairs).knots = repairs.filterMap Repair.knot? :=
  foldl_apply_knots {} repairs

@[simp]
theorem ofRepairs_globals (repairs : List Repair) :
    (ofRepairs repairs).globals = repairs.filterMap Repair.global? :=
  foldl_apply_globals {} repairs

theorem ofRepairs_concat (repairs : List Repair) (repair : Repair) :
    ofRepairs (repairs ++ [repair]) = (ofRepairs repairs).apply repair := by
  simp [ofRepairs]

theorem count_ofRepairs (repairs : List Repair) : (ofRepairs repairs).count = repairs.length := by
  rw [count, ofRepairs_knots, ofRepairs_globals]
  induction repairs with
  | nil => rfl
  | cons repair repairs ih =>
    cases repair <;> simp only [List.filterMap_cons, Repair.knot?, Repair.global?,
      List.length_cons] <;> omega

theorem contains_ofRepairs {repairs : List Repair} {repair : Repair} :
    (ofRepairs repairs).contains repair = true ↔ repair ∈ repairs := by
  cases repair with
  | stubKnot name => simp [contains]
  | declareVariable name => simp [contains]

theorem nodup_ofRepairs {repairs : List Repair} (h : repairs.Nodup) :
    (ofRepairs repairs).knots.Nodup ∧ (ofRepairs repairs).globals.Nodup := by
  rw [ofRepairs_knots, ofRepairs_globals]
  refine ⟨h.filterMap ?_, h.filterMap ?_⟩
  · intro a b name ha hb
    rw [Repair.knot?_eq_some_iff.mp ha, Repair.knot?_eq_some_iff.mp hb]
  · intro a b name ha hb
    rw [Repair.global?_eq_some_iff.mp ha, Repair.global?_eq_some_iff.mp hb]

end Patches

/-! ## Replies and endings -/

namespace Healed

def patches : Healed → Patches
  | compiled story => story.patches
  | failed _ patches _ => patches

/-- The error that a run ends with. -/
def error? : Healed → Option CompileError
  | compiled _ => none
  | failed _ _ error => some error

end Healed

namespace CompileReply

/-- The first message that stands for an issue of error severity. -/
def firstError? (reply : CompileReply) : Option Message :=
  reply.messages.find? fun message => (Issue.ofMessage message).severity == .error

/-- The repair that the first error asks for. -/
def repair? (reply : CompileReply) : Option Repair :=
  reply.firstError?.bind fun message => Repair.ofIssue? (.ofMessage message)

end CompileReply

theorem severity_eq_error_iff (message : Message) :
    ((Issue.ofMessage message).severity == .error) = (message.kind == .error) := by
  simp only [Issue.ofMessage]
  cases message.kind <;> rfl

namespace Compiler

variable {σ : Type}

/-- What a failed call leads to, by its first error: the raw text that is reported is that error's. -/
theorem nextRepair_ofReply (reply : CompileReply) (failure : CompileFailure) (patches : Patches) :
    nextRepair (.ofReply reply) failure patches =
      match reply.firstError? with
      | none => .error (.failed failure)
      | some message =>
        match Repair.ofIssue? (.ofMessage message) with
        | none => .error (.rejected message.text)
        | some repair =>
          if patches.contains repair then .error (.rejected message.text)
          else .ok (repair, message.text) := by
  -- The first issue that is an error and the first raw error come from one message.
  have hissue : (Attempt.ofReply reply).issues.find? (·.severity == .error) =
      reply.firstError?.map Issue.ofMessage := by
    simp only [Attempt.ofReply, List.find?_map, CompileReply.firstError?]
    rfl
  have hraw : (Attempt.ofReply reply).rawErrors.head? = reply.firstError?.map (·.text) := by
    simp only [Attempt.ofReply, List.head?_map, List.head?_filter, CompileReply.firstError?,
      severity_eq_error_iff]
  unfold nextRepair
  rw [hissue]
  cases hfirst : reply.firstError? with
  | none => rfl
  | some message =>
    have hhead : (Attempt.ofReply reply).rawErrors.headD (Issue.ofMessage message).message =
        message.text := by
      rw [List.headD_eq_head?_getD, hraw, hfirst, Option.map_some, Option.getD_some]
    dsimp only [Option.map_some]
    generalize (Attempt.ofReply reply).rawErrors.headD _ = raw at hhead ⊢
    subst hhead
    rfl

/-! ## One round of the loop -/

/-- The call on a text after some repairs. -/
def repairedCall (text : String) (handler : Option FileHandler) (repairs : List Repair) :
    CompileCall :=
  ⟨(Patches.ofRepairs repairs).render text, .standard, handler⟩

/-- The issues of a reply that concern the author's text. -/
def issuesOf (text : String) (repairs : List Repair) (reply : CompileReply) : List Issue :=
  (Patches.ofRepairs repairs).mapIssues text (reply.messages.map Issue.ofMessage)

theorem issuesOf_severity (text : String) (repairs : List Repair) {reply : CompileReply}
    (h : ∀ message ∈ reply.messages, (message.kind == .error) = false) :
    ∀ issue ∈ issuesOf text repairs reply, issue.severity ≠ .error := by
  intro issue hissue
  obtain ⟨raw, hraw, hmapped⟩ := List.mem_filterMap.mp hissue
  obtain ⟨message, hmessage, rfl⟩ := List.mem_map.mp hraw
  have hkept : issue.severity = (Issue.ofMessage message).severity := by
    unfold Patches.mapIssue? at hmapped
    split at hmapped
    · cases hmapped
      rfl
    · dsimp only at hmapped
      split at hmapped
      · cases hmapped
      · cases hmapped
        rfl
  rw [hkept, ← beq_eq_false_iff_ne, severity_eq_error_iff]
  exact h message hmessage

/-- How a run ends after the given repairs, with `left` more of them allowed, when `reply` is the
    last reply. -/
inductive Ends (text : String) (limit left : Nat) (repairs : List Repair) (reply : CompileReply) :
    Healed → Prop where
  | compiled {json : String} : reply.result = .ok json →
    Ends text limit left repairs reply
      (.compiled ⟨json, issuesOf text repairs reply, .ofRepairs repairs⟩)
  | failed {failure : CompileFailure} : reply.result = .error failure →
    reply.firstError? = none →
    Ends text limit left repairs reply
      (.failed (issuesOf text repairs reply) (.ofRepairs repairs) (.failed failure))
  | rejected {failure : CompileFailure} {message : Message} : reply.result = .error failure →
    reply.firstError? = some message →
    (∀ repair, reply.repair? = some repair → repair ∈ repairs) →
    Ends text limit left repairs reply
      (.failed (issuesOf text repairs reply) (.ofRepairs repairs) (.rejected message.text))
  | exhausted {failure : CompileFailure} {message : Message} {repair : Repair} :
    reply.result = .error failure → reply.firstError? = some message →
    reply.repair? = some repair → repair ∉ repairs → left = 0 →
    Ends text limit left repairs reply
      (.failed (issuesOf text repairs reply) (.ofRepairs repairs) (.exhausted limit message.text))

/-- The loop calls the compiler once and then ends, or makes a new repair and goes on. -/
theorem healFrom_step (compiler : Compiler σ) (text : String) (handler : Option FileHandler)
    (limit left : Nat) (done : List Repair) (s : σ) :
    let (reply, next) := compiler.run (repairedCall text handler done) s
    (∃ healed, Ends text limit left done reply healed ∧
      compiler.healFrom text handler limit left (.ofRepairs done) s = (healed, next)) ∨
    ∃ less failure repair, left = less + 1 ∧ reply.result = .error failure ∧
      reply.repair? = some repair ∧ repair ∉ done ∧
      compiler.healFrom text handler limit left (.ofRepairs done) s =
        compiler.healFrom text handler limit less (.ofRepairs (done ++ [repair])) next := by
  rcases hrun : compiler.run (repairedCall text handler done) s with ⟨reply, next⟩
  dsimp only
  have hattempt : compiler.attempt ((Patches.ofRepairs done).render text) handler s =
      (.ofReply reply, next) := by
    change (Attempt.ofReply (compiler.run (repairedCall text handler done) s).1,
      (compiler.run (repairedCall text handler done) s).2) = _
    rw [hrun]
  rw [healFrom.eq_def]
  simp only [hattempt]
  rw [show (Attempt.ofReply reply).result = reply.result from rfl]
  cases hresult : reply.result with
  | ok json => exact Or.inl ⟨_, .compiled hresult, rfl⟩
  | error failure =>
    dsimp only
    rw [nextRepair_ofReply]
    cases hfirst : reply.firstError? with
    | none => exact Or.inl ⟨_, .failed hresult hfirst, rfl⟩
    | some message =>
      have hrepair : reply.repair? = Repair.ofIssue? (.ofMessage message) := by
        rw [CompileReply.repair?, hfirst, Option.bind_some]
      dsimp only
      cases hask : Repair.ofIssue? (.ofMessage message) with
      | none =>
        rw [hask] at hrepair
        exact Or.inl ⟨_, .rejected hresult hfirst (by simp [hrepair]), rfl⟩
      | some repair =>
        rw [hask] at hrepair
        dsimp only
        -- A repair that has been made did not help, so it is not tried again.
        by_cases hmade : repair ∈ done
        · rw [if_pos (Patches.contains_ofRepairs.mpr hmade)]
          exact Or.inl ⟨_, .rejected hresult hfirst (by simp [hrepair, hmade]), rfl⟩
        · rw [if_neg (mt Patches.contains_ofRepairs.mp hmade)]
          cases left with
          | zero => exact Or.inl ⟨_, .exhausted hresult hfirst hrepair hmade rfl, rfl⟩
          | succ less =>
            refine Or.inr ⟨less, failure, repair, rfl, rfl, hrepair, hmade, ?_⟩
            rw [Patches.ofRepairs_concat]

/-! ## Exchanges -/

/-- A call of a compiler with its reply. -/
structure Exchange where
  call : CompileCall
  reply : CompileReply

/-- The compiler with a record of its exchanges, oldest first. -/
def recorded (compiler : Compiler σ) : Compiler (σ × List Exchange) where
  run call
    | (s, log) =>
      let (reply, s) := compiler.run call s
      (reply, s, log ++ [⟨call, reply⟩])

theorem recorded_healFrom (compiler : Compiler σ) (text : String) (handler : Option FileHandler)
    (limit left : Nat) (patches : Patches) (s : σ) (log : List Exchange) :
    ∃ all, compiler.recorded.healFrom text handler limit left patches (s, log) =
      ((compiler.healFrom text handler limit left patches s).1,
        (compiler.healFrom text handler limit left patches s).2, all) := by
  induction left generalizing patches s log with
  | zero =>
    rw [healFrom.eq_def, healFrom.eq_def compiler]
    simp only [attempt, recorded]
    split
    · exact ⟨_, rfl⟩
    · split <;> exact ⟨_, rfl⟩
  | succ left ih =>
    rw [healFrom.eq_def, healFrom.eq_def compiler]
    simp only [attempt, recorded]
    split
    · exact ⟨_, rfl⟩
    · split
      · exact ⟨_, rfl⟩
      · exact ih _ _ _

/-! ## Runs -/

/-- A run of the loop after the repairs `done`, with `left` more of them allowed: the repairs it
    makes, how it ends, and its exchanges. -/
inductive Heals (text : String) (handler : Option FileHandler) (limit : Nat) :
    List Repair → Nat → List Repair → Healed → List Exchange → Prop where
  | ends {done : List Repair} {left : Nat} {reply : CompileReply} {healed : Healed} :
    Ends text limit left done reply healed →
    Heals text handler limit done left [] healed [⟨repairedCall text handler done, reply⟩]
  | repairs {done : List Repair} {left : Nat} {reply : CompileReply} {failure : CompileFailure}
      {repair : Repair} {made : List Repair} {healed : Healed} {log : List Exchange} :
    reply.result = .error failure → reply.repair? = some repair → repair ∉ done →
    Heals text handler limit (done ++ [repair]) left made healed log →
    Heals text handler limit done (left + 1) (repair :: made) healed
      (⟨repairedCall text handler done, reply⟩ :: log)

/-- Every run of the loop is such a run, and its exchanges are the ones on record. -/
theorem healFrom_heals (compiler : Compiler σ) (text : String) (handler : Option FileHandler)
    (limit left : Nat) (done : List Repair) (s : σ) (log : List Exchange) :
    ∃ made healed new next, Heals text handler limit done left made healed new ∧
      compiler.recorded.healFrom text handler limit left (.ofRepairs done) (s, log) =
        (healed, next, log ++ new) := by
  induction left generalizing done s log with
  | zero =>
    have hstep := compiler.recorded.healFrom_step text handler limit 0 done (s, log)
    rcases hstep with ⟨healed, hends, heq⟩ | ⟨less, _, _, hless, _⟩
    · exact ⟨[], healed, _, _, .ends hends, heq⟩
    · cases hless
  | succ left ih =>
    have hstep := compiler.recorded.healFrom_step text handler limit (left + 1) done (s, log)
    rcases hstep with ⟨healed, hends, heq⟩ |
      ⟨less, failure, repair, hless, hresult, hask, hnew, heq⟩
    · exact ⟨[], healed, _, _, .ends hends, heq⟩
    · cases hless
      -- The rest of the run starts with this round's exchange on record.
      obtain ⟨made, healed, new, next, hheals, hrun⟩ := ih (done ++ [repair]) _ _
      refine ⟨_, healed, _, next, .repairs hresult hask hnew hheals, ?_⟩
      rw [heq, hrun, List.append_assoc]
      rfl

namespace Heals

variable {text : String} {handler : Option FileHandler} {limit left : Nat} {done made : List Repair}
  {healed : Healed} {log : List Exchange}

theorem length_log (h : Heals text handler limit done left made healed log) :
    log.length = made.length + 1 := by
  induction h with
  | ends _ => rfl
  | repairs _ _ _ _ ih => simp only [List.length_cons, ih]

theorem length_le (h : Heals text handler limit done left made healed log) :
    made.length ≤ left := by
  induction h with
  | ends _ => exact Nat.zero_le _
  | repairs _ _ _ _ ih => exact Nat.succ_le_succ ih

theorem call_eq (h : Heals text handler limit done left made healed log) :
    ∀ i ≤ made.length,
      log[i]?.map (·.call) = some (repairedCall text handler (done ++ made.take i)) := by
  induction h with
  | ends _ =>
    intro i hi
    obtain rfl : i = 0 := Nat.le_zero.mp hi
    simp
  | repairs _ _ _ _ ih =>
    intro i hi
    cases i with
    | zero => simp
    | succ i =>
      rw [List.getElem?_cons_succ, ih i (Nat.le_of_succ_le_succ hi), List.take_succ_cons,
        List.append_assoc, List.singleton_append]

theorem repair_eq (h : Heals text handler limit done left made healed log) :
    ∀ i < made.length, log[i]?.bind (·.reply.repair?) = made[i]? := by
  induction h with
  | ends _ => intro i hi; exact absurd hi (Nat.not_lt_zero i)
  | repairs _ hask _ _ ih =>
    intro i hi
    cases i with
    | zero => exact hask
    | succ i => exact ih i (Nat.lt_of_succ_lt_succ hi)

theorem nodup (h : Heals text handler limit done left made healed log) (hdone : done.Nodup) :
    (done ++ made).Nodup := by
  induction h with
  | ends _ => rwa [List.append_nil]
  | repairs _ _ hnew _ ih =>
    have hmore := hdone.concat hnew
    rw [List.concat_eq_append] at hmore
    rw [List.append_cons]
    exact ih hmore

/-- The last exchange ends the run, after all its repairs. -/
theorem getLast?_ends (h : Heals text handler limit done left made healed log) :
    ∃ last, log.getLast? = some last ∧
      Ends text limit (left - made.length) (done ++ made) last.reply healed := by
  induction h with
  | ends hends => exact ⟨_, rfl, by rwa [List.append_nil]⟩
  | repairs _ _ _ hheals ih =>
    obtain ⟨last, hlast, hends⟩ := ih
    refine ⟨last, ?_, ?_⟩
    · rw [List.getLast?_cons, hlast, Option.getD_some]
    · rwa [List.append_cons, List.length_cons, Nat.add_sub_add_right]

end Heals

/-! ## Outcomes -/

/-- How the last reply decides a run's outcome. The error text is always that of the first error. -/
structure Outcome (limit : Nat) (repairs : List Repair) (reply : CompileReply) (healed : Healed) :
    Prop where
  compiled_iff (json : String) :
    (∃ issues, healed = .compiled ⟨json, issues, healed.patches⟩) ↔ reply.result = .ok json
  failed_iff (failure : CompileFailure) :
    healed.error? = some (.failed failure) ↔
      reply.result = .error failure ∧ reply.firstError? = none
  exhausted_iff (count : Nat) (raw : String) :
    healed.error? = some (.exhausted count raw) ↔
      (∃ failure, reply.result = .error failure) ∧
      ∃ message, reply.firstError? = some message ∧ message.text = raw ∧
        (∃ repair, Repair.ofIssue? (.ofMessage message) = some repair ∧ repair ∉ repairs) ∧
        repairs.length = limit ∧ limit = count
  rejected_iff (raw : String) :
    healed.error? = some (.rejected raw) ↔
      (∃ failure, reply.result = .error failure) ∧
      ∃ message, reply.firstError? = some message ∧ message.text = raw ∧
        ∀ repair, Repair.ofIssue? (.ofMessage message) = some repair → repair ∈ repairs

namespace Ends

variable {text : String} {limit left : Nat} {repairs : List Repair} {reply : CompileReply}
  {healed : Healed}

theorem patches_eq (h : Ends text limit left repairs reply healed) :
    healed.patches = .ofRepairs repairs := by
  cases h <;> rfl

theorem eq_compiled (h : Ends text limit left repairs reply healed) {json : String}
    (hresult : reply.result = .ok json) :
    healed = .compiled ⟨json, issuesOf text repairs reply, .ofRepairs repairs⟩ := by
  cases h with
  | compiled hok =>
    cases hok.symm.trans hresult
    rfl
  | failed herror _ => cases herror.symm.trans hresult
  | rejected herror _ _ => cases herror.symm.trans hresult
  | exhausted herror _ _ _ _ => cases herror.symm.trans hresult

/-- When a new repair is asked for, the only end is that no more of them are allowed. -/
theorem eq_exhausted (h : Ends text limit left repairs reply healed) {failure : CompileFailure}
    (hresult : reply.result = .error failure) {repair : Repair}
    (hask : reply.repair? = some repair) (hnew : repair ∉ repairs) :
    left = 0 ∧ ∃ issues raw, healed = .failed issues (.ofRepairs repairs) (.exhausted limit raw) := by
  cases h with
  | compiled hok => cases hok.symm.trans hresult
  | failed _ hfirst =>
    rw [CompileReply.repair?, hfirst] at hask
    cases hask
  | rejected _ _ hmade => exact absurd (hmade repair hask) hnew
  | exhausted _ _ _ _ hleft => exact ⟨hleft, _, _, rfl⟩

/-- The way a run ends is read off its last reply. -/
theorem outcome (h : Ends text limit (limit - repairs.length) repairs reply healed)
    (hle : repairs.length ≤ limit) : Outcome limit repairs reply healed := by
  cases h with
  | compiled hresult => constructor <;> simp [hresult, Healed.patches, Healed.error?]
  | failed hresult hfirst => constructor <;> simp [hresult, hfirst, Healed.error?]
  | rejected hresult hfirst hmade =>
    simp only [CompileReply.repair?, hfirst, Option.bind_some] at hmade
    refine ⟨?_, ?_, ?_, ?_⟩
    · simp [hresult]
    · simp [hfirst, Healed.error?]
    · intro count raw
      simp only [Healed.error?, Option.some.injEq, reduceCtorEq, false_iff]
      rintro ⟨-, message, hmessage, -, ⟨repair, hask, hnew⟩, -⟩
      cases hfirst.symm.trans hmessage
      exact hnew (hmade repair hask)
    · simpa [hresult, hfirst, Healed.error?] using hmade
  | exhausted hresult hfirst hask hnew hleft =>
    simp only [CompileReply.repair?, hfirst, Option.bind_some] at hask
    have hlimit : repairs.length = limit := Nat.le_antisymm hle (Nat.le_of_sub_eq_zero hleft)
    refine ⟨?_, ?_, ?_, ?_⟩
    · simp [hresult]
    · simp [hfirst, Healed.error?]
    · intro count raw
      simp [hresult, hfirst, hask, hnew, hlimit, Healed.error?, and_comm]
    · simp [hfirst, hask, hnew, Healed.error?]

end Ends

/-- A run of the loop against any compiler. It makes some repairs, at most `limit`, and one call more
    than that: each call is made on the text with the repairs made before it, and each repair is the
    one that the first error of the call before it asks for. No repair is made twice, and the last
    reply decides the outcome. -/
theorem heal_exchanges (compiler : Compiler σ) (text : String) (handler : Option FileHandler)
    (limit : Nat) (s : σ) :
    ∃ repairs log last healed next,
      compiler.heal text handler limit s = (healed, next) ∧
      compiler.recorded.heal text handler limit (s, []) = (healed, next, log) ∧
      healed.patches = .ofRepairs repairs ∧
      healed.patches.count = repairs.length ∧ repairs.length ≤ limit ∧
      log.length = repairs.length + 1 ∧
      (∀ i ≤ repairs.length,
        log[i]?.map (·.call) = some (repairedCall text handler (repairs.take i))) ∧
      (∀ i < repairs.length, log[i]?.bind (·.reply.repair?) = repairs[i]?) ∧
      healed.patches.knots.Nodup ∧ healed.patches.globals.Nodup ∧
      log.getLast? = some last ∧ Outcome limit repairs last.reply healed := by
  obtain ⟨repairs, healed, log, next, hheals, hrecorded⟩ :=
    compiler.healFrom_heals text handler limit limit [] s []
  obtain ⟨last, hlast, hends⟩ := hheals.getLast?_ends
  have hnodup : repairs.Nodup := hheals.nodup List.nodup_nil
  have hpatches : healed.patches = .ofRepairs repairs := hends.patches_eq
  -- Taking a record of the calls changes nothing about them.
  have hplain : compiler.heal text handler limit s = (healed, next) := by
    obtain ⟨all, hall⟩ := compiler.recorded_healFrom text handler limit limit {} s []
    cases hall.symm.trans hrecorded
    rfl
  refine ⟨repairs, log, last, healed, next, hplain, hrecorded, hpatches, ?_, hheals.length_le,
    hheals.length_log, hheals.call_eq, hheals.repair_eq, ?_, ?_, hlast,
    hends.outcome hheals.length_le⟩
  · rw [hpatches, Patches.count_ofRepairs]
  · rw [hpatches]
    exact (Patches.nodup_ofRepairs hnodup).1
  · rw [hpatches]
    exact (Patches.nodup_ofRepairs hnodup).2

end Compiler

end InkWorkspace
