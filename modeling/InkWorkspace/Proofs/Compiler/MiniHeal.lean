import InkWorkspace.Proofs.Compiler.Rendered

/- Repairs against the miniature compiler. A sound text asks for the names it lacks, in the order of
   its errors, and after some repairs it asks for the same list without these (`errors_repaired`).
   So the loop makes the first repair that is left in each round (`healFrom_repair`), is never asked
   for it again (`eraseDups_pending`), and ends when none is left (`healFrom_compiled`) or the limit
   is reached (`healFrom_exhausted`): it makes one repair for each missing name, in the order in
   which the names occur first (`healFrom_take`). -/
namespace InkWorkspace

open Text

/-! ## Lists without repetitions -/

/-- Repetitions may be erased before or after a partial map that is injective where it is defined. -/
theorem filterMap_eraseDups {α β : Type} [BEq α] [LawfulBEq α] [BEq β] [LawfulBEq β]
    {f : α → Option β} (hf : ∀ a b c, f a = some c → f b = some c → a = b) (items : List α) :
    items.eraseDups.filterMap f = (items.filterMap f).eraseDups := by
  match items with
  | [] => rfl
  | a :: items =>
    have hshorter : (items.filter fun b => !b == a).length < items.length + 1 :=
      Nat.lt_succ_of_le (List.length_filter_le _ _)
    -- The recursion is on the items without the first one, as in `eraseDups` itself.
    have ih := filterMap_eraseDups hf (items.filter fun b => !b == a)
    rw [List.filterMap_filter] at ih
    rw [List.eraseDups_cons]
    cases ha : f a with
    | none =>
      rw [List.filterMap_cons_none ha, List.filterMap_cons_none ha, ih]
      congr 1
      refine List.filterMap_congr fun b _ => ?_
      split
      · rfl
      · next hb =>
        obtain rfl : b = a := by simpa using hb
        exact ha.symm
    | some c =>
      rw [List.filterMap_cons_some ha, List.filterMap_cons_some ha, ih, List.eraseDups_cons,
        List.filter_filterMap]
      congr 2
      refine List.filterMap_congr fun b _ => ?_
      by_cases hb : b = a
      · subst hb
        simp [ha, Option.filter]
      · cases hfb : f b with
        | none => simp
        | some d =>
          have hd : d ≠ c := fun hd => hb (hf b a c (hd ▸ hfb) ha)
          simp [hb, hd, Option.filter]
termination_by items.length

theorem head_of_eraseDups {α : Type} [BEq α] {a : α} {items rest : List α}
    (h : items.eraseDups = a :: rest) : ∃ more, items = a :: more := by
  cases items with
  | nil => cases h
  | cons b items =>
    rw [List.eraseDups_cons] at h
    exact ⟨items, congrArg (· :: items) (List.cons.inj h).1⟩

namespace Mini

/-! ## Missing names -/

/-- Whether names on a line are looked up: it is neither an author's note nor an include. -/
def isRead (line : List Char) : Bool :=
  !isTodo line && (include? line).isNone

/-- The names in braces that nothing declares, each once, in the order in which they occur first. -/
def undeclared (handler : Option FileHandler) (text : String) : List String :=
  (((lines text.toList).filter isRead).flatMap fun line => (uses 0 line).filter fun name =>
    !(declarations handler text).globals.contains name).eraseDups

/-- The divert targets that no knot has, each once, in the order in which they occur first. -/
def unknown (handler : Option FileHandler) (text : String) : List String :=
  (((lines text.toList).filter isRead).flatMap fun line => (targets 0 line).filter fun name =>
    name ≠ "DONE" && name ≠ "END" && !(declarations handler text).knots.contains name).eraseDups

/-- The repairs that a text asks for, in the order of its errors. -/
def asked (handler : Option FileHandler) (text : String) : List Repair :=
  (lines text.toList).flatMap (asks (declarations handler text))

/-- The repairs that a text asks for, each once. -/
def missing (handler : Option FileHandler) (text : String) : List Repair :=
  (asked handler text).eraseDups

theorem filter_flatMap_isRead (ls : List (List Char)) (f : List Char → List String) :
    (ls.filter isRead).flatMap f = ls.flatMap fun line => if isRead line then f line else [] := by
  induction ls with
  | nil => rfl
  | cons line ls ih =>
    rw [List.filter_cons, List.flatMap_cons, ← ih]
    split <;> rfl

theorem asks_names (declared : Declared) (line : List Char) :
    (asks declared line).filterMap Repair.global? =
        (if isRead line then (uses 0 line).filter fun name => !declared.globals.contains name
          else []) ∧
      (asks declared line).filterMap Repair.knot? =
        (if isRead line then (targets 0 line).filter fun name =>
          name ≠ "DONE" && name ≠ "END" && !declared.knots.contains name else []) := by
  have hread : isRead line = !(isTodo line || (include? line).isSome) := by
    unfold isRead
    cases include? line <;> simp
  have hglobals : Repair.global? ∘ Repair.declareVariable = some := rfl
  have hnoGlobals : Repair.global? ∘ Repair.stubKnot = fun _ => none := rfl
  have hknots : Repair.knot? ∘ Repair.stubKnot = some := rfl
  have hnoKnots : Repair.knot? ∘ Repair.declareVariable = fun _ => none := rfl
  unfold asks
  rw [hread]
  cases isTodo line || (include? line).isSome with
  | true => exact ⟨rfl, rfl⟩
  | false =>
    simp only [Bool.false_eq_true, if_false, Bool.not_false, if_true, List.filterMap_append,
      List.filterMap_map, hglobals, hnoGlobals, hknots, hnoKnots, List.filterMap_some,
      List.filterMap_none, List.append_nil, List.nil_append, and_self]

theorem ofRepairs_missing (handler : Option FileHandler) (text : String) :
    Patches.ofRepairs (missing handler text) =
      ⟨unknown handler text, undeclared handler text⟩ := by
  have hknots : (missing handler text).filterMap Repair.knot? = unknown handler text := by
    rw [missing, filterMap_eraseDups (by simp +contextual), unknown, filter_flatMap_isRead, asked,
      List.filterMap_flatMap]
    simp only [(asks_names _ _).2]
  have hglobals : (missing handler text).filterMap Repair.global? = undeclared handler text := by
    rw [missing, filterMap_eraseDups (by simp +contextual), undeclared, filter_flatMap_isRead,
      asked, List.filterMap_flatMap]
    simp only [(asks_names _ _).1]
  rw [← hknots, ← hglobals, ← Patches.ofRepairs_knots, ← Patches.ofRepairs_globals]

theorem length_missing (handler : Option FileHandler) (text : String) :
    (missing handler text).length =
      (undeclared handler text).length + (unknown handler text).length := by
  rw [← Patches.count_ofRepairs, ofRepairs_missing, Patches.count, Nat.add_comm]

/-! ## One round -/

/-- The repairs that are still asked for when some have been made. -/
def pending (handler : Option FileHandler) (text : String) (done : List Repair) : List Repair :=
  (asked handler text).filter (· ∉ done)

theorem pending_nil (handler : Option FileHandler) (text : String) :
    pending handler text [] = asked handler text := by
  simp [pending]

section Pending

variable {handler : Option FileHandler} {text : String} {done rest : List Repair} {repair : Repair}
  (h : pending handler text done = repair :: rest)
include h

theorem not_mem_of_pending : repair ∉ done := by
  have hmem : repair ∈ pending handler text done := h ▸ List.mem_cons_self
  exact of_decide_eq_true (List.mem_filter.mp hmem).2

/-- A repair is not asked for again. -/
theorem eraseDups_pending :
    (pending handler text done).eraseDups =
      repair :: (pending handler text (done ++ [repair])).eraseDups := by
  have hnext : pending handler text (done ++ [repair]) =
      (pending handler text done).filter fun other => !other == repair := by
    unfold pending
    rw [List.filter_filter]
    refine List.filter_congr fun other _ => ?_
    rw [Bool.eq_iff_iff]
    simp [and_comm]
  rw [hnext, h, List.eraseDups_cons, List.filter_cons]
  simp

end Pending

theorem reply_result (call : CompileCall) :
    (reply call).result =
      if ((reply call).messages.filter (·.kind == .error)).length > 0 then
        .error (.errors ((reply call).messages.filter (·.kind == .error)).length)
      else .ok (storyOf (declarations call.handler call.source).knots) := rfl

section Round

variable {handler : Option FileHandler} {text : String}
  (hsound : ∀ line ∈ lines text.toList, Sound handler line)
include hsound

/-- Names that a sound text asks for may be added. -/
theorem plainName_of_asked {repair : Repair} (h : repair ∈ asked handler text) :
    PlainName (repairName repair) := by
  obtain ⟨line, hline, hasks⟩ := List.mem_flatMap.mp h
  have hname := asks_nameOn hasks
  have htodo : isTodo line = false := by
    unfold asks at hasks
    split at hasks
    · cases hasks
    · next hread =>
      rw [Bool.not_eq_true, Bool.or_eq_false_iff] at hread
      exact hread.1
  refine ⟨hname.ne_nil, hname.all_word, ?_⟩
  -- The name is part of a line that is looked at, so the word would be an error of that line.
  rw [← Bool.not_eq_true, occursIn_iff]
  intro hbroken
  have hmem := occursIn_iff.mpr (hbroken.trans hname.within)
  rw [(hsound line hline htodo).1] at hmem
  cases hmem

theorem plainPatches_ofRepairs {done : List Repair}
    (hdone : ∀ repair ∈ done, repair ∈ asked handler text) :
    PlainPatches (.ofRepairs done) := by
  have hplain (repair : Repair) (h : (Patches.ofRepairs done).contains repair = true) :
      PlainName (repairName repair) :=
    plainName_of_asked hsound (hdone repair (Patches.contains_ofRepairs.mp h))
  constructor
  · intro name hname
    exact hplain (.declareVariable name) (List.contains_iff_mem.mpr hname)
  · intro name hname
    exact hplain (.stubKnot name) (List.contains_iff_mem.mpr hname)

variable (hlast : KeepsLastInclude text) {done : List Repair}
  (hdone : ∀ repair ∈ done, repair ∈ asked handler text)
include hlast hdone

/-- The errors about a repaired text ask for what has not been repaired, in the same order. -/
theorem errors_repaired :
    ((reply (Compiler.repairedCall text handler done)).messages.filter (·.kind == .error)).map
        (fun message => Repair.ofIssue? (.ofMessage message)) =
      (pending handler text done).map some := by
  have hplain := plainPatches_ofRepairs hsound hdone
  have hleft :
      (asked handler text).filter (fun repair => !(Patches.ofRepairs done).contains repair) =
        pending handler text done := by
    refine List.filter_congr fun repair _ => ?_
    rw [Bool.eq_iff_iff, Bool.not_eq_true', decide_eq_true_eq, ← Bool.not_eq_true,
      Patches.contains_ofRepairs]
  rw [← hleft, asked, ← asks_render hplain hlast handler]
  exact checkLines_repairs (sound_render hplain hlast hsound) _ 1

theorem reply_of_pending_nil (h : pending handler text done = []) :
    (∃ json, (reply (Compiler.repairedCall text handler done)).result = .ok json) ∧
      ∀ message ∈ (reply (Compiler.repairedCall text handler done)).messages,
        (message.kind == .error) = false := by
  have herrors := errors_repaired hsound hlast hdone
  rw [h, List.map_nil, List.map_eq_nil_iff] at herrors
  constructor
  · rw [reply_result, herrors]
    exact ⟨_, rfl⟩
  · intro message hmessage
    exact Bool.not_eq_true _ ▸ List.filter_eq_nil_iff.mp herrors message hmessage

theorem reply_of_pending_cons {repair : Repair} {rest : List Repair}
    (h : pending handler text done = repair :: rest) :
    (∃ failure, (reply (Compiler.repairedCall text handler done)).result = .error failure) ∧
      (reply (Compiler.repairedCall text handler done)).repair? = some repair := by
  have herrors := errors_repaired hsound hlast hdone
  rw [h, List.map_cons] at herrors
  obtain ⟨message, messages, hfilter, hrepair, -⟩ := List.map_eq_cons_iff.mp herrors
  constructor
  · rw [reply_result, hfilter]
    exact ⟨_, rfl⟩
  · have hfirst : (reply (Compiler.repairedCall text handler done)).firstError? = some message := by
      simp only [CompileReply.firstError?, severity_eq_error_iff]
      rw [← List.head?_filter, hfilter, List.head?_cons]
    rw [CompileReply.repair?, hfirst, Option.bind_some, hrepair]

theorem healFrom_compiled (h : pending handler text done = []) (limit left : Nat)
    (sources : List String) :
    ∃ json issues, compiler.healFrom text handler limit left (.ofRepairs done) sources =
        (.compiled ⟨json, issues, .ofRepairs done⟩,
          (Patches.ofRepairs done).render text :: sources) ∧
      ∀ issue ∈ issues, issue.severity ≠ .error := by
  obtain ⟨⟨json, hresult⟩, hmessages⟩ := reply_of_pending_nil hsound hlast hdone h
  have hstep := compiler.healFrom_step text handler limit left done sources
  rcases hstep with ⟨healed, hends, heq⟩ | ⟨_, _, _, _, herror, _⟩
  · rw [hends.eq_compiled hresult] at heq
    exact ⟨json, _, heq, Compiler.issuesOf_severity text done hmessages⟩
  · cases hresult.symm.trans herror

theorem healFrom_exhausted {repair : Repair} {rest : List Repair}
    (h : pending handler text done = repair :: rest) (limit : Nat) (sources : List String) :
    ∃ issues raw, compiler.healFrom text handler limit 0 (.ofRepairs done) sources =
      (.failed issues (.ofRepairs done) (.exhausted limit raw),
        (Patches.ofRepairs done).render text :: sources) := by
  obtain ⟨⟨failure, hresult⟩, hask⟩ := reply_of_pending_cons hsound hlast hdone h
  have hstep := compiler.healFrom_step text handler limit 0 done sources
  rcases hstep with ⟨healed, hends, heq⟩ | ⟨less, _, _, hless, _⟩
  · obtain ⟨-, issues, raw, hfailed⟩ := hends.eq_exhausted hresult hask (not_mem_of_pending h)
    exact ⟨issues, raw, hfailed ▸ heq⟩
  · cases hless

theorem healFrom_repair {repair : Repair} {rest : List Repair}
    (h : pending handler text done = repair :: rest) (limit left : Nat) (sources : List String) :
    compiler.healFrom text handler limit (left + 1) (.ofRepairs done) sources =
      compiler.healFrom text handler limit left (.ofRepairs (done ++ [repair]))
        ((Patches.ofRepairs done).render text :: sources) := by
  obtain ⟨⟨failure, hresult⟩, hask⟩ := reply_of_pending_cons hsound hlast hdone h
  have hstep := compiler.healFrom_step text handler limit (left + 1) done sources
  rcases hstep with ⟨healed, hends, heq⟩ | ⟨less, _, next, hless, _, hnext, _, heq⟩
  · obtain ⟨hleft, -⟩ := hends.eq_exhausted hresult hask (not_mem_of_pending h)
    cases hleft
  · cases hless
    cases hask.symm.trans hnext
    exact heq

end Round

/-! ## Runs -/

section Run

variable {handler : Option FileHandler} {text : String}

theorem mem_asked_of_take {count : Nat} :
    ∀ repair ∈ (missing handler text).take count, repair ∈ asked handler text :=
  fun _ hrepair => List.mem_eraseDups.mp (List.mem_of_mem_take hrepair)

/-- The loop meets the missing repairs in their order. -/
theorem eraseDups_pending_take (handler : Option FileHandler) (text : String) {count : Nat}
    (h : count ≤ (missing handler text).length) :
    (pending handler text ((missing handler text).take count)).eraseDups =
      (missing handler text).drop count := by
  induction count with
  | zero =>
    rw [List.take_zero, pending_nil]
    rfl
  | succ count ih =>
    -- What is left starts with the repair that is made next, and making it drops it there.
    have hdrop := ih (Nat.le_of_succ_le h)
    rw [List.drop_eq_getElem_cons h] at hdrop
    obtain ⟨rest, hpending⟩ := head_of_eraseDups hdrop
    rw [eraseDups_pending hpending, List.take_append_getElem] at hdrop
    exact (List.cons.inj hdrop).2

theorem pending_take {count : Nat} (h : count < (missing handler text).length) :
    ∃ rest, pending handler text ((missing handler text).take count) =
      (missing handler text)[count] :: rest := by
  have hdrop := eraseDups_pending_take handler text (Nat.le_of_lt h)
  rw [List.drop_eq_getElem_cons h] at hdrop
  exact head_of_eraseDups hdrop

theorem pending_missing (handler : Option FileHandler) (text : String) :
    pending handler text (missing handler text) = [] := by
  refine List.filter_eq_nil_iff.mpr fun repair hrepair => ?_
  have hmem : repair ∈ missing handler text := List.mem_eraseDups.mpr hrepair
  simpa using hmem

variable (hsound : ∀ line ∈ lines text.toList, Sound handler line)
  (hlast : KeepsLastInclude text)
include hsound hlast

/-- Each round makes the next of the missing repairs. -/
theorem healFrom_take {count : Nat} (h : count ≤ (missing handler text).length)
    (limit left : Nat) (sources : List String) :
    ∃ calls, compiler.healFrom text handler limit (left + count) {} sources =
        compiler.healFrom text handler limit left
          (.ofRepairs ((missing handler text).take count)) (calls ++ sources) ∧
      calls.length = count := by
  induction count generalizing left with
  | zero => exact ⟨[], rfl, rfl⟩
  | succ count ih =>
    -- The rounds before spend one repair less, so one more is allowed after them.
    obtain ⟨calls, hcalls, hlength⟩ := ih (Nat.le_of_succ_le h) (left + 1)
    obtain ⟨rest, hpending⟩ := pending_take h
    refine ⟨(Patches.ofRepairs ((missing handler text).take count)).render text :: calls, ?_,
      congrArg (· + 1) hlength⟩
    rw [← Nat.add_assoc, Nat.add_right_comm, hcalls,
      healFrom_repair hsound hlast mem_asked_of_take hpending limit left (calls ++ sources),
      List.take_append_getElem]
    rfl

/-- With enough repairs allowed, the loop makes all of the missing ones. -/
theorem heal_compiled {limit : Nat} (h : (missing handler text).length ≤ limit)
    (sources : List String) :
    ∃ json issues calls, compiler.heal text handler limit sources =
        (.compiled ⟨json, issues, .ofRepairs (missing handler text)⟩, calls ++ sources) ∧
      calls.length = (missing handler text).length + 1 ∧
      ∀ issue ∈ issues, issue.severity ≠ .error := by
  obtain ⟨left, rfl⟩ := Nat.exists_eq_add_of_le' h
  obtain ⟨calls, hcalls, hlength⟩ := healFrom_take hsound hlast (Nat.le_refl _)
    (left + (missing handler text).length) left sources
  rw [List.take_length] at hcalls
  obtain ⟨json, issues, hlast, hissues⟩ := healFrom_compiled hsound hlast
    (fun repair hrepair => List.mem_eraseDups.mp hrepair) (pending_missing handler text)
    (left + (missing handler text).length) left (calls ++ sources)
  exact ⟨json, issues, _ :: calls, hcalls.trans hlast, congrArg (· + 1) hlength, hissues⟩

/-- With fewer repairs allowed, it makes as many as it may. -/
theorem heal_exhausted {limit : Nat} (h : limit < (missing handler text).length)
    (sources : List String) :
    ∃ issues raw calls, compiler.heal text handler limit sources =
        (.failed issues (.ofRepairs ((missing handler text).take limit)) (.exhausted limit raw),
          calls ++ sources) ∧
      calls.length = limit + 1 := by
  obtain ⟨calls, hcalls, hlength⟩ :=
    healFrom_take hsound hlast (Nat.le_of_lt h) limit 0 sources
  obtain ⟨rest, hpending⟩ := pending_take h
  obtain ⟨issues, raw, hlast⟩ := healFrom_exhausted hsound hlast mem_asked_of_take hpending limit
    (calls ++ sources)
  rw [Nat.zero_add] at hcalls
  exact ⟨issues, raw, _ :: calls, hcalls.trans hlast, congrArg (· + 1) hlength⟩

end Run

/-- A text in which nothing but names is missing, that is, the word BROKEN stands on authors' notes
    only and every include can be loaded, is repaired by one declaration for each undeclared name
    and one stub for each unknown target, in the order in which they occur first, and not by more.
    There is one call for each repair and a last one. If not as many repairs are allowed, the loop
    ends after as many as are. -/
theorem heal_adds_missing_names (text : String) (handler : Option FileHandler) (limit : Nat)
    (sources : List String)
    (hbroken : ∀ line ∈ lines text.toList, isTodo line = false →
      occursIn "BROKEN".toList line = false)
    (hloads : ∀ line ∈ lines text.toList, ∀ name, include? line = some name →
      ∃ files included, handler = some files ∧ files.included? name = some included)
    (hlast : ¬ EndsInBareInclude text) :
    ((undeclared handler text).length + (unknown handler text).length ≤ limit →
      ∃ json issues calls,
        compiler.healStory text handler limit sources =
          (.ok ⟨json, issues, ⟨unknown handler text, undeclared handler text⟩⟩,
            calls ++ sources) ∧
        calls.length = (undeclared handler text).length + (unknown handler text).length + 1 ∧
        ∀ issue ∈ issues, issue.severity ≠ .error) ∧
    (limit < (undeclared handler text).length + (unknown handler text).length →
      ∃ issues patches raw calls,
        compiler.heal text handler limit sources =
          (.failed issues patches (.exhausted limit raw), calls ++ sources) ∧
        compiler.healStory text handler limit sources =
          (.error (.exhausted limit raw), calls ++ sources) ∧
        patches.count = limit ∧ calls.length = limit + 1) := by
  have hsound : ∀ line ∈ lines text.toList, Sound handler line := by
    intro line hline htodo
    refine ⟨hbroken line hline htodo, fun name hname => ?_⟩
    obtain ⟨files, included, rfl, hincluded⟩ := hloads line hline name hname
    rw [Option.any_some, hincluded, Option.isSome_some]
  -- The names that are missing, each counted once, are those of the repairs that are asked for.
  rw [← length_missing, ← ofRepairs_missing]
  constructor
  · intro hle
    obtain ⟨json, issues, calls, hheal, hlength, hissues⟩ :=
      heal_compiled hsound (keepsLastInclude_of_not_bare hlast) hle sources
    refine ⟨json, issues, calls, ?_, hlength, hissues⟩
    rw [Compiler.healStory, hheal]
  · intro hlt
    obtain ⟨issues, raw, calls, hheal, hlength⟩ :=
      heal_exhausted hsound (keepsLastInclude_of_not_bare hlast) hlt sources
    refine ⟨issues, _, raw, calls, hheal, ?_, ?_, hlength⟩
    · rw [Compiler.healStory, hheal]
    · rw [Patches.count_ofRepairs, List.length_take, Nat.min_eq_left (Nat.le_of_lt hlt)]

theorem loads_of_all {files : FileHandler} {ls : List (List Char)}
    (h : ∀ line ∈ ls, (include? line).all (fun name => (files.included? name).isSome) = true) :
    ∀ line ∈ ls, ∀ name, include? line = some name →
      ∃ others included, some files = some others ∧ others.included? name = some included := by
  intro line hline name hname
  have hall := h line hline
  rw [hname, Option.all_some] at hall
  obtain ⟨included, hincluded⟩ := Option.isSome_iff_exists.mp hall
  exact ⟨files, included, rfl, hincluded⟩

namespace MissingNames

/-- Two texts that declare a knot each. They go by their names as these are written, so one of them has
    a name that would be the other's in a folder tree. -/
def files : FileHandler where
  resolve name := name
  load name :=
    if name = "b.ink" then .ok "=== b ===\n"
    else if name = "x/../b.ink" then .ok "=== c ===\n"
    else .error .notFound
  depth := 1

/-- A text that includes both, and lacks one knot and one variable. -/
def text : String :=
  "\x7bx\x7d -> a\nINCLUDE b.ink\nINCLUDE x/../b.ink\n-> b\n-> c\n-> a \x7bx\x7d"

/-- Two repairs are enough and one is not, although each name is missing twice. -/
theorem heal_adds_both :
    (∀ line ∈ lines text.toList, isTodo line = false → occursIn "BROKEN".toList line = false) ∧
      (∀ line ∈ lines text.toList, ∀ name, include? line = some name →
        ∃ others included, some files = some others ∧ others.included? name = some included) ∧
      ¬ EndsInBareInclude text ∧
      (∃ json issues calls, compiler.healStory text (some files) 2 [] =
          (.ok ⟨json, issues, ⟨["a"], ["x"]⟩⟩, calls) ∧
        calls.length = 3 ∧ ∀ issue ∈ issues, issue.severity ≠ .error) ∧
      ∃ raw calls, compiler.healStory text (some files) 1 [] =
        (.error (.exhausted 1 raw), calls) ∧ calls.length = 2 := by
  have hbroken : ∀ line ∈ lines text.toList,
      isTodo line = false → occursIn "BROKEN".toList line = false := by decide +kernel
  have hloads : ∀ line ∈ lines text.toList, ∀ name, include? line = some name →
      ∃ others included, some files = some others ∧ others.included? name = some included :=
    loads_of_all (by decide +kernel)
  have hlast : ¬ EndsInBareInclude text := by
    rintro ⟨blank, -, hbare⟩
    have hhead : (trimLeft (lastPiece text.toList)).head? = some 'I' := congrArg List.head? hbare
    revert hhead
    decide +kernel
  have hundeclared : undeclared (some files) text = ["x"] := by decide +kernel
  have hunknown : unknown (some files) text = ["a"] := by decide +kernel
  obtain ⟨htwo, -⟩ := heal_adds_missing_names text (some files) 2 [] hbroken hloads hlast
  obtain ⟨-, hone⟩ := heal_adds_missing_names text (some files) 1 [] hbroken hloads hlast
  rw [hundeclared, hunknown] at htwo hone
  obtain ⟨json, issues, calls, hheal, hlength, hissues⟩ := htwo (by decide)
  obtain ⟨-, -, raw, calls', -, hfailed, -, hlength'⟩ := hone (by decide)
  rw [List.append_nil] at hheal hfailed
  exact ⟨hbroken, hloads, hlast, ⟨json, issues, calls, hheal, hlength, hissues⟩, raw, calls',
    hfailed, hlength'⟩

end MissingNames

namespace BareInclude

/-- A text is loaded for the root folder itself, which is what an empty name stands for. -/
def files : FileHandler :=
  .ofFiles .root ⟨[(.root, "=== b ===\n")]⟩ .empty

/-- The last line includes the empty name as long as the carriage return is part of it. -/
def text : String := "-> a\n-> b\nINCLUDE \r"

/-- One target is unknown, but the stub for it ends the last line, which then includes nothing any
    more, so that the knot from there is missing too. -/
theorem bare_include_takes_more :
    (∀ line ∈ lines text.toList, isTodo line = false → occursIn "BROKEN".toList line = false) ∧
      (∀ line ∈ lines text.toList, ∀ name, include? line = some name →
        ∃ others included, some files = some others ∧ others.included? name = some included) ∧
      undeclared (some files) text = [] ∧ unknown (some files) text = ["a"] ∧
      (compiler.healStory text (some files) 5 []).1.toOption.map (·.patches) =
        some ⟨["a", "b"], []⟩ ∧
      (compiler.healStory text (some files) 5 []).2.length = 3 :=
  ⟨by decide +kernel, loads_of_all (by decide +kernel), by decide +kernel, by decide +kernel,
    by decide +kernel, by decide +kernel⟩

end BareInclude
end Mini

end InkWorkspace
