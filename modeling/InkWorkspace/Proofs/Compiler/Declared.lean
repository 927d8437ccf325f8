import InkWorkspace.Compiler.Mini
import InkWorkspace.Proofs.Compiler.Handler

/- What the miniature compiler takes for declared. Includes are followed to some depth, which does not
   matter if it has room for all names that may still be new (`declareTo_depth`), as that of a project's
   files has (`declareTo_ofFiles`). What is declared beforehand does not matter either: it is added to
   whatever a text declares (`Extends.declareTo`). -/
namespace InkWorkspace

open Text

namespace Mini

variable {handler : Option FileHandler}

/-! ## One line -/

/-- What a line declares itself, and the text of its include if the name is new. -/
def enter (handler : Option FileHandler) (line : List Char) (declared : Declared) :
    Declared × Option String :=
  let knots := (header? line).elim declared.knots (addNew · declared.knots)
  let globals := (declared? line).elim declared.globals (addNew · declared.globals)
  match include? line, handler with
  | some name, some handler =>
    if declared.seen.contains name then (⟨knots, globals, declared.seen⟩, none)
    else (⟨knots, globals, declared.seen ++ [name]⟩, handler.included? name)
  | _, _ => (⟨knots, globals, declared.seen⟩, none)

theorem declareLine_eq (nested : String → Declared → Declared) (line : List Char)
    (declared : Declared) : declareLine handler nested line declared =
      (enter handler line declared).2.elim (enter handler line declared).1
        (nested · (enter handler line declared).1) := by
  unfold declareLine enter
  cases header? line <;> cases declared? line <;> cases include? line <;> cases handler <;>
    simp only [Option.elim]
  -- What is left is an include with a handler at hand.
  all_goals
    next name files =>
    split
    · rfl
    · cases files.included? name <;> rfl

theorem enter_seen (handler : Option FileHandler) (line : List Char) (declared : Declared) :
    ∀ name ∈ declared.seen, name ∈ (enter handler line declared).1.seen := by
  intro name hname
  unfold enter
  dsimp only
  split
  · split
    · exact hname
    · exact List.mem_append_left _ hname
  · exact hname

theorem enter_text {line : List Char} {declared : Declared} {text : String}
    (h : (enter handler line declared).2 = some text) :
    ∃ name files, include? line = some name ∧ handler = some files ∧ name ∉ declared.seen ∧
      files.included? name = some text ∧
      (enter handler line declared).1.seen = declared.seen ++ [name] := by
  unfold enter at h ⊢
  dsimp only at h ⊢
  split at h
  · next name files hname =>
    split at h
    · cases h
    · next hnew =>
      rw [if_neg hnew]
      exact ⟨name, files, hname, rfl, by simpa using hnew, h, rfl⟩
  · cases h

/-! ## Lines and texts -/

/-- Adds what lines declare, one after the other. -/
def declareLines (handler : Option FileHandler) (nested : String → Declared → Declared)
    (ls : List (List Char)) (declared : Declared) : Declared :=
  ls.foldl (fun declared line => declareLine handler nested line declared) declared

theorem declareLines_cons (nested : String → Declared → Declared) (line : List Char)
    (ls : List (List Char)) (declared : Declared) :
    declareLines handler nested (line :: ls) declared =
      declareLines handler nested ls (declareLine handler nested line declared) := rfl

theorem declareTo_succ (depth : Nat) (text : String) (declared : Declared) :
    declareTo handler (depth + 1) text declared =
      declareLines handler (declareTo handler depth) (lines text.toList) declared := rfl

theorem declareLine_seen (handler : Option FileHandler) {nested : String → Declared → Declared}
    (hnested : ∀ text declared, ∀ name ∈ declared.seen, name ∈ (nested text declared).seen)
    (line : List Char) (declared : Declared) :
    ∀ name ∈ declared.seen, name ∈ (declareLine handler nested line declared).seen := by
  intro name hname
  have hentered := enter_seen handler line declared name hname
  rw [declareLine_eq]
  cases (enter handler line declared).2 with
  | none => exact hentered
  | some text => exact hnested text _ name hentered

theorem declareTo_seen (handler : Option FileHandler) (depth : Nat) (text : String)
    (declared : Declared) :
    ∀ name ∈ declared.seen, name ∈ (declareTo handler depth text declared).seen := by
  induction depth generalizing text declared with
  | zero => exact fun _ hname => hname
  | succ depth ih =>
    rw [declareTo_succ]
    generalize lines text.toList = ls
    induction ls generalizing declared with
    | nil => exact fun _ hname => hname
    | cons line ls ihls =>
      intro name hname
      exact ihls _ name (declareLine_seen handler ih line declared name hname)

/-- The names that lines include. -/
def includeNames (ls : List (List Char)) : List String :=
  ls.filterMap include?

theorem mem_includeNames_cons {line : List Char} {ls : List (List Char)} {name : String} :
    name ∈ includeNames (line :: ls) ↔ include? line = some name ∨ name ∈ includeNames ls := by
  simp [includeNames, or_and_right, exists_or]

theorem declareLines_congr {bound : List String} {nested other : String → Declared → Declared}
    {depth more : Nat}
    (hnested : ∀ {files name text declared}, handler = some files →
      files.included? name = some text → Include.fresh bound declared.seen < depth →
        Include.fresh bound declared.seen < more → nested text declared = other text declared)
    (hseen : ∀ text declared, ∀ name ∈ declared.seen, name ∈ (nested text declared).seen)
    {ls : List (List Char)} {declared : Declared}
    (hdepth : HasRoom bound depth declared.seen (includeNames ls))
    (hmore : HasRoom bound more declared.seen (includeNames ls)) :
    declareLines handler nested ls declared = declareLines handler other ls declared := by
  induction ls generalizing declared with
  | nil => rfl
  | cons line ls ih =>
    -- A line goes into another text only by a new name, so with fewer names left on both sides.
    have hline : declareLine handler nested line declared =
        declareLine handler other line declared := by
      rw [declareLine_eq, declareLine_eq]
      cases hentered : (enter handler line declared).2 with
      | none => rfl
      | some included =>
        obtain ⟨name, files, hname, hfiles, hnew, hincluded, hmet⟩ := enter_text hentered
        have hmem : name ∈ includeNames (line :: ls) := mem_includeNames_cons.mpr (Or.inl hname)
        refine hnested hfiles hincluded ?_ ?_
        · rw [hmet]
          exact hdepth name hmem hnew
        · rw [hmet]
          exact hmore name hmem hnew
    have hgrows := declareLine_seen handler hseen line declared
    have htail : ∀ name ∈ includeNames ls, name ∈ includeNames (line :: ls) :=
      fun name hname => mem_includeNames_cons.mpr (Or.inr hname)
    rw [declareLines_cons, declareLines_cons, ← hline]
    exact ih (hdepth.mono hgrows htail) (hmore.mono hgrows htail)

/-- Depths that have room for all names that may still be new make no difference. -/
theorem declareTo_depth {bound : List String}
    (hbound : ∀ files, handler = some files → ∀ name text, files.included? name = some text →
      ∀ other ∈ includeNames (lines text.toList), other ∈ bound)
    {depth more : Nat} {text : String} {declared : Declared}
    (hdepth : HasRoom bound depth declared.seen (includeNames (lines text.toList)))
    (hmore : HasRoom bound more declared.seen (includeNames (lines text.toList))) :
    declareTo handler (depth + 1) text declared = declareTo handler (more + 1) text declared := by
  induction depth generalizing more text declared with
  | zero =>
    refine declareLines_congr ?_ (declareTo_seen handler 0) hdepth hmore
    exact fun _ _ hless _ => absurd hless (Nat.not_lt_zero _)
  | succ depth ih =>
    refine declareLines_congr ?_ (declareTo_seen handler (depth + 1)) hdepth hmore
    intro files name included declared hfiles hincluded hless hless'
    cases more with
    | zero => exact absurd hless' (Nat.not_lt_zero _)
    | succ more =>
      have hnames := hbound files hfiles name included hincluded
      exact ih (hasRoom_of_fresh_le hnames (Nat.le_of_lt_succ hless))
        (hasRoom_of_fresh_le hnames (Nat.le_of_lt_succ hless'))

/-- To follow the includes of a project's files deeper declares nothing more. -/
theorem declareTo_ofFiles (root : Path) (texts : PathMap String) (disk : Disk) (text : String)
    {depth : Nat} (h : (FileHandler.ofFiles root texts disk).depth ≤ depth) :
    declareTo (some (.ofFiles root texts disk)) (depth + 1) text ⟨[], [], []⟩ =
      declarations (some (.ofFiles root texts disk)) text := by
  have hroom := FileHandler.hasRoom_ofFiles root texts disk include? []
    (includeNames (lines text.toList))
  refine declareTo_depth ?_ (fun name hname hnew => Nat.lt_of_lt_of_le (hroom name hname hnew) h)
    hroom
  intro files hfiles name included hincluded other hother
  cases hfiles
  exact FileHandler.mem_findings hincluded hother

/-! ## Names that are declared besides -/

theorem mem_addNew {name item : String} {items : List String} :
    name ∈ addNew item items ↔ name ∈ items ∨ name = item := by
  unfold addNew
  split
  · next hmem =>
    rw [List.contains_iff_mem] at hmem
    constructor
    · exact Or.inl
    · rintro (h | rfl)
      · exact h
      · exact hmem
  · simp

/-- The second declares what the first does and the given names besides, after the same includes. -/
structure Extends (knots globals : List String) (base more : Declared) : Prop where
  knots_iff (name : String) : name ∈ more.knots ↔ name ∈ base.knots ∨ name ∈ knots
  globals_iff (name : String) : name ∈ more.globals ↔ name ∈ base.globals ∨ name ∈ globals
  seen_eq : more.seen = base.seen

namespace Extends

variable {knots globals : List String} {base more : Declared}

theorem refl (declared : Declared) : Extends [] [] declared declared := by
  constructor <;> simp

theorem trans {knots' globals' : List String} {most : Declared}
    (h : Extends knots globals base more) (h' : Extends knots' globals' more most) :
    Extends (knots ++ knots') (globals ++ globals') base most where
  knots_iff name := by rw [h'.knots_iff, h.knots_iff, List.mem_append, or_assoc]
  globals_iff name := by rw [h'.globals_iff, h.globals_iff, List.mem_append, or_assoc]
  seen_eq := h'.seen_eq.trans h.seen_eq

theorem enter (h : Extends knots globals base more) (handler : Option FileHandler)
    (line : List Char) :
    Extends knots globals (Mini.enter handler line base).1 (Mini.enter handler line more).1 ∧
      (Mini.enter handler line more).2 = (Mini.enter handler line base).2 := by
  have hknots (name : String) :
      name ∈ (header? line).elim more.knots (addNew · more.knots) ↔
        name ∈ (header? line).elim base.knots (addNew · base.knots) ∨ name ∈ knots := by
    cases header? line with
    | none => exact h.knots_iff name
    | some item => simp only [Option.elim, mem_addNew, h.knots_iff, or_right_comm]
  have hglobals (name : String) :
      name ∈ (declared? line).elim more.globals (addNew · more.globals) ↔
        name ∈ (declared? line).elim base.globals (addNew · base.globals) ∨ name ∈ globals := by
    cases declared? line with
    | none => exact h.globals_iff name
    | some item => simp only [Option.elim, mem_addNew, h.globals_iff, or_right_comm]
  unfold Mini.enter
  dsimp only
  rw [h.seen_eq]
  split
  · split
    · exact ⟨⟨hknots, hglobals, rfl⟩, rfl⟩
    · exact ⟨⟨hknots, hglobals, rfl⟩, rfl⟩
  · exact ⟨⟨hknots, hglobals, rfl⟩, rfl⟩

theorem declareLines {nested : String → Declared → Declared}
    (hnested : ∀ text {base more}, Extends knots globals base more →
      Extends knots globals (nested text base) (nested text more))
    (h : Extends knots globals base more) (handler : Option FileHandler) (ls : List (List Char)) :
    Extends knots globals (Mini.declareLines handler nested ls base)
      (Mini.declareLines handler nested ls more) := by
  induction ls generalizing base more with
  | nil => exact h
  | cons line ls ih =>
    obtain ⟨hentered, htext⟩ := h.enter handler line
    rw [declareLines_cons, declareLines_cons]
    refine ih ?_
    rw [declareLine_eq, declareLine_eq, htext]
    cases (Mini.enter handler line base).2 with
    | none => exact hentered
    | some text => exact hnested text hentered

/-- Names that are declared beforehand are added to what a text declares. -/
theorem declareTo (h : Extends knots globals base more) (handler : Option FileHandler)
    (depth : Nat) (text : String) :
    Extends knots globals (Mini.declareTo handler depth text base)
      (Mini.declareTo handler depth text more) := by
  induction depth generalizing text base more with
  | zero => exact h
  | succ depth ih => exact declareLines (fun text _ _ hnested => ih hnested text) h handler _

end Extends

theorem extends_plain (handler : Option FileHandler) (nested : String → Declared → Declared)
    {ls : List (List Char)} (h : ∀ line ∈ ls, include? line = none) (declared : Declared) :
    Extends (ls.filterMap header?) (ls.filterMap declared?) declared
      (declareLines handler nested ls declared) := by
  induction ls generalizing declared with
  | nil => exact .refl declared
  | cons line ls ih =>
    have hline : Extends (header? line).toList (declared? line).toList declared
        (declareLine handler nested line declared) := by
      simp only [declareLine_eq, enter, h line List.mem_cons_self, Option.elim_none]
      constructor
      · intro name
        cases header? line <;> simp [mem_addNew]
      · intro name
        cases declared? line <;> simp [mem_addNew]
      · rfl
    have hrest := hline.trans (ih (fun other hother => h other (List.mem_cons_of_mem line hother))
      (declareLine handler nested line declared))
    rw [declareLines_cons]
    cases hheader : header? line <;> cases hdeclared : declared? line <;>
      simpa [hheader, hdeclared] using hrest

end Mini

end InkWorkspace
