import InkWorkspace.Compiler.Basic
import InkWorkspace.Settings.Basic

/- Compiling with repairs. Stories may divert to labels and read variables that the host
   application provides at run time, which the compiler rejects. When the first error of a run is a
   missing divert target, a stub knot is appended; when it is an unresolved variable, a declaration
   is put in front; then the text is compiled again. Anything else ends the loop, and so does a
   repair that has been made before or that exceeds the limit. -/
namespace InkWorkspace

open Text

/-- What can be added to a text to mend its first error. -/
inductive Repair where
  | stubKnot (name : String)
  | declareVariable (name : String)
  deriving Repr, DecidableEq

namespace Repair

/-- The word behind the first occurrence of `lead` that a word and `close` follow. -/
def wordBetween? (lead close : List Char) : List Char → Option String
  | [] => none
  | c :: cs =>
    let found : Option String := do
      let rest ← dropWord? lead (c :: cs)
      let word := rest.takeWhile isWord
      if word.isEmpty then none
      let _ ← dropWord? close (rest.dropWhile isWord)
      return String.ofList word
    found <|> wordBetween? lead close cs

/-- The repair that an issue asks for. -/
def ofIssue? (issue : Issue) : Option Repair :=
  let text := issue.message.toList
  (wordBetween? "Divert target not found: '-> ".toList ['\''] text).map stubKnot <|>
    (wordBetween? "Unresolved variable: ".toList [] text).map declareVariable

end Repair

/-- The names that repairs have added, in order. -/
structure Patches where
  knots : List String := []
  globals : List String := []
  deriving Repr, DecidableEq

namespace Patches

/-- Whether a repair has been made. -/
def contains (patches : Patches) : Repair → Bool
  | .stubKnot name => patches.knots.contains name
  | .declareVariable name => patches.globals.contains name

/-- The patches with one more repair. -/
def apply (patches : Patches) : Repair → Patches
  | .stubKnot name => { patches with knots := patches.knots ++ [name] }
  | .declareVariable name => { patches with globals := patches.globals ++ [name] }

/-- Number of repairs. -/
def count (patches : Patches) : Nat :=
  patches.knots.length + patches.globals.length

/-- Whether there is no repair. -/
def isEmpty (patches : Patches) : Bool :=
  patches.knots.isEmpty && patches.globals.isEmpty

/-- The declaration that is put in front of a text. -/
def declaration (name : String) : String :=
  "VAR " ++ name ++ " = \"\"\n\n"

/-- The knot that is appended to a text. -/
def stub (name : String) : String :=
  "\n\n=== " ++ name ++ " ===\n\n-> DONE"

/-- The text with its repairs: the newest declaration on top, the newest stub at the end. -/
def render (patches : Patches) (text : String) : String :=
  String.join (patches.globals.reverse.map declaration) ++ text ++
    String.join (patches.knots.map stub)

/-- Number of lines in front of the author's text. -/
def linesAbove (patches : Patches) : Nat :=
  2 * patches.globals.length

/-- Maps an issue of the repaired text back to the author's text. An issue inside an addition is
    dropped. -/
def mapIssue? (patches : Patches) (text : String) (issue : Issue) : Option Issue :=
  match issue.line with
  | none => some issue
  | some line =>
    let above := patches.linesAbove
    let count := max 1 (lines text.toList).length
    if line ≤ above || line - above > count then none
    else some { issue with line := some (line - above) }

/-- The issues of the repaired text that concern the author's text. -/
def mapIssues (patches : Patches) (text : String) (issues : List Issue) : List Issue :=
  issues.filterMap (patches.mapIssue? text)

end Patches

/-- A compiled story with the issues reported on the way and the repairs it took. -/
structure HealedStory where
  json : String
  issues : List Issue
  patches : Patches
  deriving Repr, DecidableEq

/-- How a compile with repairs ends. -/
inductive Healed where
  | compiled (story : HealedStory)
  | failed (issues : List Issue) (patches : Patches) (error : CompileError)
  deriving Repr, DecidableEq

/-- The issues of a compile with repairs, and the repairs. -/
structure HealedIssues where
  issues : List Issue
  patches : Patches
  deriving Repr, DecidableEq

namespace Compiler

variable {σ : Type}

/-- What the failed attempt on a text with patches calls for: an end, or one more repair. -/
def nextRepair (attempt : Attempt) (failure : CompileFailure) (patches : Patches) :
    Except CompileError (Repair × String) :=
  match attempt.issues.find? (·.severity == .error) with
  | none => .error (.failed failure)
  | some first =>
    let raw := attempt.rawErrors.headD first.message
    match Repair.ofIssue? first with
    | none => .error (.rejected raw)
    | some repair =>
      if patches.contains repair then .error (.rejected raw) else .ok (repair, raw)

/-- Compiles a text with patches and goes on repairing; `left` more repairs are allowed. -/
def healFrom (compiler : Compiler σ) (text : String) (handler : Option FileHandler) (limit : Nat) :
    (left : Nat) → Patches → σ → Healed × σ
  | left, patches, s =>
    let (attempt, s) := compiler.attempt (patches.render text) handler s
    let issues := patches.mapIssues text attempt.issues
    match attempt.result with
    | .ok json => (.compiled ⟨json, issues, patches⟩, s)
    | .error failure =>
      match nextRepair attempt failure patches with
      | .error error => (.failed issues patches error, s)
      | .ok (repair, raw) =>
        match left with
        | 0 => (.failed issues patches (.exhausted limit raw), s)
        | left + 1 => healFrom compiler text handler limit left (patches.apply repair) s

/-- Compiles a text with at most `limit` repairs. -/
def heal (compiler : Compiler σ) (text : String) (handler : Option FileHandler) (limit : Nat)
    (s : σ) : Healed × σ :=
  compiler.healFrom text handler limit limit {} s

/-- The issues of a text after repairs. If the limit was reached, an issue about the whole file
    says so. -/
def healIssues (compiler : Compiler σ) (text : String) (handler : Option FileHandler)
    (limit : Nat) (s : σ) : HealedIssues × σ :=
  match compiler.heal text handler limit s with
  | (.compiled story, s) => (⟨story.issues, story.patches⟩, s)
  | (.failed issues patches error, s) =>
    match error with
    | .exhausted _ _ => (⟨issues ++ [⟨.error, error.message, none⟩], patches⟩, s)
    | _ => (⟨issues, patches⟩, s)

/-- The story of a text after repairs. -/
def healStory (compiler : Compiler σ) (text : String) (handler : Option FileHandler)
    (limit : Nat) (s : σ) : Except CompileError HealedStory × σ :=
  match compiler.heal text handler limit s with
  | (.compiled story, s) => (.ok story, s)
  | (.failed _ _ error, s) => (.error error, s)

/-- The story of a text, compiled the way the configured engine does it. -/
def compileWith (compiler : Compiler σ) (settings : Settings) (text : String)
    (handler : Option FileHandler) (s : σ) : Except CompileError HealedStory × σ :=
  match settings.engine with
  | .ink =>
    let (attempt, s) := compiler.attempt text handler s
    match attempt.result with
    | .ok json => (.ok ⟨json, attempt.issues, {}⟩, s)
    | .error failure => (.error (attempt.rejection failure), s)
  | .pixiVn => compiler.healStory text handler settings.maxRepairs s

/-- The issues of a text, found the way the configured engine does it. -/
def issuesWith (compiler : Compiler σ) (settings : Settings) (text : String)
    (handler : Option FileHandler) (s : σ) : List Issue × σ :=
  match settings.engine with
  | .ink => compiler.collectIssues text handler s
  | .pixiVn =>
    let (healed, s) := compiler.healIssues text handler settings.maxRepairs s
    (healed.issues, s)

end Compiler

end InkWorkspace
