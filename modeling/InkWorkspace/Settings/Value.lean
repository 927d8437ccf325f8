import InkWorkspace.Json.Basic
import InkWorkspace.Text.Lower
import InkWorkspace.Text.Shown

/- Values of configuration sources, and what they are accepted as. A value remembers the file it
   came from, for the error message. Kinds are converted freely where the text is plain: `"off"` is
   a truth value and `"7"` a number. -/
namespace InkWorkspace.Settings

open Text

/-- A configuration value; a leaf knows the file it was read from. -/
inductive Value where
  | null (origin : Option String)
  | bool (value : Bool) (origin : Option String)
  | int (value : Int) (origin : Option String)
  | double (value : Double) (origin : Option String)
  | infinite (negative : Bool) (origin : Option String)
  | notANumber (origin : Option String)
  | str (value : String) (origin : Option String)
  | list (origin : Option String)
  | table (members : List (String × Value)) (origin : Option String)
  deriving Repr

/-- Why a value is not accepted. -/
inductive ValueError where
  /-- The value has the wrong type. -/
  | type (found expected key : String) (origin : Option String)
  /-- No variant of the enumeration has this name. -/
  | noVariant (enumeration name : String)
  /-- The value cannot name a variant. -/
  | notVariant (enumeration : String)
  /-- A source cannot be read. -/
  | unreadable (detail : String)
  /-- The path of the workspace folder is no text. -/
  | folderNotText
  deriving Repr, DecidableEq

namespace ValueError

/-- The error in words. -/
def message : ValueError → String
  | type found expected key origin =>
    "invalid type: " ++ found ++ ", expected " ++ expected ++ " for key `" ++ key ++ "`" ++
      (match origin with
        | some file => " in " ++ file
        | none => "")
  | noVariant enumeration name =>
    "enum " ++ enumeration ++ " does not have variant constructor " ++ name
  | notVariant enumeration =>
    "value of enum " ++ enumeration ++
      " should be represented by either string or table with exactly one key"
  | unreadable detail => "Build err: " ++ detail
  | folderNotText => "Can't convert root_dir to str"

end ValueError

namespace Value

/-- The file a value was read from. -/
def origin : Value → Option String
  | null o | bool _ o | int _ o | double _ o | infinite _ o | notANumber o | str _ o | list o
  | table _ o => o

/-- The value as it is printed, if it is a number or a truth value. -/
def printed? : Value → Option String
  | bool b _ => some (toString b)
  | int n _ => some (toString n)
  | double d _ => some d.renderPlain
  | infinite negative _ => some (if negative then "-inf" else "inf")
  | notANumber _ => some "NaN"
  | _ => none

/-- What an error message calls a value that is no plain text or number. -/
def kindName : Value → String
  | null _ => "unit value"
  | list _ => "sequence"
  | table _ _ => "map"
  | bool b _ => "boolean `" ++ toString b ++ "`"
  | int n _ => "64-bit integer `" ++ toString n ++ "`"
  | str s _ => shown s
  | value => "floating point `" ++ value.printed?.getD "" ++ "`"

/-- The error that `expected` was wanted for `key`. -/
def mismatch (value : Value) (expected key : String) : ValueError :=
  .type value.kindName expected key value.origin

/-- A truth value: itself, a number other than zero, or one of the usual words. -/
def asBool (key : String) (value : Value) : Except ValueError Bool :=
  match value with
  | bool b _ => .ok b
  | int n _ => .ok (n ≠ 0)
  | double d _ => .ok (d.mantissa ≠ 0)
  | infinite _ _ | notANumber _ => .ok true
  | str s origin =>
    let word := lower s
    if ["1", "true", "on", "yes"].contains word then .ok true
    else if ["0", "false", "off", "no"].contains word then .ok false
    else .error (.type (shown word) "a boolean" key origin)
  | _ => .error (value.mismatch "a boolean" key)

/-- The largest number that fits 64 bits. -/
def countLimit : Nat := Nat.pow 2 64 - 1

/-- A decimal count that fits 64 bits, with an optional plus sign. -/
def countOf? (text : String) : Option Nat :=
  let digits := match text.toList with
    | '+' :: rest => rest
    | all => all
  if digits.isEmpty || digits.any (fun c => !c.isDigit) then none
  else
    let n := digits.foldl (fun n c => 10 * n + (c.toNat - '0'.toNat)) 0
    if n ≤ countLimit then some n else none

/-- A count: a whole number that is not negative, a rounded fraction, a truth value or a text that
    says one of these. -/
def asCount (key : String) (value : Value) : Except ValueError Nat :=
  match value with
  | int n _ =>
    if n < 0 then .error (value.mismatch "an unsigned 64 bit or less integer" key)
    else .ok n.toNat
  | double d _ => .ok (min d.round.toNat countLimit)
  | infinite negative _ => .ok (if negative then 0 else countLimit)
  | notANumber _ => .ok 0
  | bool b _ => .ok (if b then 1 else 0)
  | str s _ =>
    let word := lower s
    if ["true", "on", "yes"].contains word then .ok 1
    else if ["false", "off", "no"].contains word then .ok 0
    else match countOf? s with
      | some n => .ok n
      | none => .error (value.mismatch "an integer" key)
  | _ => .error (value.mismatch "an integer" key)

/-- A text: itself, or a number or truth value as it is printed. -/
def asText (key : String) (value : Value) : Except ValueError String :=
  match value, value.printed? with
  | str s _, _ => .ok s
  | _, some text => .ok text
  | _, none => .error (value.mismatch "a string" key)

/-- A text that may be absent: `null` means absent. -/
def asText? (key : String) (value : Value) : Except ValueError (Option String) :=
  match value with
  | null _ => .ok none
  | value => (value.asText key).map some

/-- One of the named variants, in any case, given as a text or as the only key of a table. -/
def asVariant {α : Type} (enumeration : String) (variants : List (String × α)) (value : Value) :
    Except ValueError α :=
  let find (name : String) : Except ValueError α :=
    match variants.find? fun (variant, _) => lower variant == lower name with
    | some (_, a) => .ok a
    | none => .error (.noVariant enumeration name)
  match value with
  | str s _ => find s
  | table [(name, _)] _ => find name
  | _ => .error (.notVariant enumeration)

end Value

end InkWorkspace.Settings
