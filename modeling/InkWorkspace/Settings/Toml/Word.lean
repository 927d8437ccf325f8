import InkWorkspace.Settings.Toml.Quoted
import InkWorkspace.Settings.Value

/- Values of TOML files that are written without quotes: truth values, numbers, dates and times. A
   date or a time is a text in its normal form. -/
namespace InkWorkspace.Settings.Toml

open Text

/-- Digits with single underscores between them. -/
def plainDigits? (isDigit : Char → Bool) (cs : List Char) : Option (List Char) :=
  let pieces := splitOn '_' cs
  if pieces.all fun piece => !piece.isEmpty && piece.all isDigit then some pieces.flatten
  else none

/-- The value of digits of some base. -/
def valueOf (base : Nat) (digits : List Char) : Nat :=
  let digit (c : Char) : Nat :=
    if c.isDigit then c.toNat - '0'.toNat else c.toLower.toNat - 'a'.toNat + 10
  digits.foldl (fun n c => base * n + digit c) 0

/-- Splits off a sign. -/
def signOf : List Char → Bool × List Char
  | '-' :: cs => (true, cs)
  | '+' :: cs => (false, cs)
  | cs => (false, cs)

/-- Whether a run of digits starts with a zero that says nothing. -/
def hasIdleZero (digits : List Char) : Bool :=
  digits.length > 1 && digits.head? == some '0'

/-- An integer, if it fits 64 bits. -/
def integer? (origin : Option String) (n : Int) : Option Value :=
  if -(Nat.pow 2 63 : Int) ≤ n && n < Nat.pow 2 63 then some (.int n origin) else none

/-- An integer in digits of another base than ten, behind its mark. -/
def basedInteger? (origin : Option String) (base : Nat) (cs : List Char) : Option Value := do
  let isDigit (c : Char) : Bool :=
    (c.isDigit || ('a' ≤ c.toLower && c.toLower ≤ 'f')) && valueOf base [c] < base
  integer? origin (valueOf base (← plainDigits? isDigit cs))

/-- A whole number or a fraction. A fraction that is too large is refused, but one that is too far
    below zero is infinite. -/
def decimal? (origin : Option String) (cs : List Char) : Option Value := do
  let (negative, body) := signOf cs
  let mantissa := body.takeWhile fun c => c ≠ 'e' && c ≠ 'E'
  let exponentText := (body.drop mantissa.length).drop 1
  let wholePart := mantissa.takeWhile (· ≠ '.')
  let whole ← plainDigits? Char.isDigit wholePart
  if hasIdleZero whole then none
  if mantissa.length = body.length && wholePart.length = mantissa.length then
    let n := valueOf 10 whole
    integer? origin (if negative then -(n : Int) else n)
  else
    let fraction ← if wholePart.length = mantissa.length then some []
      else plainDigits? Char.isDigit (mantissa.drop (wholePart.length + 1))
    let exponent ← if mantissa.length = body.length then some (0 : Int)
      else do
        let (below, digits) := signOf exponentText
        let size := valueOf 10 (← plainDigits? Char.isDigit digits)
        some (if below then -(size : Int) else size)
    match Double.read? negative (valueOf 10 (whole ++ fraction)) (exponent - fraction.length) with
    | some d => return .double d origin
    | none => if negative then some (.infinite true origin) else none

/-- A number. -/
def number? (origin : Option String) (cs : List Char) : Option Value :=
  match cs with
  | '0' :: 'x' :: digits => basedInteger? origin 16 digits
  | '0' :: 'o' :: digits => basedInteger? origin 8 digits
  | '0' :: 'b' :: digits => basedInteger? origin 2 digits
  | _ =>
    let (negative, body) := signOf cs
    if body = "inf".toList then some (.infinite negative origin)
    else if body = "nan".toList then some (.notANumber origin)
    else decimal? origin cs

/-- A number of exactly `count` digits between two bounds, as it is written. -/
def field? (count low high : Nat) (cs : List Char) : Option (List Char × List Char) :=
  let digits := cs.take count
  let n := valueOf 10 digits
  if digits.length = count && digits.all Char.isDigit && low ≤ n && n ≤ high then
    some (digits, cs.drop count)
  else none

/-- The text behind a character that has to come next. -/
def expect? (c : Char) : List Char → Option (List Char)
  | d :: cs => if c = d then some cs else none
  | [] => none

/-- The number of days of a month. -/
def daysOf (year month : Nat) : Nat :=
  if month = 2 then
    if year % 4 = 0 && (year % 100 ≠ 0 || year % 400 = 0) then 29 else 28
  else if [4, 6, 9, 11].contains month then 30 else 31

/-- A date, and what follows it. -/
def date? (cs : List Char) : Option (List Char × List Char) := do
  let (year, cs) ← field? 4 0 9999 cs
  let (month, cs) ← field? 2 1 12 (← expect? '-' cs)
  let (day, cs) ← field? 2 1 (daysOf (valueOf 10 year) (valueOf 10 month)) (← expect? '-' cs)
  return (year ++ '-' :: month ++ '-' :: day, cs)

/-- The fraction of a second with its point, to nine places and without idle zeros. -/
def fractionOf (digits : List Char) : List Char :=
  let kept := ((digits.take 9).reverse.dropWhile (· = '0')).reverse
  if kept.isEmpty then [] else '.' :: kept

/-- A time of day, and what follows it. -/
def time? (cs : List Char) : Option (List Char × List Char) := do
  let (hour, cs) ← field? 2 0 23 cs
  let (minute, cs) ← field? 2 0 59 (← expect? ':' cs)
  let (second, cs) ← field? 2 0 60 (← expect? ':' cs)
  let text := hour ++ ':' :: minute ++ ':' :: second
  match cs with
  | '.' :: cs =>
    let digits := cs.takeWhile Char.isDigit
    if digits.isEmpty then none
    return (text ++ fractionOf digits, cs.drop digits.length)
  | _ => return (text, cs)

/-- The distance to world time at the end of a text. -/
def offset? : List Char → Option (List Char)
  | ['Z'] | ['z'] => some ['Z']
  | sign :: cs => do
    if sign ≠ '+' && sign ≠ '-' then none
    let (hour, cs) ← field? 2 0 23 cs
    let (minute, cs) ← field? 2 0 59 (← expect? ':' cs)
    if !cs.isEmpty then none
    let isZero := valueOf 10 (hour ++ minute) = 0
    return (if isZero then '+' else sign) :: hour ++ ':' :: minute
  | [] => none

/-- A date, a time or both, with or without a distance to world time, in its normal form. -/
def dateTime? (cs : List Char) : Option String :=
  match date? cs with
  | some (date, []) => some (String.ofList date)
  | some (date, mark :: cs) => do
    if mark ≠ 'T' && mark ≠ 't' && mark ≠ ' ' then none
    let (time, cs) ← time? cs
    let offset ← if cs.isEmpty then some [] else offset? cs
    return String.ofList (date ++ 'T' :: time ++ offset)
  | none =>
    match time? cs with
    | some (time, []) => some (String.ofList time)
    | _ => none

/-- A value without quotes. -/
def word? (origin : Option String) (cs : List Char) : Option Value :=
  if cs = "true".toList then some (.bool true origin)
  else if cs = "false".toList then some (.bool false origin)
  else match dateTime? cs with
    | some text => some (.str text origin)
    | none => number? origin cs

/-- Whether a character ends a value without quotes. -/
def endsWord (c : Char) : Bool :=
  isGap c || c == '\n' || c == '\r' || c == ',' || c == ']' || c == '\x7d' || c == '#'

/-- A value without quotes at the start of the text. One space may stand between a date and a
    time. -/
def wordAt? (origin : Option String) (cs : List Char) : Option (Value × List Char) := do
  let first := cs.takeWhile fun c => !endsWord c
  let rest := cs.drop first.length
  let second := match rest with
    | ' ' :: more => more.takeWhile fun c => !endsWord c
    | _ => []
  match date? first with
  | some (_, []) =>
    if second.isEmpty then return (← word? origin first, rest)
    else return (← word? origin (first ++ ' ' :: second), rest.drop (second.length + 1))
  | _ => return (← word? origin first, rest)

end InkWorkspace.Settings.Toml
