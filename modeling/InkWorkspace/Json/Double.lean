/- Numbers with a fraction or an exponent, read to double precision and written with the fewest
   digits that read back. All arithmetic stays in the natural numbers. -/
namespace InkWorkspace

/-- A finite double: `mantissa · 2 ^ exponent`, with a mantissa below `2 ^ 53`. -/
structure Double where
  negative : Bool
  mantissa : Nat
  exponent : Int
  deriving Repr, DecidableEq

namespace Double

/-- `base ^ e` as a fraction of natural numbers. -/
def powFraction (base : Nat) : Int → Nat × Nat
  | .ofNat e => (base.pow e, 1)
  | .negSucc e => (1, base.pow (e + 1))

/-- The quotient rounded to the nearest natural number, a tie to the even neighbour. -/
def divNearest (num den : Nat) : Nat :=
  let quotient := num / den
  let twice := 2 * (num % den)
  if twice < den || (twice == den && quotient % 2 == 0) then quotient else quotient + 1

/-- The least exponent of a double. -/
def leastExponent : Int := -1074

/-- The largest exponent of a double. -/
def largestExponent : Int := 971

/-- The double nearest to `num / den`, or nothing if it is too large. -/
def nearest? (negative : Bool) (num den : Nat) : Option Double :=
  if num = 0 then some ⟨negative, 0, leastExponent⟩
  else
    let rounded (exponent : Int) : Nat :=
      let (up, down) := powFraction 2 exponent
      divNearest (num * down) (den * up)
    let guess : Int := (num.log2 : Int) - den.log2 - 53
    let exponent :=
      if rounded guess < Nat.pow 2 53 then guess
      else if rounded (guess + 1) < Nat.pow 2 53 then guess + 1 else guess + 2
    let exponent := max leastExponent exponent
    if exponent > largestExponent then none else some ⟨negative, rounded exponent, exponent⟩

/-- Number of decimal digits. -/
def digitCount (n : Nat) : Nat :=
  (Nat.toDigits 10 n).length

/-- The double nearest to `digits · 10 ^ exponent`, or nothing if it is too large. -/
def read? (negative : Bool) (digits : Nat) (exponent : Int) : Option Double :=
  let size := exponent + digitCount digits
  if digits = 0 || size < -400 then some ⟨negative, 0, leastExponent⟩
  else if size > 400 then none
  else
    let (up, down) := powFraction 10 exponent
    nearest? negative (digits * up) down

/-- The double nearest to the product, or nothing if it is too large. -/
def mul? (a b : Double) : Option Double :=
  let (up, down) := powFraction 2 (a.exponent + b.exponent)
  nearest? (a.negative != b.negative) (a.mantissa * b.mantissa * up) down

/-- The double nearest to the quotient by a number other than zero, or nothing if it is too large.
    -/
def div? (a b : Double) : Option Double :=
  let (up, down) := powFraction 2 (a.exponent - b.exponent)
  nearest? (a.negative != b.negative) (a.mantissa * up) (b.mantissa * down)

/-- The largest power of ten that is a double. -/
def largestPower : Int := 308

/-- The double nearest to a power of ten. -/
def power? (exponent : Int) : Option Double :=
  read? false 1 exponent

/-- The value times `10 ^ exponent`, rounded after every step: one product or quotient with a power
    of ten and, for a smaller exponent, quotients by the largest power first. Nothing if the value
    is too large. -/
def scale? (d : Double) (exponent : Int) : Option Double :=
  if d.mantissa = 0 then some d
  else if exponent > largestPower then none
  else if 0 ≤ exponent then do d.mul? (← power? exponent)
  else if h : exponent < -308 then do
    scale? (← d.div? (← power? largestPower)) (exponent + 308)
  else do d.div? (← power? (-exponent))
termination_by (-exponent).toNat
decreasing_by omega

/-- The integer nearest to the value, a half away from zero. -/
def round (d : Double) : Int :=
  let (up, down) := powFraction 2 d.exponent
  let size : Int := ((2 * d.mantissa * up + down) / (2 * down) : Nat)
  if d.negative then -size else size

/-- Whether the decimal `digits · 10 ^ place` reads back as the double: it lies within half a step
    of it, the ends included if the mantissa is even. -/
def readsBack (d : Double) (digits : Nat) (place : Int) : Bool :=
  let (up, down) := powFraction 10 place
  let (twoUp, twoDown) := powFraction 2 (d.exponent - 2)
  let value := digits * up * twoDown
  let unit := down * twoUp
  let lowGap := if d.mantissa = Nat.pow 2 52 && d.exponent > leastExponent then 1 else 2
  let low := (4 * d.mantissa - lowGap) * unit
  let high := (4 * d.mantissa + 2) * unit
  if d.mantissa % 2 = 0 then low ≤ value && value ≤ high else low < value && value < high

/-- The first decimal that reads back on the grids `10 ^ place`, `10 ^ (place - 1)` and so on; of
    two on one grid the nearer. -/
def shortestFrom (d : Double) : (grids : Nat) → (place : Int) → Nat × Int
  | 0, place => (d.mantissa, place)
  | grids + 1, place =>
    let (up, down) := powFraction 10 place
    let (twoUp, twoDown) := powFraction 2 d.exponent
    let num := d.mantissa * twoUp * down
    let den := twoDown * up
    let below := num / den
    let low := below ≠ 0 && readsBack d below place
    let high := readsBack d (below + 1) place
    let highNearer := 2 * (num % den) > den || (2 * (num % den) == den && below % 2 = 1)
    if low && !(high && highNearer) then (below, place)
    else if high then (below + 1, place)
    else shortestFrom d grids (place - 1)

/-- The shortest decimal of a double, as digits and a power of ten. -/
def shortest (d : Double) : Nat × Int :=
  if d.mantissa = 0 then (0, 0)
  else
    let (up, down) := powFraction 2 d.exponent
    let top : Int := (digitCount (d.mantissa * up) : Int) - digitCount down + 1
    shortestFrom d 24 top

/-- A run of zeros. -/
def zeros (n : Nat) : String :=
  String.ofList (List.replicate n '0')

/-- Digits with a point, without an exponent; a whole number has no point. -/
def positional (digits : Nat) (exponent : Int) : String :=
  let text := Nat.toDigits 10 digits
  let point := exponent + text.length
  if digits = 0 then "0"
  else if 0 ≤ exponent then String.ofList text ++ zeros exponent.toNat
  else if 0 < point then
    String.ofList (text.take point.toNat) ++ "." ++ String.ofList (text.drop point.toNat)
  else "0." ++ zeros (-point).toNat ++ String.ofList text

/-- The sign of a negative number. -/
def sign (d : Double) : String :=
  if d.negative then "-" else ""

/-- The value without an exponent, as in `2.5` and `3`. -/
def renderPlain (d : Double) : String :=
  let (digits, exponent) := d.shortest
  d.sign ++ positional digits exponent

/-- The value as a JSON number: positional if the point stands at most 16 digits from the left and
    at most four zeros follow it, otherwise with an exponent, which has a sign. A whole number
    keeps `.0`. -/
def render (d : Double) : String :=
  let (digits, exponent) := d.shortest
  let text := Nat.toDigits 10 digits
  let point := exponent + text.length
  if digits = 0 || (-5 < point && point ≤ 16) then
    d.sign ++ positional digits exponent ++ (if digits = 0 || 0 ≤ exponent then ".0" else "")
  else
    let mantissa := match text with
      | [] => ""
      | [lead] => String.ofList [lead]
      | lead :: tail => String.ofList (lead :: '.' :: tail)
    d.sign ++ mantissa ++ (if 0 < point then "e+" else "e") ++ toString (point - 1)

end Double

end InkWorkspace
