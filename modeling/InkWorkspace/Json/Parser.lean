import InkWorkspace.Json.Basic
import InkWorkspace.Text.Utf8

/- Reading JSON text. The text is read byte by byte, each byte as the character of that number.
   Objects come out with their members sorted by name, the last of several members of one name
   winning. A fault names its cause and the line and byte column at which it was noticed. -/
namespace InkWorkspace.Json

/-- Why a text is no JSON value. -/
inductive Fault where
  | endInList
  | endInObject
  | endInString
  | endInValue
  | expectedColon
  | expectedListEnd
  | expectedObjectEnd
  | expectedWord
  | expectedValue
  | invalidEscape
  | invalidNumber
  | numberOutOfRange
  | controlCharacter
  | keyNotString
  | loneSurrogate
  | trailingComma
  | trailingCharacters
  | endOfHexEscape
  | tooDeep
  deriving Repr, DecidableEq

namespace Fault

/-- The fault in words. -/
def message : Fault → String
  | endInList => "EOF while parsing a list"
  | endInObject => "EOF while parsing an object"
  | endInString => "EOF while parsing a string"
  | endInValue => "EOF while parsing a value"
  | expectedColon => "expected `:`"
  | expectedListEnd => "expected `,` or `]`"
  | expectedObjectEnd => "expected `,` or `\x7d`"
  | expectedWord => "expected ident"
  | expectedValue => "expected value"
  | invalidEscape => "invalid escape"
  | invalidNumber => "invalid number"
  | numberOutOfRange => "number out of range"
  | controlCharacter => "control character (\\u0000-\\u001F) found while parsing a string"
  | keyNotString => "key must be a string"
  | loneSurrogate => "lone leading surrogate in hex escape"
  | trailingComma => "trailing comma"
  | trailingCharacters => "trailing characters"
  | endOfHexEscape => "unexpected end of hex escape"
  | tooDeep => "recursion limit exceeded"

end Fault

/-- A fault and the text that was unread when it was noticed. With `looked`, the first character of
    that text had been looked at. -/
structure Failure where
  fault : Fault
  unread : List Char
  looked : Bool
  deriving Repr, DecidableEq

/-- Reading state: the text that is still unread. -/
abbrev Reader := StateT (List Char) (Except Failure)

namespace Reader

/-- Fails behind what has been read. -/
def fail {α : Type} (fault : Fault) : Reader α :=
  fun unread => .error ⟨fault, unread, false⟩

/-- Fails at the character that comes next. -/
def failHere {α : Type} (fault : Fault) : Reader α :=
  fun unread => .error ⟨fault, unread, true⟩

/-- The next character, left unread. -/
def peek : Reader (Option Char) :=
  fun unread => .ok (unread.head?, unread)

/-- Reads one character. -/
def next : Reader (Option Char) :=
  fun unread => .ok (unread.head?, unread.drop 1)

/-- Reads the leading characters that satisfy `p`. -/
def takeWhile (p : Char → Bool) : Reader (List Char) :=
  fun unread => .ok (unread.takeWhile p, unread.dropWhile p)

/-- Skips blanks and looks at the next character. -/
def peekPastBlanks : Reader (Option Char) := do
  let _ ← takeWhile fun c => c == ' ' || c == '\n' || c == '\t' || c == '\r'
  peek

end Reader

open Reader

/-- The rest of one of the words `null`, `true` and `false`. -/
def readWord : List Char → Reader Unit
  | [] => pure ()
  | w :: ws => do
    match ← next with
    | none => fail .endInValue
    | some c => if c = w then readWord ws else fail .expectedWord

/-- The value of a run of digits. -/
def natOf (digits : List Char) : Nat :=
  digits.foldl (fun n c => 10 * n + (c.toNat - '0'.toNat)) 0

/-- The digits of a number that fit 64 bits, how many digits in front of the point were left out,
    and how many behind it were taken in. -/
structure Significand where
  value : Nat
  leftOut : Nat
  places : Nat
  deriving Repr, DecidableEq

namespace Significand

/-- The significand with one digit more, if it still fits 64 bits. -/
def push? (value : Nat) (digit : Char) : Option Nat :=
  let next := 10 * value + (digit.toNat - '0'.toNat)
  if next < Nat.pow 2 64 then some next else none

/-- Takes digits in as long as they fit: the value, the number of digits that were taken in, and
    the digits that were not. -/
def pushAll (value : Nat) : List Char → Nat × Nat × List Char
  | [] => (value, 0, [])
  | digit :: digits =>
    match push? value digit with
    | some next => let (total, taken, rest) := pushAll next digits; (total, taken + 1, rest)
    | none => (value, 0, digit :: digits)

/-- The significand of the digits in front of the point. -/
def ofWhole (digits : List Char) : Significand :=
  let (value, _, rest) := pushAll 0 digits
  ⟨value, rest.length, 0⟩

/-- The significand with the digits behind the point, those that no longer fit without weight. -/
def withFraction (s : Significand) (digits : List Char) : Significand :=
  let (value, taken, _) := pushAll s.value digits
  ⟨value, s.leftOut, taken⟩

/-- The power of ten that the value has to be multiplied with. -/
def exponent (s : Significand) : Int :=
  (s.leftOut : Int) - s.places

end Significand

/-- The double of a significand and a power of ten. The significand is rounded first, and the
    product again. -/
def readDouble (negative : Bool) (value : Nat) (exponent : Int) : Reader Json := do
  match Double.nearest? negative value 1 with
  | some d =>
    match d.scale? exponent with
    | some d => return .double d
    | none => fail .numberOutOfRange
  | none => fail .numberOutOfRange

/-- The largest size of an exponent. -/
def exponentLimit : Nat := Nat.pow 2 31 - 1

/-- How many leading digits of an exponent can be read until its size is above the limit, if it
    gets there. -/
def overflowsAfter? (size : Nat) : List Char → Option Nat
  | [] => none
  | c :: cs =>
    let size := 10 * size + (c.toNat - '0'.toNat)
    if size > exponentLimit then some 1 else (overflowsAfter? size cs).map (· + 1)

/-- The rest of a number behind the mark of its exponent. An exponent that is too large is noticed
    at the digit that makes it so, unless the number is zero. -/
def readExponent (negative : Bool) (s : Significand) : Reader Json := do
  let below ← do
    match ← peek with
    | some '+' => let _ ← next; pure false
    | some '-' => let _ ← next; pure true
    | _ => pure false
  match ← next with
  | none => fail .endInValue
  | some c =>
    if !c.isDigit then fail .invalidNumber
    let behindFirst ← get
    let more ← takeWhile Char.isDigit
    let size : Int := natOf (c :: more)
    match overflowsAfter? 0 (c :: more) with
    | some count =>
      if s.value ≠ 0 && !below then
        set (behindFirst.drop (count - 1))
        fail .numberOutOfRange
      else readDouble negative 0 0
    | none => readDouble negative s.value (s.exponent + if below then -size else size)

/-- The rest of a number behind its digits, which is its exponent if it has one. -/
def readScaled (negative : Bool) (s : Significand) : Reader Json := do
  match ← peek with
  | some 'e' | some 'E' =>
    let _ ← next
    readExponent negative s
  | _ => readDouble negative s.value s.exponent

/-- A number, its sign already read. Whole numbers that fit 64 bits are integers, all others
    doubles. -/
def readNumber (negative : Bool) : Reader Json := do
  let whole ← do
    match ← next with
    | some '0' =>
      match ← peek with
      | some c => if c.isDigit then failHere .invalidNumber else pure ['0']
      | none => pure ['0']
    | some c =>
      if !c.isDigit then fail .invalidNumber
      let more ← takeWhile Char.isDigit
      pure (c :: more)
    | none => fail .endInValue
  let s := Significand.ofWhole whole
  match ← peek with
  | some '.' =>
    let _ ← next
    let fraction ← takeWhile Char.isDigit
    if fraction.isEmpty then
      match ← peek with
      | some _ => failHere .invalidNumber
      | none => failHere .endInValue
    else readScaled negative (s.withFraction fraction)
  | some 'e' | some 'E' => readScaled negative s
  | _ =>
    if 0 < s.leftOut then readDouble negative s.value s.exponent
    else if !negative then return .int s.value
    else if 0 < s.value && s.value ≤ Nat.pow 2 63 then return .int (-(s.value : Int))
    else readDouble negative s.value 0

/-- The value of a hexadecimal digit. -/
def hexValue? (c : Char) : Option Nat :=
  if c.isDigit then some (c.toNat - '0'.toNat)
  else if 'a' ≤ c && c ≤ 'f' then some (c.toNat - 'a'.toNat + 10)
  else if 'A' ≤ c && c ≤ 'F' then some (c.toNat - 'A'.toNat + 10)
  else none

/-- The four hexadecimal digits of an escape. -/
def readHex : Reader Nat := do
  let unread ← get
  if unread.length < 4 then
    set ([] : List Char)
    fail .endInString
  set (unread.drop 4)
  match (unread.take 4).mapM hexValue? with
  | some digits => return digits.foldl (fun n d => 16 * n + d) 0
  | none => fail .invalidEscape

/-- Reads the character that a surrogate pair needs next. -/
def readExpected (c : Char) : Reader Unit := do
  match ← next with
  | none => fail .endInString
  | some d => if c = d then pure () else fail .endOfHexEscape

/-- The character of a `\u` escape, which may be a pair of surrogates. -/
def readUnicode : Reader Char := do
  let n ← readHex
  if 0xDC00 ≤ n && n ≤ 0xDFFF then fail .loneSurrogate
  else if 0xD800 ≤ n && n ≤ 0xDBFF then
    readExpected '\\'
    readExpected 'u'
    let m ← readHex
    if 0xDC00 ≤ m && m ≤ 0xDFFF then
      return Char.ofNat (0x10000 + (n - 0xD800) * 0x400 + (m - 0xDC00))
    else fail .loneSurrogate
  else return Char.ofNat n

/-- The character of an escape, its backslash already read. -/
def readEscape : Reader Char := do
  match ← next with
  | none => fail .endInString
  | some '"' => return '"'
  | some '\\' => return '\\'
  | some '/' => return '/'
  | some 'b' => return Char.ofNat 8
  | some 'f' => return Char.ofNat 12
  | some 'n' => return '\n'
  | some 'r' => return '\r'
  | some 't' => return '\t'
  | some 'u' => readUnicode
  | some _ => fail .invalidEscape

/-- The bytes of the rest of a string, its opening quote already read. `fuel` bounds the number of
    bytes. -/
def readBytes : (fuel : Nat) → Reader (List Char)
  | 0 => fail .endInString
  | fuel + 1 => do
    match ← next with
    | none => fail .endInString
    | some '"' => return []
    | some '\\' =>
      let c ← readEscape
      return Text.byteChars (String.singleton c) ++ (← readBytes fuel)
    | some c =>
      if c.toNat < 32 then fail .controlCharacter
      return c :: (← readBytes fuel)

/-- The rest of a string, its opening quote already read. -/
def readString : Reader String := do
  let bytes ← readBytes ((← get).length + 1)
  return (Text.ofByteChars? bytes).getD ""

/-- How deep arrays and objects may nest. -/
def depthLimit : Nat := 127

mutual

/-- One value. `depth` is how much deeper it may nest, and `fuel` bounds the number of steps: at
    most two are taken before a character is read. -/
def readValue : (fuel depth : Nat) → Reader Json
  | 0, _ => fail .tooDeep
  | fuel + 1, depth => do
    match ← peekPastBlanks with
    | none => failHere .endInValue
    | some 'n' =>
      let _ ← next
      readWord "ull".toList
      return .null
    | some 't' =>
      let _ ← next
      readWord "rue".toList
      return .bool true
    | some 'f' =>
      let _ ← next
      readWord "alse".toList
      return .bool false
    | some '-' =>
      let _ ← next
      readNumber true
    | some '"' =>
      let _ ← next
      return .str (← readString)
    | some '[' =>
      if depth = 0 then failHere .tooDeep
      let _ ← next
      return .arr (← readItems fuel (depth - 1) true)
    | some '\x7b' =>
      if depth = 0 then failHere .tooDeep
      let _ ← next
      return .obj (← readMembers fuel (depth - 1) true [])
    | some c => if c.isDigit then readNumber false else failHere .expectedValue

/-- The items of an array up to its closing bracket. -/
def readItems : (fuel depth : Nat) → (first : Bool) → Reader (List Json)
  | 0, _, _ => fail .tooDeep
  | fuel + 1, depth, first => do
    match ← peekPastBlanks with
    | none => failHere .endInList
    | some ']' =>
      let _ ← next
      return []
    | some c =>
      if !first then
        if c = ',' then
          let _ ← next
          match ← peekPastBlanks with
          | some ']' => failHere .trailingComma
          | some _ => pure ()
          | none => failHere .endInValue
        else failHere .expectedListEnd
      let item ← readValue fuel depth
      return item :: (← readItems fuel depth false)

/-- The members of an object up to its closing brace, added to those read so far. -/
def readMembers : (fuel depth : Nat) → (first : Bool) → List (String × Json) →
    Reader (List (String × Json))
  | 0, _, _, _ => fail .tooDeep
  | fuel + 1, depth, first, members => do
    match ← peekPastBlanks with
    | none => failHere .endInObject
    | some '\x7d' =>
      let _ ← next
      return members
    | some c =>
      if first then
        if c ≠ '"' then failHere .keyNotString
      else if c = ',' then
        let _ ← next
        match ← peekPastBlanks with
        | some '"' => pure ()
        | some '\x7d' => failHere .trailingComma
        | some _ => failHere .keyNotString
        | none => failHere .endInValue
      else failHere .expectedObjectEnd
      let _ ← next
      let name ← readString
      match ← peekPastBlanks with
      | some ':' =>
        let _ ← next
        let value ← readValue fuel depth
        readMembers fuel depth false (insertMember name value members)
      | some _ => failHere .expectedColon
      | none => failHere .endInObject

end

/-- A whole text: one value and blanks. -/
def readText : Reader Json := do
  let value ← readValue (2 * (← get).length + 2) depthLimit
  match ← peekPastBlanks with
  | some _ => failHere .trailingCharacters
  | none => return value

/-- A fault with the place at which it was noticed. -/
structure ParseError where
  fault : Fault
  line : Nat
  column : Nat
  deriving Repr, DecidableEq

namespace ParseError

/-- The error in words. -/
def message (e : ParseError) : String :=
  e.fault.message ++ " at line " ++ toString e.line ++ " column " ++ toString e.column

end ParseError

/-- The place of a failure in the text: the line, from one on, and the number of bytes of that line
    up to it. -/
def Failure.locate (text : List Char) (failure : Failure) : ParseError :=
  let read := text.take (text.length - failure.unread.length)
  let lineStart := (read.reverse.takeWhile (· ≠ '\n')).reverse
  let line := read.count '\n' + 1
  let column := lineStart.length
  match failure.looked, failure.unread with
  | true, '\n' :: _ => ⟨failure.fault, line + 1, 0⟩
  | true, _ :: _ => ⟨failure.fault, line, column + 1⟩
  | _, _ => ⟨failure.fault, line, column⟩

/-- Reads a JSON text. -/
def parse (text : String) : Except ParseError Json :=
  let bytes := Text.byteChars text
  match readText.run bytes with
  | .ok (value, _) => .ok value
  | .error failure => .error (failure.locate bytes)

end InkWorkspace.Json
