import InkWorkspace.Text.Utf8

/- Percent codes: a byte that may not stand in an address is written as `%` and two hexadecimal
   digits. Which characters may stand depends on the part of the address. -/
namespace InkWorkspace.Uri

open Text

/-- A byte as a percent code. -/
def percentCode (byte : UInt8) : List Char :=
  let digit (n : Nat) : Char := ((Nat.toDigits 16 n).headD '0').toUpper
  ['%', digit (byte.toNat / 16), digit (byte.toNat % 16)]

/-- A byte, as a percent code unless `keep` lets it stand. Only ASCII characters that can be seen
    ever stand. -/
def encodeByte (keep : Char → Bool) (byte : UInt8) : List Char :=
  let c := Char.ofNat byte.toNat
  if 0x20 ≤ c.toNat && c.toNat < 0x7F && keep c then [c] else percentCode byte

/-- Bytes with percent codes for all that `keep` does not let stand. -/
def encodeBytes (keep : Char → Bool) (bytes : List UInt8) : String :=
  String.ofList (bytes.flatMap (encodeByte keep))

/-- A text with percent codes for all that `keep` does not let stand. -/
def encode (keep : Char → Bool) (text : List Char) : String :=
  encodeBytes keep (utf8 text)

/-- Characters that stand in the path of an address. -/
def keepInPath (c : Char) : Bool :=
  !(" \"#<>?`\x7b\x7d".toList.contains c)

/-- Characters of a file name that stand in an address. -/
def keepInName (c : Char) : Bool :=
  keepInPath c && c ≠ '/' && c ≠ '%' && c ≠ '\\'

/-- Characters that stand in the name and the password of a user. -/
def keepInUser (c : Char) : Bool :=
  keepInPath c && !("/:;=@[\\]^|".toList.contains c)

/-- Characters that stand in a query. An address with a host has no apostrophe there. -/
def keepInQuery (hosted : Bool) (c : Char) : Bool :=
  !(" \"#<>".toList.contains c) && !(hosted && c = '\'')

/-- Characters that stand in a fragment. -/
def keepInFragment (c : Char) : Bool :=
  !(" \"<>`".toList.contains c)

/-- The value of a hexadecimal digit. -/
def hexValue? (c : Char) : Option Nat :=
  if c.isDigit then some (c.toNat - '0'.toNat)
  else if 'a' ≤ c.toLower && c.toLower ≤ 'f' then some (c.toLower.toNat - 'a'.toNat + 10)
  else none

/-- The bytes of a text with its percent codes read. -/
def decodeBytes : List Char → List UInt8
  | '%' :: a :: b :: rest =>
    match hexValue? a, hexValue? b with
    | some high, some low => (16 * high + low).toUInt8 :: decodeBytes rest
    | _, _ => '%'.toNat.toUInt8 :: decodeBytes (a :: b :: rest)
  | c :: rest => utf8 [c] ++ decodeBytes rest
  | [] => []

end InkWorkspace.Uri
