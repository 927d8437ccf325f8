/- Bytes as text: the strict reading of UTF-8, and a forgiving one in which every maximal piece that
   cannot be continued stands for one U+FFFD. -/
namespace InkWorkspace.Text

/-- The bytes of a text. -/
def utf8 (cs : List Char) : List UInt8 :=
  cs.flatMap String.utf8EncodeChar

/-- The text of a byte sequence, if it is UTF-8. -/
def decode? (bytes : List UInt8) : Option String :=
  String.fromUTF8? ⟨bytes.toArray⟩

/-- The bytes of a text, each as the character of that number. -/
def byteChars (s : String) : List Char :=
  (utf8 s.toList).map fun byte => Char.ofNat byte.toNat

/-- The text of bytes that are given as characters, if it is UTF-8. -/
def ofByteChars? (cs : List Char) : Option String :=
  decode? (cs.map fun c => c.toNat.toUInt8)

/-- The character that stands for what cannot be read. -/
def replacement : Char := Char.ofNat 0xFFFD

/-- A character that has been begun: its bits so far, how many bytes are missing, and the bounds of
    the next one. -/
structure Begun where
  bits : Nat
  missing : Nat
  low : Nat
  high : Nat
  deriving Repr, DecidableEq

/-- What a first byte gives: a finished character or the beginning of one. -/
def first (byte : Nat) : List Char × Option Begun :=
  if byte < 0x80 then ([Char.ofNat byte], none)
  else if 0xC2 ≤ byte && byte ≤ 0xDF then ([], some ⟨byte - 0xC0, 1, 0x80, 0xBF⟩)
  else if byte = 0xE0 then ([], some ⟨0, 2, 0xA0, 0xBF⟩)
  else if byte = 0xED then ([], some ⟨0xD, 2, 0x80, 0x9F⟩)
  else if 0xE1 ≤ byte && byte ≤ 0xEF then ([], some ⟨byte - 0xE0, 2, 0x80, 0xBF⟩)
  else if byte = 0xF0 then ([], some ⟨0, 3, 0x90, 0xBF⟩)
  else if byte = 0xF4 then ([], some ⟨4, 3, 0x80, 0x8F⟩)
  else if 0xF1 ≤ byte && byte ≤ 0xF3 then ([], some ⟨byte - 0xF0, 3, 0x80, 0xBF⟩)
  else ([replacement], none)

/-- One byte more: the characters it finishes, and what has been begun behind it. -/
def advance (begun : Option Begun) (byte : Nat) : List Char × Option Begun :=
  match begun with
  | none => first byte
  | some b =>
    if b.low ≤ byte && byte ≤ b.high then
      let bits := 64 * b.bits + (byte - 0x80)
      if b.missing ≤ 1 then ([Char.ofNat bits], none)
      else ([], some ⟨bits, b.missing - 1, 0x80, 0xBF⟩)
    else
      let (chars, begun) := first byte
      (replacement :: chars, begun)

/-- The characters of a byte sequence behind what has been begun. -/
def decodeFrom : Option Begun → List UInt8 → List Char
  | none, [] => []
  | some _, [] => [replacement]
  | begun, byte :: bytes =>
    let (chars, begun) := advance begun byte.toNat
    chars ++ decodeFrom begun bytes

/-- The characters of any byte sequence. -/
def decodeLossy (bytes : List UInt8) : List Char :=
  decodeFrom none bytes

end InkWorkspace.Text
