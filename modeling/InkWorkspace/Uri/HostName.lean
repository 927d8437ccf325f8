import InkWorkspace.Uri.Domain
import InkWorkspace.Uri.Percent

/- The names of machines. A machine is named by a domain, by four bytes or by eight groups of two
   bytes. The four bytes may be given as one to four numbers with dots between them, each in
   decimal, octal or hexadecimal digits; the groups stand in brackets. -/
namespace InkWorkspace

open Text

/-- Why a text is no address. -/
inductive UriError where
  | noScheme
  | noHost
  | badPort
  | badDomain
  | badCharacter
  | badIpv4
  | badIpv6
  deriving Repr, DecidableEq

namespace UriError

/-- The error in words. -/
def message : UriError → String
  | noScheme => "relative URL without a base"
  | noHost => "empty host"
  | badPort => "invalid port number"
  | badDomain => "invalid international domain name"
  | badCharacter => "invalid domain character"
  | badIpv4 => "invalid IPv4 address"
  | badIpv6 => "invalid IPv6 address"

end UriError

/-- The name of a machine. -/
inductive HostName where
  | domain (text : String)
  /-- Four bytes as one number. -/
  | ipv4 (value : Nat)
  | ipv6 (groups : List Nat)
  deriving Repr, DecidableEq

namespace HostName

/-- The longest run of zeros: its start and its length. Of several the first counts. -/
def longestZeros (groups : List Nat) : Nat × Nat :=
  (List.range groups.length).foldl (fun (best : Nat × Nat) start =>
    let length := ((groups.drop start).takeWhile (· = 0)).length
    if length > best.2 then (start, length) else best) (0, 0)

/-- Groups in lower-case hexadecimal digits. -/
def renderGroups (groups : List Nat) : String :=
  ":".intercalate (groups.map fun group => String.ofList (Nat.toDigits 16 group))

/-- The name as it is written. The longest run of at least two zero groups is left out. -/
def render : HostName → String
  | domain text => text
  | ipv4 value =>
    ".".intercalate ([24, 16, 8, 0].map fun shift => toString (value / Nat.pow 2 shift % 256))
  | ipv6 groups =>
    let (start, length) := longestZeros groups
    let text := if length < 2 then renderGroups groups
      else renderGroups (groups.take start) ++ "::" ++ renderGroups (groups.drop (start + length))
    "[" ++ text ++ "]"

/-- The value of digits of some base. -/
def number? (base : Nat) (digits : List Char) : Option Nat :=
  digits.foldlM (fun n c => do
    let digit ← Uri.hexValue? c
    if digit < base then some (base * n + digit) else none) 0

/-- A number of an address of four bytes: hexadecimal behind `0x`, octal behind another zero. -/
def part? : List Char → Option Nat
  | [] => none
  | '0' :: 'x' :: digits | '0' :: 'X' :: digits => number? 16 digits
  | '0' :: digit :: digits => number? 8 (digit :: digits)
  | digits => number? 10 digits

/-- The parts of a name between its dots; a dot at the end has no meaning. -/
def partsOf (name : List Char) : List (List Char) :=
  let parts := splitOn '.' name
  if 1 < parts.length && parts.getLast? = some [] then parts.dropLast else parts

/-- Whether the last part of a name is a number, so that the name cannot be a domain. -/
def endsInNumber (name : List Char) : Bool :=
  (partsOf name).getLast?.any fun part =>
    !part.isEmpty && (part.all Char.isDigit || (part? part).isSome)

/-- The four bytes that a name gives. The last number fills all bytes that are left. -/
def fourBytes? (name : List Char) : Option Nat := do
  let numbers ← (partsOf name).mapM part?
  let last ← numbers.getLast?
  let leading := numbers.dropLast
  if 3 < leading.length || leading.any (255 < ·) ||
    Nat.pow 256 (4 - leading.length) ≤ last then none
  else return leading.foldr (fun byte total => total / 256 + byte * Nat.pow 256 3) 0 + last

/-- A group of one to four hexadecimal digits. -/
def group? (digits : List Char) : Option Nat :=
  if digits.isEmpty || 4 < digits.length then none else number? 16 digits

/-- A byte in decimal digits without a leading zero. -/
def byte? (digits : List Char) : Option Nat := do
  if digits.isEmpty || 3 < digits.length || (1 < digits.length && digits.head? = some '0') then none
  let value ← number? 10 digits
  if value < 256 then some value else none

/-- The groups of a text; the last one may be four bytes with dots. -/
def groups? (last : Bool) (text : List Char) : Option (List Nat) :=
  if text.isEmpty then some []
  else
    let pieces := splitOn ':' text
    match pieces.getLast?.map (splitOn '.') with
    | some [a, b, c, d] => do
      if !last then none
      let groups ← pieces.dropLast.mapM group?
      return groups ++ [256 * (← byte? a) + (← byte? b), 256 * (← byte? c) + (← byte? d)]
    | _ => pieces.mapM group?

/-- The eight groups that a text gives; two colons stand for groups of zeros. -/
def eightGroups? (text : List Char) : Option (List Nat) :=
  match cutAt? [':', ':'] text with
  | some (left, right) => do
    let left ← groups? false left
    let right ← groups? true right
    let count := left.length + right.length
    if 7 < count then none else return left ++ List.replicate (8 - count) 0 ++ right
  | none => do
    let groups ← groups? true text
    if groups.length = 8 then some groups else none

/-- The name between brackets, if the text starts with one. -/
def bracketed? (text : List Char) : Option (Except UriError HostName) :=
  match text with
  | '[' :: rest =>
    let groups := if rest.getLast? = some ']' then eightGroups? rest.dropLast else none
    some (groups.elim (.error .badIpv6) (.ok ∘ ipv6))
  | _ => none

/-- Characters that no domain has. -/
def isForbidden (c : Char) : Bool :=
  c.toNat ≤ 0x20 || c.toNat = 0x7F || "#%/:<>?@[\\]^|".toList.contains c

/-- Reads the name of a machine that is known to be on a network. -/
def parse (text : List Char) : Except UriError HostName :=
  let decoded := (decode? (Uri.decodeBytes text)).bind fun name => Uri.domainToAscii? name.toList
  match bracketed? text, decoded with
  | some host, _ => host
  | none, none => .error .badDomain
  | none, some name =>
    if name.any isForbidden then .error .badDomain
    else if name.isEmpty then .error .noHost
    else if endsInNumber name then (fourBytes? name).elim (.error .badIpv4) (.ok ∘ ipv4)
    else .ok (domain (String.ofList name))

/-- Reads the name of a machine in an address of an unknown scheme, where it is not interpreted. -/
def parseOpaque (text : List Char) : Except UriError HostName :=
  match bracketed? text with
  | some host => host
  | none =>
    if text.any fun c => c.toNat = 0 || " #/:<>?@[\\]^|".toList.contains c then
      .error .badCharacter
    else .ok (domain (Uri.encode (fun _ => true) text))

end HostName

end InkWorkspace
