import JobLog.Text.Utf8
import JobLog.Web.Domain
import JobLog.Web.Percent

/-!
# Hosts

The host of an address is a name or a number. Names of the known schemes are those of domains and
are written in ASCII; a name whose last part is a number is an IPv4 address, whatever base its parts
are written in. An IPv6 address stands between square brackets.
-/

namespace JobLog.Web

/-- Why text is no address. -/
inductive UrlFault where
  | noScheme
  | emptyHost
  | unusableName
  | invalidCharacter
  | invalidIpv4
  | invalidIpv6
  | invalidPort
  deriving DecidableEq, Repr

def UrlFault.message : UrlFault → String
  | .noScheme => "relative URL without a base"
  | .emptyHost => "empty host"
  | .unusableName => "invalid international domain name"
  | .invalidCharacter => "invalid domain character"
  | .invalidIpv4 => "invalid IPv4 address"
  | .invalidIpv6 => "invalid IPv6 address"
  | .invalidPort => "invalid port number"

/-- Where a server is. An IPv6 address has eight groups. -/
inductive Host where
  | name (text : String)
  | ipv4 (address : Nat)
  | ipv6 (groups : List Nat)
  deriving DecidableEq, Repr

namespace Host

/-! ## IPv4 -/

/-- A number in base `base`, from its digits. -/
def number? (base : Nat) (digits : List Char) : Option Nat :=
  digits.foldlM (fun n c => do
    let d ← Text.hexDigit? c
    guard (d < base)
    return base * n + d) 0

/-- A part of an IPv4 address: hexadecimal after `0x`, octal after `0`, else decimal. -/
def part? : List Char → Option Nat
  | [] => none
  | '0' :: 'x' :: digits | '0' :: 'X' :: digits => number? 16 digits
  | '0' :: c :: digits => number? 8 (c :: digits)
  | digits => number? 10 digits

/-- Whether a name ends in a number, so that it is an IPv4 address or nothing. -/
def endsInNumber (name : List Char) : Bool :=
  let parts := (name.splitOn '.').reverse
  let last := match parts with
    | [] :: last :: _ => last
    | last :: _ => last
    | [] => []
  (!last.isEmpty && last.all Char.isDigit) || (part? last).isSome

/-- The address from its parts: the last one fills all bytes that the others leave. -/
def ipv4? (name : List Char) : Option Nat := do
  let parts := name.splitOn '.'
  let parts := if parts.getLast? = some [] then parts.dropLast else parts
  guard (parts.length ≤ 4)
  let numbers ← parts.mapM part?
  let last ← numbers.getLast?
  let leading := numbers.dropLast
  guard (last < Nat.pow 256 (4 - leading.length) ∧ leading.all (· < 256))
  return leading.zipIdx.foldl (fun n entry => n + entry.1 * Nat.pow 256 (3 - entry.2)) last

/-- Four numbers between dots. -/
def ipv4Text (address : Nat) : String :=
  ".".intercalate ([3, 2, 1, 0].map fun i => toString ((address >>> (8 * i)) % 256))

/-! ## IPv6 -/

/-- A group of up to four hexadecimal digits. -/
def group? (digits : List Char) : Option Nat := do
  guard (1 ≤ digits.length ∧ digits.length ≤ 4)
  number? 16 digits

/-- A byte in decimal without leading zeros. -/
def byte? (digits : List Char) : Option Nat := do
  guard (!digits.isEmpty && digits.all Char.isDigit)
  guard (digits.head? ≠ some '0' ∨ digits.length = 1)
  let n ← number? 10 digits
  guard (n < 256)
  return n

/-- Groups between colons; the last two may be written as four bytes between dots. -/
def groups? : List (List Char) → Option (List Nat)
  | [] => some []
  | [last] =>
    if '.' ∈ last then do
      let bytes ← (last.splitOn '.').mapM byte?
      match bytes with
      | [a, b, c, d] => return [256 * a + b, 256 * c + d]
      | _ => none
    else (group? last).map ([·])
  | first :: rest => do return (← group? first) :: (← groups? rest)

/-- The characters before and after the first double colon. -/
def splitGap : List Char → Option (List Char × List Char)
  | ':' :: ':' :: rest => some ([], rest)
  | c :: rest => (splitGap rest).map fun split => (c :: split.1, split.2)
  | [] => none

/-- Groups of one side of a double colon, of which there may be none. -/
def side? (s : List Char) : Option (List Nat) :=
  if s.isEmpty then some [] else groups? (s.splitOn ':')

/-- Eight groups; a double colon stands for at least one group of zero. -/
def ipv6? (s : List Char) : Option (List Nat) :=
  match splitGap s with
  | none => do
    let groups ← side? s
    guard (groups.length = 8)
    return groups
  | some (left, right) => do
    guard ('.' ∉ left)
    let left ← side? left
    let right ← side? right
    guard (left.length + right.length ≤ 7)
    return left ++ List.replicate (8 - left.length - right.length) 0 ++ right

/-- The number of zeros that a list starts with. -/
def zeros : List Nat → Nat
  | 0 :: rest => zeros rest + 1
  | _ => 0

/-- Where the first of the longest runs of zeros starts, and how long it is. -/
def longestGap (groups : List Nat) : Nat × Nat :=
  (List.range groups.length).foldl (fun best i =>
    if best.2 < zeros (groups.drop i) then (i, zeros (groups.drop i)) else best) (0, 0)

/-- Groups in hexadecimal between colons. -/
def joined (groups : List Nat) : String :=
  ":".intercalate (groups.map fun g => String.ofList (Nat.toDigits 16 g))

/-- An IPv6 address; the longest run of at least two zeros becomes a double colon. -/
def ipv6Text (groups : List Nat) : String :=
  let gap := longestGap groups
  if gap.2 < 2 then joined groups
  else joined (groups.take gap.1) ++ "::" ++ joined (groups.drop (gap.1 + gap.2))

/-! ## Names -/

/-- What no name of a known scheme may hold. -/
def isForbidden (c : Char) : Bool :=
  c.toNat ≤ 0x20 || c.toNat = 0x7F ||
    c ∈ ['%', '#', '/', ':', '<', '>', '?', '@', '[', '\\', ']', '^', '|']

/-- What a name of another scheme may not hold. -/
def isForbiddenOpaque (c : Char) : Bool :=
  c ∈ ['\x00', '\t', '\n', '\r', ' ', '#', '/', ':', '<', '>', '?', '@', '[', '\\', ']', '^', '|']

/-- A name in ASCII and lower case, from its percent-encoded form. -/
def name? (s : List Char) : Option (List Char) := do
  let text ← Text.decode? (decodeBytes s)
  let shown ← Domain.toAscii? text.toList
  guard (shown.all fun c => !isForbidden c)
  return shown

/-- What stands between square brackets, if the text starts with one. -/
def bracketed? : List Char → Option (Option (List Char))
  | '[' :: rest =>
    some (if rest.getLast? = some ']' then some rest.dropLast else none)
  | _ => none

/-- The host of an address whose scheme is known or not. -/
def parse (known : Bool) (s : List Char) : Except UrlFault Host :=
  match bracketed? s with
  | some inner =>
    match inner.bind ipv6? with
    | some groups => .ok (.ipv6 groups)
    | none => .error .invalidIpv6
  | none =>
    if known then
      match name? s with
      | none => .error .unusableName
      | some [] => .error .emptyHost
      | some shown =>
        if endsInNumber shown then
          match ipv4? shown with
          | some address => .ok (.ipv4 address)
          | none => .error .invalidIpv4
        else .ok (.name (String.ofList shown))
    else if s.any isForbiddenOpaque then .error .invalidCharacter
    else .ok (.name (String.ofList (encodeChars isControl s)))

/-- A host as it stands in an address. -/
def text : Host → String
  | .name text => text
  | .ipv4 address => ipv4Text address
  | .ipv6 groups => "[" ++ ipv6Text groups ++ "]"

end Host

end JobLog.Web
