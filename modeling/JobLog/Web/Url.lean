import JobLog.Web.Host

/-!
# Addresses

`Url.parse` reads an address the way a browser does and brings it to a normal form: control
characters at the ends and tabs and line breaks anywhere are dropped, the known schemes accept
backslashes for slashes, dot segments are resolved, default ports go and what may not stand in a
part is percent-encoded. `Url.text` is the normal form.
-/

namespace JobLog.Web

/-- An address. Its path starts with a slash unless the address has no host. -/
structure Url where
  scheme : String
  user : String
  password : Option String
  host : Option Host
  port : Option Nat
  path : String
  query : Option String
  fragment : Option String
  deriving DecidableEq, Repr

namespace Url

/-- Schemes that are read in a way of their own, with the ports they use. -/
def knownPorts : List (String × Option Nat) :=
  [("http", some 80), ("https", some 443), ("ws", some 80), ("wss", some 443), ("ftp", some 21),
    ("file", none)]

/-- Whether a scheme is read in a way of its own. -/
def isKnown (scheme : String) : Bool :=
  (knownPorts.lookup scheme).isSome

/-- The port of a scheme. -/
def defaultPort (scheme : String) : Option Nat :=
  (knownPorts.lookup scheme).join

/-- Text without control characters and blanks at its ends, and without tabs and line breaks. -/
def cleaned (s : List Char) : List Char :=
  let outer (c : Char) : Bool := c.toNat ≤ 0x20
  let s := ((s.dropWhile outer).reverse.dropWhile outer).reverse
  s.filter fun c => c ≠ '\t' && c ≠ '\n' && c ≠ '\r'

/-- Whether a character may stand in a scheme after its first letter. -/
def inScheme (c : Char) : Bool :=
  c.isAlphanum || c ∈ ['+', '-', '.']

/-- The scheme before the first colon, in lower case, and what follows. -/
def scheme? (s : List Char) : Option (String × List Char) :=
  match s.span inScheme with
  | (c :: name, ':' :: rest) =>
    if c.isAlpha then some (String.ofList ((c :: name).map Char.toLower), rest) else none
  | _ => none

/-- Whether a character ends the part of an address that names the server. -/
def endsAuthority (known : Bool) (c : Char) : Bool :=
  c ∈ ['/', '?', '#'] || (known && c == '\\')

/-- User name and password, and what follows the last `@` before the end of the authority. -/
def userInfo (known : Bool) (s : List Char) :
    Except UrlFault (String × Option String × List Char) :=
  let authority := s.takeWhile fun c => !endsAuthority known c
  if '@' ∉ authority then .ok ("", none, s)
  else
    let host := (authority.reverse.takeWhile (· ≠ '@')).reverse
    let info := authority.take (authority.length - host.length - 1)
    let rest := s.drop (info.length + 1)
    let shown (part : List Char) : String := String.ofList (encodeChars inUserInfo part)
    let user := info.takeWhile (· ≠ ':')
    let password := info.drop (user.length + 1)
    if info.isEmpty && rest.head?.any (endsAuthority known) then .error .emptyHost
    else .ok (shown user, if password.isEmpty then none else some (shown password), rest)

/-- The characters of a host and what follows. A colon between square brackets belongs to it. -/
def hostChars (known : Bool) (inside : Bool) : List Char → List Char × List Char
  | [] => ([], [])
  | c :: rest =>
    if (c = ':' ∧ inside = false) ∨ endsAuthority known c = true then ([], c :: rest)
    else
      let split := hostChars known (if c = '[' then true else if c = ']' then false else inside) rest
      (c :: split.1, split.2)

/-- The number of a port, and what follows. -/
def portNumber (port : Nat) : List Char → Except UrlFault (Nat × List Char)
  | [] => .ok (port, [])
  | c :: rest =>
    if c.isDigit then
      let port := 10 * port + (c.toNat - 48)
      if 65535 < port then .error .invalidPort else portNumber port rest
    else if c ∈ ['/', '\\', '?', '#'] then .ok (port, c :: rest)
    else .error .invalidPort

/-- The port after a colon, nothing if it is the scheme's own, and what follows. -/
def portPart (scheme : String) : List Char → Except UrlFault (Option Nat × List Char)
  | ':' :: rest => do
    let (number, after) ← portNumber 0 rest
    if after.length = rest.length || defaultPort scheme = some number then return (none, after)
    else return (some number, after)
  | rest => .ok (none, rest)

/-- Whether a segment stands for the same place. -/
def isHere (segment : String) : Bool :=
  segment ∈ [".", "%2e", "%2E"]

/-- Whether a segment stands for the place above. -/
def isAbove (segment : String) : Bool :=
  segment ∈ ["..", ".%2e", ".%2E", "%2e.", "%2E.", "%2e%2e", "%2e%2E", "%2E%2e", "%2E%2E"]

/-- Whether a segment stands for a drive: a letter and a colon or a bar. -/
def isDrive (segment : String) : Bool :=
  match segment.toList with
  | [letter, mark] => letter.isAlpha && (mark == ':' || mark == '|')
  | _ => false

/-- Go up from the segments taken so far, the last first. A drive is not left. -/
def above : List String → List String
  | [] => []
  | last :: taken => if isDrive last then last :: taken else taken

/-- The segments of a path that starts with a drive, the last first: the drive gets its colon, and
what directly follows it is a segment of its own. -/
def driveFirst? (segment : String) : Option (List String) :=
  match segment.toList with
  | letter :: mark :: rest =>
    let drive := String.ofList [letter, ':']
    if !isDrive (String.ofList [letter, mark]) then none
    else if rest.isEmpty then some [drive]
    else if mark = ':' then some [String.ofList rest, drive]
    else none
  | _ => none

/-- The segments of a path so far, the last first, and whether the first of them is a drive that was
written as a segment of its own. -/
structure Trail where
  taken : List String
  drive : Bool

namespace Trail

/-- No segments yet. -/
def empty : Trail := ⟨[], false⟩

/-- Take a segment. In a path of the file system the first one may be a drive. -/
def take (file : Bool) (t : Trail) (segment : String) : Trail :=
  let segments := if file && t.taken.isEmpty then driveFirst? segment else none
  match segments with
  | some segments => ⟨segments, t.drive || segments.length = 1⟩
  | none => { t with taken := segment :: t.taken }

/-- Follow segments. -/
def follow (file : Bool) (t : Trail) : List String → Trail
  | [] => t
  | segment :: rest =>
    if isAbove segment || isHere segment then
      let taken := if isAbove segment then above t.taken else t.taken
      follow file { t with taken := if rest.isEmpty then "" :: taken else taken } rest
    else follow file (t.take file segment) rest

/-- The path of the segments. -/
def text (t : Trail) : String :=
  "/" ++ "/".intercalate t.taken.reverse

end Trail

/-- Follow a path, from its characters after the first slash. -/
def followed (known file : Bool) (s : List Char) : Trail :=
  let segments := s.splitOnP fun c => c == '/' || (known && c == '\\')
  Trail.empty.follow file (segments.map fun segment => String.ofList (encodeChars inPath segment))

/-- A path without dot segments, from its characters after the first slash. -/
def resolved (known : Bool) (s : List Char) : String :=
  (followed known false s).text

/-- The path of an address with an authority. -/
def hostPath (known : Bool) : List Char → String
  | [] => if known then "/" else ""
  | c :: rest =>
    if c = '/' ∨ (known = true ∧ c = '\\') then resolved known rest
    else resolved known (c :: rest)

/-- A path of the file system, and whether it starts with a drive. Only one slash stands at its
beginning. -/
def filePath (s : List Char) : String × Bool :=
  let s := if s.head?.any (fun c => c == '/' || c == '\\') then s.drop 1 else s
  let trail := followed true true s
  ("/" ++ String.ofList (trail.text.toList.dropWhile (· = '/')), trail.drive)

/-- The path of an address without an authority. -/
def loosePath : List Char → String
  | '/' :: rest =>
    let path := resolved false rest
    if path.startsWith "//" then "/." ++ path else path
  | s => String.ofList (encodeChars isControl s)

/-- Characters before the first `mark`, and those after it if there is one. -/
def cut (mark : Char) (s : List Char) : List Char × Option (List Char) :=
  match s.span (· ≠ mark) with
  | (before, []) => (before, none)
  | (before, _ :: after) => (before, some after)

/-- The path, query and fragment of an address, the path still as it was written. -/
def tail (known : Bool) (s : List Char) : List Char × Option String × Option String :=
  let (main, fragment) := cut '#' s
  let (path, query) := cut '?' main
  (path, query.map fun q => String.ofList (encodeChars (inQuery known) q),
    fragment.map fun f => String.ofList (encodeChars inFragment f))

/-- An address after the two slashes. -/
def parseAuthority (scheme : String) (s : List Char) : Except UrlFault Url := do
  let known := isKnown scheme
  let (user, password, rest) ← userInfo known s
  let (name, rest) := hostChars known false rest
  if name.isEmpty ∧ (known = true ∨ rest.head? = some ':') then throw .emptyHost
  let host ← if name.isEmpty then pure none else (Host.parse known name).map some
  if host.isNone ∧ (user ≠ "" ∨ password.isSome) then throw .emptyHost
  let (port, rest) ← portPart scheme rest
  let (path, query, fragment) := tail known rest
  return ⟨scheme, user, password, some (host.getD (.name "")), port, hostPath known path, query,
    fragment⟩

/-- The name of a host after two slashes, and what follows. A drive is no host. -/
def fileHost (s : List Char) : List Char × List Char :=
  match s with
  | a :: b :: rest =>
    if (a = '/' ∨ a = '\\') ∧ (b = '/' ∨ b = '\\') then
      let (name, after) := rest.span fun c => !endsAuthority true c
      if isDrive (String.ofList name) then ([], rest) else (name, after)
    else ([], s)
  | _ => ([], s)

/-- An address of the local file system: it has no user, no port and may lack a host. A drive needs
no host. -/
def parseFile (s : List Char) : Except UrlFault Url := do
  let (name, rest) := fileHost s
  let host ← if name.isEmpty then pure (.name "") else Host.parse true name
  let (path, query, fragment) := tail true rest
  let (path, drive) := filePath path
  let host := if host = .name "localhost" ∨ drive = true then .name "" else host
  return ⟨"file", "", none, some host, none, path, query, fragment⟩

/-- Read an address. -/
def parse (s : String) : Except UrlFault Url :=
  match scheme? (cleaned s.toList) with
  | none => .error .noScheme
  | some (scheme, rest) =>
    if scheme = "file" then parseFile rest
    else if isKnown scheme then
      parseAuthority scheme (rest.dropWhile fun c => c == '/' || c == '\\')
    else match rest with
      | '/' :: '/' :: rest => parseAuthority scheme rest
      | _ =>
        let (path, query, fragment) := tail false rest
        .ok ⟨scheme, "", none, none, none, loosePath path, query, fragment⟩

/-- Whether an address names a server. -/
def hasHost (url : Url) : Bool :=
  url.host.any (· ≠ .name "")

/-- The path and query, which are what a server is asked for. -/
def target (url : Url) : String :=
  url.path ++ (url.query.map ("?" ++ ·)).getD ""

/-- User name and password as they stand before the host. -/
def userText (url : Url) : String :=
  let password := (url.password.map (":" ++ ·)).getD ""
  if url.user = "" ∧ password = "" then "" else url.user ++ password ++ "@"

/-- What stands between the scheme and the path. -/
def authority (url : Url) : String :=
  match url.host with
  | none => ""
  | some host =>
    "//" ++ url.userText ++ host.text ++ (url.port.map (":" ++ toString ·)).getD ""

/-- An address in its normal form. -/
def text (url : Url) : String :=
  url.scheme ++ ":" ++ url.authority ++ url.target ++ (url.fragment.map ("#" ++ ·)).getD ""

end Url

end JobLog.Web
