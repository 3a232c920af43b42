import Lexicon.Format.DomainName
import Lexicon.Format.IpAddress
import Lexicon.Text.Trim

/-!
# Lexicon.Format.Uri

Absolute URIs, as they are read in practice.

A URI begins with a scheme. The schemes of the web need a host, and take any
number of slashes in either direction before it; `file` has a host behind two
slashes only, and all others where `//` follows the scheme. Paths, queries and
fragments may hold anything, so it is the host and the port that decide.

## Main definitions

- `scheme?` — the scheme and what follows it
- `isHost` and `isOpaqueHost` — hosts of the schemes of the web, and of others
- `hasSoundAuthority` — credentials, host and port
- `isUri` — all together
-/

namespace Lexicon

namespace Format

namespace Uri

/-! ### Schemes -/

/-- What a scheme asks of its host. -/
inductive SchemeKind where
  | web
  | file
  | other
deriving DecidableEq, Repr

/-- The schemes that need a host. -/
def webSchemes : List String := ["http", "https", "ws", "wss", "ftp"]

/-- The kind of a scheme, whatever the case of its letters. -/
def schemeKind (name : List Char) : SchemeKind :=
  let name := String.ofList (name.map Text.asciiLower)
  if webSchemes.contains name then .web else if name == "file" then .file else .other

/-- A character of a scheme behind its first letter. -/
def isSchemeCharacter (c : Char) : Bool :=
  Text.isAsciiAlphanumeric c || c == '+' || c == '-' || c == '.'

/-- The scheme, and what follows its colon. -/
def scheme? (cs : List Char) : Option (SchemeKind × List Char) :=
  let name := cs.takeWhile isSchemeCharacter
  match name.head?.any Text.isAsciiLetter, cs.dropWhile isSchemeCharacter with
  | true, ':' :: rest => some (schemeKind name, rest)
  | _, _ => none

/-! ### Hosts -/

/-- The bytes of a text, with `%` and two hexadecimal digits for any byte. -/
def percentDecode : List Char → List UInt8
  | '%' :: high :: low :: rest =>
    if Text.isHexDigit high && Text.isHexDigit low then
      (Text.hexDigitValue high * 16 + Text.hexDigitValue low).toUInt8 :: percentDecode rest
    else Text.utf8 "%" ++ percentDecode (high :: low :: rest)
  | c :: rest => Text.utf8 (String.singleton c) ++ percentDecode rest
  | [] => []

/-- The address between brackets, if the host begins with one; a bracket must be closed. -/
def bracketed? (host : List Char) : Option (Option (List Char)) :=
  match host with
  | '[' :: rest => some (if rest.getLast? == some ']' then some rest.dropLast else none)
  | _ => none

/-- A domain name or an address of version 4. -/
def isNameOrVersion4 (host : List Char) : Bool :=
  match Text.ofUtf8? (percentDecode host) with
  | none => false
  | some name =>
    match DomainName.labels? name.toList with
    | none => false
    | some labels =>
      labels != [[]] && (!IpAddress.endsInNumber labels || IpAddress.isVersion4 labels)

/-- The host of a scheme of the web. -/
def isHost (host : List Char) : Bool :=
  match bracketed? host with
  | some (some address) => IpAddress.isVersion6 address
  | some none => false
  | none => isNameOrVersion4 host

/-- The host of another scheme: an address in brackets or any text without delimiters. -/
def isOpaqueHost (host : List Char) : Bool :=
  match bracketed? host with
  | some (some address) => IpAddress.isVersion6 address
  | some none => false
  | none => !host.any fun c => c == '\x00' || " #/:<>?@[\\]^|".toList.contains c

/-- Takes the host off: it goes up to a colon that is not between brackets. -/
def takeHost (inBrackets : Bool) : List Char → List Char × List Char
  | [] => ([], [])
  | c :: rest =>
    if c == ':' && !inBrackets then ([], c :: rest)
    else
      let (host, after) := takeHost (c == '[' || (inBrackets && c != ']')) rest
      (c :: host, after)

/-! ### Authorities -/

/-- The greatest port. -/
def maxPort : Nat := 65535

/-- Whether what follows the host is nothing or a port, which may be left out behind its colon. -/
def isPort : List Char → Bool
  | [] => true
  | _ :: text =>
    let digits := text.takeWhile (· != '\\')
    digits.all Text.isAsciiDigit
      && digits.foldl (fun n c => n * 10 + Text.hexDigitValue c) 0 ≤ maxPort

/-- Whether a character ends the authority. -/
def endsAuthority (isWeb : Bool) (c : Char) : Bool :=
  c == '/' || c == '?' || c == '#' || (isWeb && c == '\\')

/-- Whether the host and the port of an authority are sound. Without a host there may be neither
credentials nor a port. -/
def hasSoundHost (isWeb hasCredentials : Bool) (hostAndPort : List Char) : Bool :=
  let (host, port) := takeHost false hostAndPort
  if host.isEmpty then !isWeb && !hasCredentials && port.isEmpty
  else (if isWeb then isHost host else isOpaqueHost host) && isPort port

/-- Divides an authority at its last `@`, if it has one. -/
def credentials? (authority : List Char) : Option (List Char × List Char) :=
  let reversed := authority.reverse
  match reversed.dropWhile (· != '@') with
  | [] => none
  | _ :: before => some (before.reverse, (reversed.takeWhile (· != '@')).reverse)

/-- Whether a text begins with a sound authority. A lone `@` needs a host even where others may
do without one, unless the text ends there. -/
def hasSoundAuthority (isWeb : Bool) (cs : List Char) : Bool :=
  let authority := cs.takeWhile fun c => !endsAuthority isWeb c
  match credentials? authority with
  | none => hasSoundHost isWeb false authority
  | some ([], hostAndPort) =>
    !(hostAndPort.isEmpty && authority.length < cs.length) && hasSoundHost isWeb false hostAndPort
  | some (userinfo, hostAndPort) => hasSoundHost isWeb (userinfo != [':']) hostAndPort

/-! ### Files -/

/-- A letter of a drive, which is no host. -/
def isDriveLetter (cs : List Char) : Bool :=
  match cs with
  | [letter, mark] => Text.isAsciiLetter letter && (mark == ':' || mark == '|')
  | _ => false

/-- Whether a text begins with nothing, a letter of a drive or a host. -/
def hasSoundFileHost (cs : List Char) : Bool :=
  let host := cs.takeWhile fun c => !endsAuthority true c
  host.isEmpty || isDriveLetter host || isHost host

/-! ### URIs -/

/-- A slash in either direction. -/
def isSlash (c : Char) : Bool := c == '/' || c == '\\'

/-- Whether what follows the scheme is sound. -/
def hasSoundRest : SchemeKind → List Char → Bool
  | .web, rest => hasSoundAuthority true (rest.dropWhile isSlash)
  | .file, first :: second :: rest => !(isSlash first && isSlash second) || hasSoundFileHost rest
  | .other, '/' :: '/' :: rest => hasSoundAuthority false rest
  | _, _ => true

/-- Blanks and controls, which do not count at the ends. -/
def isEdge (c : Char) : Bool := c ≤ ' '

/-- The characters of a URI that count: tabs and ends of lines do not count anywhere. -/
def significant (value : String) : List Char :=
  (Text.dropEndWhile isEdge (value.toList.dropWhile isEdge)).filter fun c =>
    c != '\t' && c != '\n' && c != '\r'

end Uri

/-- An absolute URI. -/
def isUri (value : String) : Bool :=
  match Uri.scheme? (Uri.significant value) with
  | none => false
  | some (kind, rest) => Uri.hasSoundRest kind rest

end Format

end Lexicon
