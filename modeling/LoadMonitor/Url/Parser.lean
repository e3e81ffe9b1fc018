import LoadMonitor.Url.Domain
import LoadMonitor.Url.Path

/-!
# Reading addresses

An address is cut at the characters that end its parts, and every part is brought into the
form in which it is stored.
-/

namespace LoadMonitor

/-- Why a text is not an address. -/
inductive UrlError where
  | noBase
  /-- The address that others would be relative to has no structure. -/
  | notABase
  | emptyHost
  | invalidPort
  | invalidIpv4
  | invalidIpv6
  | invalidDomain
  /-- A name that is not looked up holds a character that it may not. -/
  | invalidDomainCharacter
  deriving DecidableEq, Repr

def UrlError.message : UrlError → String
  | noBase => "relative URL without a base"
  | notABase => "relative URL with a cannot-be-a-base base"
  | emptyHost => "empty host"
  | invalidPort => "invalid port number"
  | invalidIpv4 => "invalid IPv4 address"
  | invalidIpv6 => "invalid IPv6 address"
  | invalidDomain => "invalid international domain name"
  | invalidDomainCharacter => "invalid domain character"

namespace Url

/-! ## Cutting -/

/-- Drop controls and blanks around the text. -/
def trim (cs : List Char) : List Char :=
  let isOuter := fun c : Char => c.toNat ≤ 0x20
  ((cs.dropWhile isOuter).reverse.dropWhile isOuter).reverse

/-- Whether a character may stand in a scheme. -/
def isSchemeChar (c : Char) : Bool := c.isAlphanum || c == '+' || c == '-' || c == '.'

/-- The scheme in small letters and what follows the colon. -/
def splitScheme (cs : List Char) : Option (List Char × List Char) :=
  match cutAtChar ':' cs with
  | (_, none) => none
  | (front, some after) =>
    let scheme := dropBreaks front
    if scheme.head?.any Char.isAlpha && scheme.all isSchemeChar then
      some (scheme.map Char.toLower, after)
    else none

/-- The parts of what follows the scheme: the path with all before it, the query and the
fragment. -/
def splitTail (cs : List Char) : List Char × Option (List Char) × Option (List Char) :=
  let (front, fragment) := cutAtChar '#' cs
  let (path, query) := cutAtChar '?' front
  (path, query, fragment)

/-! ## Hosts -/

/-- A host in brackets. -/
def readBracketed (cs : List Char) : Except UrlError UrlHost :=
  match cs.reverse with
  | ']' :: inner =>
    match Ipv6.read inner.reverse with
    | some groups => .ok (.ipv6 groups)
    | none => .error .invalidIpv6
  | _ => .error .invalidIpv6

/-- The host of a well-known scheme: an address or a domain name. -/
def readDomain (cs : List Char) : Except UrlError UrlHost :=
  match (textOfBytes? (decode cs)).bind Domain.ofChars? with
  | none => .error .invalidDomain
  | some name =>
    if name.isEmpty then .error .emptyHost
    else if Ipv4.looksNumeric name then
      match Ipv4.read name with
      | some address => .ok (.ipv4 address)
      | none => .error .invalidIpv4
    else .ok (.name name)

/-- Characters that the name of a host may not hold, even if it is not looked up. -/
def isForbiddenInName (c : Char) : Bool := "\x00\t\n\r #/:<>?@[\\]^|".toList.contains c

/-- The host of another scheme: a name that is not looked up. -/
def readName (cs : List Char) : Except UrlError UrlHost :=
  if cs.any isForbiddenInName then .error .invalidDomainCharacter
  else .ok (.name (encode isControl cs))

/-- Read a host. -/
def readHost (kind : SchemeKind) (cs : List Char) : Except UrlError UrlHost :=
  match cs with
  | '[' :: inner => readBracketed inner
  | _ => if kind = .other then readName cs else readDomain cs

/-! ## Authorities -/

/-- Read a user with a password, each without the characters that have a meaning here. The
colon before an empty password is dropped. -/
def readUser (cs : List Char) : List Char × Option (List Char) :=
  match cutAtChar ':' cs with
  | (user, none) => (encode inUserSet user, none)
  | (user, some []) => (encode inUserSet user, none)
  | (user, some password) => (encode inUserSet user, some (encode inUserSet password))

/-- The characters of the host: up to a colon outside of brackets, which begins the port. -/
def splitHost : Bool → List Char → List Char × Option (List Char)
  | _, [] => ([], none)
  | bracketed, c :: cs =>
    if c == ':' && !bracketed then ([], some cs)
    else
      let bracketed := if c == '[' then true else if c == ']' then false else bracketed
      let (host, port) := splitHost bracketed cs
      (c :: host, port)

/-- Read a port. The port that is meant anyway is dropped. A backslash ends the port; what
follows then belongs to the path. -/
def readPort (scheme : List Char) (cs : List Char) :
    Except UrlError (Option Nat × List Char) :=
  let digits := cs.takeWhile Char.isDigit
  let rest := cs.dropWhile Char.isDigit
  if rest.isEmpty || rest.head? == some '\\' then
    match numeralValue 10 digits with
    | some n =>
      if 65535 < n then .error .invalidPort
      else .ok (if digits.isEmpty || some n == defaultPort scheme then none else some n, rest)
    | none => .error .invalidPort
  else .error .invalidPort

/-- Read an authority; `isLast` tells whether nothing follows it in the address. What is left
of it after a port belongs to the path. -/
def readAuthority (scheme : List Char) (kind : SchemeKind) (isLast : Bool) (cs : List Char) :
    Except UrlError (UrlAuthority × List Char) := do
  let (user?, after) := cutAtLastChar '@' cs
  if user? == some [] && after.isEmpty && !isLast then throw .emptyHost
  let (user, password) := readUser (user?.getD [])
  let (hostChars, portChars) := splitHost false after
  if kind != .other && hostChars.isEmpty then throw .emptyHost
  let host ← readHost kind hostChars
  if host == .name [] && portChars.isSome then throw .emptyHost
  let (port, rest) ← match portChars with
    | none => pure (none, [])
    | some port => readPort scheme port
  if host == .name [] && (!user.isEmpty || password.isSome) then throw .emptyHost
  return (⟨user, password, host, port⟩, rest)

/-! ## Whole addresses -/

/-- The query in the form in which it is stored. -/
def readQuery (kind : SchemeKind) (cs : List Char) : List Char :=
  encode (if kind = .other then inQuerySet else inSpecialQuerySet) cs

/-- The fragment in the form in which it is stored. -/
def readFragment (cs : List Char) : List Char := encode inFragmentSet cs

/-- Read the authority and the path of an address that has both; `isLast` tells whether it has
neither query nor fragment. -/
def readHierarchy (scheme : List Char) (kind : SchemeKind) (isLast : Bool) (cs : List Char) :
    Except UrlError (UrlAuthority × UrlPath) := do
  let authority := cs.takeWhile fun c => !isSegmentEnd kind c
  let path := cs.dropWhile fun c => !isSegmentEnd kind c
  let (authority, rest) ← readAuthority scheme kind (isLast && path.isEmpty) authority
  return (authority, .segments (readPath kind (rest ++ path)))

/-- The authority without anybody or anything in it. -/
def nobody : UrlAuthority := ⟨[], none, .name [], none⟩

/-- Read the path of a file on the host that stands before it. No host stands before a drive, and
the local host is not stored: the path is then read with the slash that it begins with, so that
nothing in it is its first segment. -/
def readFileOnHost (cs : List Char) : Except UrlError (UrlAuthority × UrlPath) :=
  let hostChars := dropBreaks (cs.takeWhile fun c => !isSegmentEnd .file c)
  let path := cs.dropWhile fun c => !isSegmentEnd .file c
  if isDrive hostChars then .ok (nobody, .segments (readSegments .file [] cs))
  else if hostChars.isEmpty then .ok (nobody, .segments (readSegments .file [] path))
  else do
    let host ← readHost .file hostChars
    if host == .name "localhost".toList then
      return (nobody, .segments (readSegments .file [] path))
    else
      let isOnDrive := meetsDrive .file [] (pieces .file (dropSlash .file path))
      return (if isOnDrive then nobody else ⟨[], none, host, none⟩,
        .segments (readPath .file path))

/-- Read the host and the path of a file. A host has two slashes before it. -/
def readFile (cs : List Char) : Except UrlError (UrlAuthority × UrlPath) :=
  match cs.dropWhile isBreak with
  | a :: after =>
    match after.dropWhile isBreak with
    | b :: rest =>
      if isSegmentEnd .file a && isSegmentEnd .file b then readFileOnHost rest
      else .ok (nobody, .segments (readPath .file cs))
    | [] => .ok (nobody, .segments (readPath .file cs))
  | [] => .ok (nobody, .segments (readPath .file cs))

/-- Read what follows the scheme, without the query and the fragment; `isLast` tells whether
there are none. -/
def readBody (scheme : List Char) (kind : SchemeKind) (isLast : Bool) (cs : List Char) :
    Except UrlError (Option UrlAuthority × UrlPath) :=
  match kind with
  | .file => do
    let (authority, path) ← readFile cs
    return (some authority, path)
  | .special => do
    let (authority, path) ← readHierarchy scheme kind isLast (cs.dropWhile (isSegmentEnd kind))
    return (some authority, path)
  | .other =>
    match cs with
    | '/' :: '/' :: rest => do
      let (authority, path) ← readHierarchy scheme kind isLast rest
      return (some authority, path)
    | '/' :: rest => return (none, .segments (readSegments kind [] rest))
    | _ => return (none, .unstructured (encode isControl cs))

/-- Read an address. Breaks do not count, save in the path of a file, where they are left to be
read with the segments. -/
def parse (text : String) : Except UrlError Url :=
  match splitScheme (trim text.toList) with
  | none => .error .noBase
  | some (scheme, body) => do
    let kind := kindOf scheme
    let (front, query, fragment) := splitTail body
    let front := if kind = .file then front else dropBreaks front
    let (authority, path) ← readBody scheme kind (query.isNone && fragment.isNone) front
    return ⟨scheme, authority, path, query.map (readQuery kind ∘ dropBreaks),
      fragment.map (readFragment ∘ dropBreaks)⟩

/-! ## Addresses below an address -/

/-- The address with a slash at the end of its path. The path of a file is read once more when
it gets one: what was not its first segment before may be a drive now. -/
def withTrailingSlash (u : Url) : Url :=
  match u.path with
  | .segments list =>
    if list.getLast? == some [] then u
    else if kindOf u.scheme = .file then
      { u with path := .segments (readPath .file (u.path.text ++ ['/'])) }
    else { u with path := .segments (list ++ [[]]) }
  | .unstructured [] => { u with path := .unstructured "%2F".toList }
  | .unstructured text =>
    if text.getLast? == some '/' then u else { u with path := .unstructured (text ++ ['/']) }

/-- The address that a relative path means, seen from the directory of this one. Queries and
fragments are not taken over. -/
def join (u : Url) (relative : String) : Except UrlError Url :=
  match u.path with
  | .unstructured _ => .error .notABase
  | .segments list =>
    .ok { u with
      path := .segments (readSegments (kindOf u.scheme) list.dropLast.reverse relative.toList)
      query := none
      fragment := none }

end Url
end LoadMonitor
