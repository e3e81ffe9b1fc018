import LoadMonitor.Url.Address

/-!
# Addresses

The parts of an address in the form in which they are stored, and its text.
-/

namespace LoadMonitor

/-- A host: a number in one of two formats, or a name. -/
inductive UrlHost where
  | name (text : List Char)
  | ipv4 (address : Nat)
  | ipv6 (groups : List Nat)
  deriving DecidableEq, Repr

def UrlHost.text : UrlHost → List Char
  | name text => text
  | ipv4 address => Url.Ipv4.text address
  | ipv6 groups => '[' :: (Url.Ipv6.text groups ++ [']'])

/-- A path: segments, each with a slash before it, or a text without structure. -/
inductive UrlPath where
  | segments (list : List (List Char))
  | unstructured (text : List Char)
  deriving DecidableEq, Repr

def UrlPath.text : UrlPath → List Char
  | segments list => list.flatMap ('/' :: ·)
  | unstructured text => text

/-- The part of an address before its path: who asks, and whom. -/
structure UrlAuthority where
  user : List Char
  password : Option (List Char)
  host : UrlHost
  port : Option Nat
  deriving DecidableEq, Repr

namespace UrlAuthority

/-- The user and the password with the sign after them, nothing if there are none. -/
def userText (a : UrlAuthority) : List Char :=
  match a.password with
  | some password => a.user ++ ':' :: password ++ ['@']
  | none => if a.user.isEmpty then [] else a.user ++ ['@']

def portText (a : UrlAuthority) : List Char :=
  match a.port with
  | some port => ':' :: Nat.toDigits 10 port
  | none => []

def text (a : UrlAuthority) : List Char := '/' :: '/' :: a.userText ++ a.host.text ++ a.portText

end UrlAuthority

/-- An address. -/
structure Url where
  scheme : List Char
  authority : Option UrlAuthority
  path : UrlPath
  query : Option (List Char)
  fragment : Option (List Char)
  deriving DecidableEq, Repr

namespace Url

/-- How the addresses of a scheme are read. -/
inductive SchemeKind where
  /-- Files have addresses of their own kind. -/
  | file
  /-- Well-known schemes, which always have a host. -/
  | special
  | other
  deriving DecidableEq, Repr

/-- The kind of a scheme. -/
def kindOf (scheme : List Char) : SchemeKind :=
  let name := String.ofList scheme
  if name == "file" then .file
  else if ["http", "https", "ws", "wss", "ftp"].contains name then .special
  else .other

/-- The port that is meant when none is given. -/
def defaultPort (scheme : List Char) : Option Nat :=
  match String.ofList scheme with
  | "http" => some 80
  | "ws" => some 80
  | "https" => some 443
  | "wss" => some 443
  | "ftp" => some 21
  | _ => none

/-- Whether other addresses can be given relative to this one. -/
def canBeBase (u : Url) : Bool :=
  match u.path with
  | .segments _ => true
  | .unstructured _ => false

/-! ## Text -/

/-- What stands between the scheme and the path. Without an authority, a path that begins
with two slashes is set off by a dot so that it is not taken for one. -/
def authorityText (u : Url) : List Char :=
  match u.authority, u.path with
  | some a, _ => a.text
  | none, .segments ([] :: _ :: _) => ['/', '.']
  | none, _ => []

def queryText (u : Url) : List Char :=
  match u.query with
  | some query => '?' :: query
  | none => []

def fragmentText (u : Url) : List Char :=
  match u.fragment with
  | some fragment => '#' :: fragment
  | none => []

/-- The characters of an address. -/
def chars (u : Url) : List Char :=
  u.scheme ++ ':' :: (u.authorityText ++ u.path.text ++ u.queryText ++ u.fragmentText)

/-- The text of an address. -/
def text (u : Url) : String := String.ofList u.chars

end Url
end LoadMonitor
