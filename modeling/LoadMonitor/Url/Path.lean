import LoadMonitor.Text.Split
import LoadMonitor.Url.Basic

/-!
# Paths

Reading a path: segments that mean the directory itself or the one above it are resolved, and
characters are encoded. A drive is never left for the directory above it.
-/

namespace LoadMonitor.Url

/-! ## Breaks -/

/-- Tabs and line ends, which an address may be broken by. -/
def isBreak (c : Char) : Bool := c == '\t' || c == '\n' || c == '\r'

def dropBreaks (cs : List Char) : List Char := cs.filter (!isBreak ·)

/-! ## Segments -/

/-- A segment that means the directory itself. -/
def isSingleDot (segment : List Char) : Bool :=
  [".", "%2e", "%2E"].contains (String.ofList segment)

/-- A segment that means the directory above. -/
def isDoubleDot (segment : List Char) : Bool :=
  ["..", "%2e%2e", "%2e%2E", "%2E%2e", "%2E%2E", "%2e.", "%2E.", ".%2e", ".%2E"].contains
    (String.ofList segment)

/-- A drive: a letter with a colon or a bar after it. -/
def isDrive : List Char → Bool
  | [c, d] => c.isAlpha && (d == ':' || d == '|')
  | _ => false

/-- Whether a segment is a drive up to its first backslash. -/
def beginsWithDrive (segment : List Char) : Bool := isDrive (segment.takeWhile (· != '\\'))

/-- Go to the directory above, but do not leave a drive; the directories are listed from the
innermost outward. -/
def leave : List (List Char) → List (List Char)
  | [] => []
  | d :: rest => if beginsWithDrive d then d :: rest else rest

/-- A drive with a break right after it, and what follows. -/
def brokenDrive? (piece : List Char) : Option (List Char × List Char) :=
  match dropBreaks piece, (piece.dropWhile (· != ':')).drop 1 with
  | c :: ':' :: d :: rest, after =>
    if c.isAlpha && after.head?.any isBreak then some ([c, ':'], d :: rest) else none
  | _, _ => none

/-- What a piece of a path means. -/
inductive Step where
  | here
  | above
  /-- Segments to go down to, and whether they are a drive. -/
  | down (segments : List (List Char)) (toDrive : Bool)

/-- What a piece of a path means. The first piece of the path of a file is a drive if it looks
like one; a break after a drive ends its segment. -/
def Step.ofPiece (kind : SchemeKind) (isFirst : Bool) (piece : List Char) : Step :=
  let text := dropBreaks piece
  match if isFirst && kind == .file then brokenDrive? piece else none with
  | some (drive, rest) => down [drive, encode inPathSet rest] false
  | none =>
    if isDoubleDot text then above
    else if isSingleDot text then here
    else if isFirst && kind == .file && isDrive text then down [text.take 1 ++ [':']] true
    else down [encode inPathSet text] false

/-! ## Resolving -/

/-- Resolve the pieces of a path, in the directories that are listed from the innermost
outward. The last piece names what is meant, which is the directory itself if it is empty. -/
def resolve (kind : SchemeKind) (directories : List (List Char)) :
    List (List Char) → List (List Char)
  | [] => directories.reverse
  | [last] =>
    match Step.ofPiece kind directories.isEmpty last with
    | .here => directories.reverse ++ [[]]
    | .above => (leave directories).reverse ++ [[]]
    | .down segments _ => directories.reverse ++ segments
  | piece :: next :: rest =>
    match Step.ofPiece kind directories.isEmpty piece with
    | .here => resolve kind directories (next :: rest)
    | .above => resolve kind (leave directories) (next :: rest)
    | .down segments _ => resolve kind (segments.reverse ++ directories) (next :: rest)

/-- Whether a drive is gone down to on the way through the pieces of a path. -/
def meetsDrive (kind : SchemeKind) (directories : List (List Char)) : List (List Char) → Bool
  | [] => false
  | piece :: rest =>
    match Step.ofPiece kind directories.isEmpty piece with
    | .here => meetsDrive kind directories rest
    | .above => meetsDrive kind (leave directories) rest
    | .down segments toDrive => toDrive || meetsDrive kind (segments.reverse ++ directories) rest

/-! ## Reading -/

/-- Whether a character separates segments. -/
def isSegmentEnd (kind : SchemeKind) (c : Char) : Bool :=
  c == '/' || (c == '\\' && kind != .other)

/-- The pieces of a path that follows the slash at its beginning. -/
def pieces (kind : SchemeKind) (cs : List Char) : List (List Char) :=
  splitAtChars (isSegmentEnd kind) cs

/-- The path of a file begins with a single slash. -/
def dropLeadingEmpty : List (List Char) → List (List Char)
  | [] :: next :: rest => dropLeadingEmpty (next :: rest)
  | segments => segments

/-- Read a path, in the given directories. -/
def readSegments (kind : SchemeKind) (directories : List (List Char)) (cs : List Char) :
    List (List Char) :=
  let segments := resolve kind directories (pieces kind cs)
  if kind = .file then dropLeadingEmpty segments else segments

/-- The path without the slash at its beginning, if it has one. -/
def dropSlash (kind : SchemeKind) (cs : List Char) : List Char :=
  match cs.dropWhile isBreak with
  | [] => []
  | c :: rest => if isSegmentEnd kind c then rest else c :: rest

/-- Read the path that follows an authority. Only a well-known scheme has a path where none is
written. -/
def readPath (kind : SchemeKind) (cs : List Char) : List (List Char) :=
  if cs.isEmpty && kind = .other then [] else readSegments kind [] (dropSlash kind cs)

end LoadMonitor.Url
