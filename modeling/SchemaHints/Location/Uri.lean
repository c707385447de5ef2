/-
Absolute addresses. A location is an address when it starts with a scheme of two or more characters
and what follows is well formed for that scheme; only the scheme `file` leads to a path, every other
one to a remote document. A path is found as address readers find it: backslashes are slashes, tabs
and line ends are passed over, dot segments are resolved, a drive letter at the start is kept apart,
and percent encoding is removed at the end.
-/
import SchemaHints.Location.Host
import SchemaHints.Location.Path

namespace SchemaHints.Location

/-- What an address leads to. -/
inductive Target
  | path (path : Path)
  | remote
  deriving DecidableEq

/-- Whether a character ends the part of an address in front of its path. -/
def isBoundary (backslash : Bool) (c : Char) : Bool :=
  c = '/' || c = '?' || c = '#' || (backslash && c = '\\')

/-! ## Authorities -/

/-- The host at the start of a text, and what follows it; colons inside brackets belong to the host. -/
def cutHost (special inBrackets : Bool) : List Char → List Char × List Char
  | [] => ([], [])
  | c :: rest =>
    if (c = ':' && !inBrackets) || isBoundary special c then ([], c :: rest)
    else
      let inBrackets := if c = '[' then true else if c = ']' then false else inBrackets
      let (host, rest) := cutHost special inBrackets rest
      (c :: host, rest)

/-- Whether the text after a host is a well-formed port, or has none. -/
def isPortOrNone (cs : List Char) : Bool :=
  match cs with
  | ':' :: port =>
    let digits := port.takeWhile Char.isDigit
    let number := digits.foldl (fun n c => n * 10 + (c.toNat - '0'.toNat)) 0
    number ≤ 65535 && ((port.drop digits.length).head?.all (isBoundary true))
  | _ => true

/-- Whether a user and password leave something to write. -/
def hasUser (userInfo : List Char) : Bool :=
  !userInfo.isEmpty && userInfo ≠ [':']

/-- Whether an authority (user, host and port) and what follows it are well formed. -/
def isAuthority (special : Bool) (cs : List Char) : Bool :=
  let beforePath := cs.takeWhile fun c => !isBoundary special c
  let userInfo := (beforePath.reverse.dropWhile (· ≠ '@')).drop 1 |>.reverse
  let hasAt := beforePath.contains '@'
  let afterUser := if hasAt then cs.drop (userInfo.length + 1) else cs
  let (host, rest) := cutHost special false afterUser
  if hasAt && userInfo.isEmpty && afterUser.head?.any (isBoundary special) then false
  else if special then !host.isEmpty && isHost host && isPortOrNone rest
  else
    isOpaqueHost host && isPortOrNone rest &&
      !(host.isEmpty && (hasUser userInfo || rest.head? = some ':'))

/-! ## Paths of file addresses -/

/-- Whether a character counts for nothing wherever it stands in an address. -/
def isIgnored (c : Char) : Bool := c = '\t' || c = '\n' || c = '\r'

/-- The text after its first `n` characters that count. -/
def dropCounted : Nat → List Char → List Char
  | 0, cs => cs
  | _ + 1, [] => []
  | n + 1, c :: cs => dropCounted (if isIgnored c then n + 1 else n) cs

/-- Whether a text is a letter with a colon or a bar. -/
def isDriveSegment (segment : List Char) : Bool :=
  match segment with
  | [c, ':'] | [c, '|'] => c.isAlpha
  | _ => false

/-- Whether a text is a letter with a colon. -/
def isDrive (segment : List Char) : Bool := isDriveSegment segment && segment.contains ':'

/-- The spellings of a segment that leads to the directory above. -/
def isDoubleDot (segment : List Char) : Bool :=
  ["..", "%2e%2e", "%2e.", ".%2e"].contains (String.ofList (segment.map Char.toLower))

/-- The spellings of a segment that leads nowhere. -/
def isSingleDot (segment : List Char) : Bool :=
  [".", "%2e"].contains (String.ofList (segment.map Char.toLower))

/-- A path while it is read: its characters, the last one first, since only the end changes. -/
abbrev BackPath := List Char

namespace BackPath

/-- The characters after the last slash. -/
def last (path : BackPath) : List Char := (path.takeWhile (· ≠ '/')).reverse

/-- A path with a slash at its end. -/
def closed (path : BackPath) : BackPath := if path.head? = some '/' then path else '/' :: path

/-- A path without its final slash, unless that is the first or follows a drive. -/
def opened (path : BackPath) : BackPath :=
  match path with
  | '/' :: before => if before.contains '/' && !isDriveSegment (last before) then before else path
  | _ => path

/-- The path of the directory above, which a drive does not have. -/
def above (path : BackPath) : BackPath :=
  if isDrive (last path.opened) then path.opened else path.opened.dropWhile (· ≠ '/')

/-- Whether a drive is all that a path has. -/
def isDriveOnly (path : BackPath) : Bool :=
  match path with
  | [colon, letter, _] => isDrive [letter, colon]
  | _ => false

/-- Adds the pieces of a segment, which ignored characters separate, and tells whether a slash was
needed: where a drive is all that the path has, the next piece does not go on with the drive. -/
def addPieces (path : BackPath) : List (List Char) → BackPath × Bool
  | [] => (path, false)
  | piece :: rest =>
    if !piece.isEmpty && path.isDriveOnly then
      ((piece :: rest).foldl (fun path piece => piece.reverse ++ path) ('/' :: path), true)
    else addPieces (piece.reverse ++ path) rest

/-- Adds one segment; the flag of the result says that the segment is a drive, which only the first
segment of a path can be. -/
def addSegment (path : BackPath) (segment : List Char) (slash : Bool) : BackPath × Bool :=
  let pieces := segment.splitOnP isIgnored
  let written := pieces.flatten
  let (added, parted) := path.addPieces pieces
  let ended (path : BackPath) : BackPath := if slash then '/' :: path else path
  if parted then (ended added, false)
  else if isDoubleDot written then (if slash then path.above.closed else path.above, false)
  else if isSingleDot written then (path.closed, false)
  else if path = ['/'] && isDriveSegment written then (ended (':' :: written.take 1 ++ path), true)
  else (ended added, false)

/-- Adds segments in order, each but the last with a slash after it. -/
def addSegments (path : BackPath) : List (List Char) → BackPath × Bool
  | [] => (path, false)
  | [segment] => path.addSegment segment false
  | segment :: rest =>
    let (path, drive) := path.addSegment segment true
    let (path, drives) := addSegments path rest
    (path, drive || drives)

/-- The path that was read. It has exactly one slash at its start, however many were written; percent
encoding is removed, and a drive at the end is a directory. -/
def toPath (path : BackPath) : Path :=
  let bytes := percentDecode (Bytes.ofString (String.ofList ('/' :: path.reverse.dropWhile (· = '/'))))
  let bare := match bytes.reverse with
    | last :: letter :: _ :: _ => (last = 0x3A || last = 0x7C) && (Char.ofNat letter.toNat).isAlpha
    | _ => false
  ⟨if bare then bytes ++ [0x2F] else bytes⟩

end BackPath

/-- The path that the path part of a file address stands for, after the characters at its start; the
flag of the result says that it has a drive. -/
def pathOf (start : BackPath) (cs : List Char) : Path × Bool :=
  let part := (cs.takeWhile fun c => c ≠ '?' && c ≠ '#').map fun c => if c = '\\' then '/' else c
  let (path, drive) := start.addSegments (part.splitOn '/')
  (path.toPath, drive)

/-- What the text after the scheme `file` leads to, or nothing when it is malformed. -/
def fileTarget? (cs : List Char) : Option Target :=
  let isSlash (c : Char) : Bool := c = '/' || c = '\\'
  let opening := (cs.filter fun c => !isIgnored c).takeWhile isSlash
  if opening.isEmpty then some (.path (pathOf ['/'] cs).1)
  else if opening.length = 1 then some (.path (pathOf [] cs).1)
  else
    let authority := dropCounted 2 cs
    let host := (authority.takeWhile fun c => !isBoundary true c).filter fun c => !isIgnored c
    let rest := dropCounted host.length authority
    if isDriveSegment host then some (.path (pathOf ['/'] authority).1)
    else if host.isEmpty then some (.path (pathOf ['/'] rest).1)
    else if !isHost host then none
    else if domain? host = some "localhost".toList then some (.path (pathOf ['/'] rest).1)
    else
      let slash := ((rest.dropWhile isIgnored).head?.any isSlash)
      let (path, drive) := pathOf ['/'] (if slash then dropCounted 1 rest else rest)
      some (if drive then .path path else .remote)

/-! ## Addresses -/

/-- The scheme at the start of a text, in lower case, and what follows its colon. -/
def scheme? (cs : List Char) : Option (String × List Char) :=
  let scheme := cs.takeWhile fun c => c.isAlphanum || c = '+' || c = '-' || c = '.'
  match scheme, cs.drop scheme.length with
  | c :: _, ':' :: rest =>
    if c.isAlpha then some (String.ofList (scheme.map Char.toLower), rest) else none
  | _, _ => none

/-- The schemes whose addresses have a domain name. -/
def domainSchemes : List String := ["http", "https", "ws", "wss", "ftp"]

/-- What a text leads to when it is an absolute address; a single letter before a colon is a drive
and no scheme. -/
def target? (text : String) : Option Target :=
  let isOuter (c : Char) : Bool := c.toNat ≤ 0x20
  let cs := Text.stripped isOuter text.toList
  match scheme? (cs.filter fun c => !isIgnored c) with
  | none => none
  | some (scheme, rest) =>
    if scheme.length ≤ 1 then none
    else if scheme = "file" then fileTarget? (dropCounted (scheme.length + 1) cs)
    else if domainSchemes.contains scheme then
      if isAuthority true (rest.dropWhile fun c => c = '/' || c = '\\') then some .remote else none
    else match rest with
      | '/' :: '/' :: authority => if isAuthority false authority then some .remote else none
      | _ => some .remote

end SchemaHints.Location
