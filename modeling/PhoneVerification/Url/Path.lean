import PhoneVerification.Text.Blank
import PhoneVerification.Url.Basic
import PhoneVerification.Url.Percent

/-!
# Paths

A path is read segment by segment onto the path of the place it starts from. A segment of two dots
takes the last segment away, a segment of one dot adds nothing. The drive letter of a file is never
taken away.
-/

namespace PhoneVerification.Url.Path

/-- Whether a segment stands for the place itself. -/
def isSingleDot (s : List Char) : Bool :=
  let s := s.map Text.lowerAscii
  s == ['.'] || s == ['%', '2', 'e']

/-- Whether a segment stands for the place above. -/
def isDoubleDot (s : List Char) : Bool :=
  let s := s.map Text.lowerAscii
  s == ['.', '.'] || s == ['.', '%', '2', 'e'] || s == ['%', '2', 'e', '.'] ||
    s == ['%', '2', 'e', '%', '2', 'e']

/-- Whether two characters are a drive letter: a letter and a colon or bar. -/
def isDrive (c d : Char) : Bool :=
  Text.isAsciiLetter c && (d == ':' || d == '|')

/-- A drive letter and nothing else. -/
def isDriveLetter : List Char → Bool
  | [c, d] => isDrive c d
  | _ => false

/-- A drive letter with a colon, and nothing else. -/
def isPlainDriveLetter : List Char → Bool
  | [c, ':'] => Text.isAsciiLetter c
  | _ => false

/-- Whether a character is a slash of either direction. -/
def isSlash (c : Char) : Bool :=
  c == '/' || c == '\\'

/-- A drive letter, with a slash or nothing after it. -/
def startsWithDrive : List Char → Bool
  | c :: d :: rest => isDrive c d && (rest.head?.map isSlash).getD true
  | _ => false

/-- A drive letter in its usual spelling, with a colon. -/
def plainDrive : List Char → List Char
  | [c, '|'] => [c, ':']
  | s => s

/-- The path up to its last slash. -/
def directory (path : List Char) : List Char :=
  Text.dropTail (· != '/') path

/-- What stands after the last slash. -/
def lastSegment (path : List Char) : List Char :=
  (path.reverse.takeWhile (· != '/')).reverse

/-- The path without its last segment, unless that is the drive letter of a file. -/
def shorten (kind : SchemeKind) (path : List Char) : List Char :=
  if kind == .file && isPlainDriveLetter (lastSegment path) then path else directory path

/-- Whether a path is closed by a slash. -/
def isClosed (path : List Char) : Bool :=
  path.getLast? == some '/'

/-- The path with a slash at its end. -/
def close (path : List Char) : List Char :=
  if isClosed path then path else path ++ ['/']

/-- The path above. The slash of the root stays, and so does one after a drive letter. -/
def above (kind : SchemeKind) (path : List Char) : List Char :=
  let front := path.dropLast
  if isClosed path && front.contains '/' && !startsWithDrive (lastSegment front) then
    shorten kind front
  else shorten kind path

/-- What has been read of a path, and whether it starts with a drive letter, so that it belongs to
no host. -/
structure Reading where
  path : List Char
  hasDrive : Bool := false

/-- Reads one segment and the slash after it, if there is one. Whatever follows the drive letter of
a file is kept apart from it. -/
def Reading.next (kind : SchemeKind) (r : Reading) (segment : List Char) (slash : Bool) :
    Reading :=
  let path :=
    if kind == .file && !segment.isEmpty && isPlainDriveLetter (r.path.drop 1) then close r.path
    else r.path
  let tail := if slash then ['/'] else []
  if isDoubleDot segment then
    { r with path := if slash then close (above kind path) else above kind path }
  else if isSingleDot segment then { r with path := close path }
  else if kind == .file && path.length == 1 && isDriveLetter segment then
    ⟨path ++ plainDrive segment ++ tail, true⟩
  else { r with path := path ++ segment ++ tail }

/-- Reads segments with slashes between them. -/
def Reading.all (kind : SchemeKind) (r : Reading) : List (List Char) → Reading
  | [] => r
  | [s] => r.next kind s false
  | s :: rest => (r.next kind s true).all kind rest

/-- Whether a character ends a segment. -/
def endsSegment (kind : SchemeKind) (c : Char) : Bool :=
  c == '/' || (kind.readsBackslash && c == '\\')

/-- The path of a file starts with a single slash. -/
def oneSlash (kind : SchemeKind) (path : List Char) : List Char :=
  if kind == .file then '/' :: path.dropWhile (· == '/') else path

/-- Reads a text onto a path. -/
def read (kind : SchemeKind) (path s : List Char) : Reading :=
  let segments := (s.splitOnP (endsSegment kind)).map (Percent.encode Percent.path)
  let r := Reading.all kind ⟨path, false⟩ segments
  { r with path := oneSlash kind r.path }

/-- The path that a text leads to from another one. -/
def extend (kind : SchemeKind) (path s : List Char) : List Char :=
  (read kind path s).path

/-- The text without one slash at its start. -/
def dropSlash (kind : SchemeKind) : List Char → List Char
  | [] => []
  | c :: rest => if endsSegment kind c then rest else c :: rest

/-- The path that follows a host. Without a special scheme it may be empty. -/
def afterHost (kind : SchemeKind) (s : List Char) : Reading :=
  if kind == .other && s.isEmpty then ⟨[], false⟩ else read kind ['/'] (dropSlash kind s)

/-- The first segment of a path. -/
def firstSegment (path : List Char) : List Char :=
  (path.drop 1).takeWhile (· != '/')

end PhoneVerification.Url.Path
