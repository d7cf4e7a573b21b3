import PhoneVerification.Text.Blank
import PhoneVerification.Url.Path

/-!
# Reading of addresses

`Url.parse` reads an absolute address, `Url.join` a reference as it stands on a page. A text is
first split into scheme, body, query and fragment; the body is then read as the scheme asks for.
-/

namespace PhoneVerification.Url

/-- A reference without its scheme, not yet encoded. -/
structure Reference where
  body : List Char
  query : Option (List Char)
  fragment : Option (List Char)

/-- The text before a character and, if it occurs, the text after it. -/
def splitFirst (c : Char) (s : List Char) : List Char × Option (List Char) :=
  match s.span (· != c) with
  | (before, _ :: after) => (before, some after)
  | (before, []) => (before, none)

/-- The texts before and after the last occurrence of a character. -/
def splitLast? (c : Char) (s : List Char) : Option (List Char × List Char) :=
  match s.reverse.span (· != c) with
  | (after, _ :: before) => some (before.reverse, after.reverse)
  | (_, []) => none

/-- Splits off fragment and query. -/
def Reference.of (s : List Char) : Reference :=
  let (s, fragment) := splitFirst '#' s
  let (body, query) := splitFirst '?' s
  ⟨body, query, fragment⟩

/-- The text without controls and spaces at its ends, and without tabs and line ends. -/
def clean (s : List Char) : List Char :=
  (Text.strip (fun c => c.toNat ≤ 0x20) s).filter fun c => c != '\t' && c != '\n' && c != '\r'

def isSchemeChar (c : Char) : Bool :=
  Text.isAsciiLetter c || Text.isAsciiDigit c || c == '+' || c == '-' || c == '.'

/-- The scheme in small letters and what follows its colon. -/
def scheme? (s : List Char) : Option (List Char × List Char) :=
  match s.span isSchemeChar with
  | (c :: name, ':' :: rest) =>
    if Text.isAsciiLetter c then some ((c :: name).map Text.lowerAscii, rest) else none
  | _ => none

/-- Adds the query and the fragment of a reference to an address. -/
def finish (kind : SchemeKind) (u : Url) (r : Reference) : Url :=
  let inQuery := if kind == .other then Percent.query else Percent.specialQuery
  { u with
    query := r.query.map (Percent.encode inQuery)
    fragment := r.fragment.map (Percent.encode Percent.fragment) }

/-- The text that names the host, up to a colon outside brackets, and what follows. -/
def hostText (kind : SchemeKind) : Bool → List Char → List Char × List Char
  | _, [] => ([], [])
  | inside, c :: rest =>
    if (c == ':' && !inside) || Path.endsSegment kind c then ([], c :: rest)
    else
      let (host, rest) := hostText kind (c == '[' || (inside && c != ']')) rest
      (c :: host, rest)

/-- A port with its colon, and what follows. The usual port of the scheme counts as none. -/
def portOf (scheme : List Char) : List Char → Except UrlError (Option Nat × List Char)
  | ':' :: s =>
    let (digits, rest) := s.span Text.isAsciiDigit
    match digits, (rest.head?.map fun c => c == '/' || c == '\\').getD true with
    | [], true => .ok (none, rest)
    | digits, true =>
      match Text.ofDigits? 10 digits with
      | none => .error .invalidPort
      | some n =>
        if 65535 < n then .error .invalidPort
        else .ok (if usualPort? scheme = some n then none else some n, rest)
    | _, false => .error .invalidPort
  | s => .ok (none, s)

/-- User name and password as they stand before the host. An empty password is none. -/
def credentials (info : List Char) : List Char × Option (List Char) :=
  match splitFirst ':' info with
  | (user, some []) => (Percent.encode Percent.userinfo user, none)
  | (user, password) =>
    (Percent.encode Percent.userinfo user, password.map (Percent.encode Percent.userinfo))

/-- Reads what follows two slashes: credentials, host, port and path. -/
def afterSlashes (kind : SchemeKind) (scheme : List Char) (r : Reference) :
    Except UrlError Url := do
  let (zone, tail) := r.body.span fun c => !Path.endsSegment kind c
  let (info, rest) := (splitLast? '@' zone).getD ([], zone)
  let more := !tail.isEmpty || r.query.isSome || r.fragment.isSome
  if zone == ['@'] && more then .error .emptyHost
  else
    let (username, password) := credentials info
    let (name, rest) := hostText kind false (rest ++ tail)
    if kind == .special && name.isEmpty then .error .emptyHost
    else
      let host ← if kind == .other then Host.other name else Host.special name
      if host.isEmpty && (rest.head? == some ':' || !username.isEmpty || password.isSome) then
        .error .emptyHost
      else
        let (port, rest) ← portOf scheme rest
        .ok (finish kind
          { scheme, username, password, host := some host, port
            path := .rooted (Path.afterHost kind rest).path } r)

/-- Reads a reference without a body, which stays on the page. -/
def samePage (base : Url) (r : Reference) : Url :=
  let u := finish (SchemeKind.of base.scheme) base r
  if r.query.isSome then u else { u with query := base.query }

/-- Reads a reference that has no scheme, or the scheme of the address it is relative to. -/
def relativeTo (base : Url) (r : Reference) : Except UrlError Url :=
  let kind := SchemeKind.of base.scheme
  match base.path, r.body with
  | _, [] => .ok (samePage base r)
  | .text _, _ => .error .relativeToOpaque
  | .rooted path, body =>
    match body.takeWhile Path.isSlash, body with
    | [], _ =>
      let start := Path.directory path
      let start := if start.isEmpty then ['/'] else start
      .ok (finish kind { base with path := .rooted (Path.extend kind start body) } r)
    | [_], _ :: rest =>
      .ok (finish kind { base with path := .rooted (Path.extend kind ['/'] rest) } r)
    | _, '/' :: '/' :: rest => afterSlashes kind base.scheme { r with body := rest }
    | _, body => afterSlashes kind base.scheme { r with body := body.dropWhile Path.isSlash }

/-- The address of a file without a host. -/
def fileUrl (path : List Char) (r : Reference) : Url :=
  finish .file { scheme := ['f', 'i', 'l', 'e'], host := some (.name []), path := .rooted path } r

/-- Reads what follows the two slashes of a file. A drive letter is no host, and a path that starts
with a drive letter has none. -/
def fileAfterSlashes (r : Reference) : Except UrlError Url :=
  let (name, rest) := r.body.span fun c => !Path.isSlash c
  if name.isEmpty || Path.isDriveLetter name then
    .ok (fileUrl (Path.extend .file ['/'] r.body) r)
  else do
    let host ← Host.special name
    let reading := Path.afterHost .file rest
    let u := fileUrl reading.path r
    if reading.hasDrive || host == .name "localhost".toList then .ok u
    else .ok { u with host := some host }

/-- Reads a path of a file that starts with a slash. Drive letter and host are those of the page,
unless the path has a drive letter of its own. -/
def fileFromRoot (base : Option Url) (r : Reference) (body : List Char) : Url :=
  let own := fileUrl (Path.extend .file ['/'] body) r
  match base with
  | none => own
  | some page =>
    let drive := Path.firstSegment page.pathChars
    if Path.startsWithDrive body then own
    else if Path.isPlainDriveLetter drive then
      fileUrl (Path.extend .file ('/' :: drive ++ ['/']) body) r
    else { own with host := page.host }

/-- Reads a path of a file that starts without a slash. It goes on from the path of the page,
unless it has a drive letter of its own. -/
def fileFromPage (base : Option Url) (r : Reference) : Url :=
  let own := fileUrl (Path.extend .file ['/'] r.body) r
  match base with
  | none => own
  | some page =>
    if r.body.isEmpty then samePage page r
    else if Path.startsWithDrive r.body then own
    else
      let path := Path.extend .file (Path.shorten .file page.pathChars) r.body
      { fileUrl path r with host := page.host }

/-- Reads a reference to a file, on the page of another file if there is one. -/
def fileReference (base : Option Url) (r : Reference) : Except UrlError Url :=
  match r.body.takeWhile Path.isSlash, r.body with
  | _ :: _ :: _, _ :: _ :: rest => fileAfterSlashes { r with body := rest }
  | [_], _ :: rest => .ok (fileFromRoot base r rest)
  | _, _ => .ok (fileFromPage base r)

/-- Reads a reference after a scheme of its own. -/
def withScheme (base : Option Url) (scheme : List Char) (r : Reference) : Except UrlError Url :=
  match SchemeKind.of scheme with
  | .file => fileReference (base.filter fun b => b.scheme == scheme) r
  | .special =>
    let slashes := r.body.takeWhile Path.isSlash
    match base.filter fun b => b.scheme == scheme && slashes.length < 2 with
    | some base => relativeTo base r
    | none => afterSlashes .special scheme { r with body := r.body.drop slashes.length }
  | .other =>
    match r.body with
    | '/' :: '/' :: rest => afterSlashes .other scheme { r with body := rest }
    | '/' :: rest =>
      .ok (finish .other { scheme, path := .rooted (Path.extend .other ['/'] rest) } r)
    | body => .ok (finish .other { scheme, path := .text (Percent.encode Percent.control body) } r)

/-- Reads a reference, relative to an address if one is given. -/
def resolve (base : Option Url) (s : String) : Except UrlError Url :=
  let s := clean s.toList
  match scheme? s, base with
  | some (scheme, rest), base => withScheme base scheme (Reference.of rest)
  | none, none => .error .relativeWithoutBase
  | none, some base =>
    match SchemeKind.of base.scheme with
    | .file => fileReference (some base) (Reference.of s)
    | _ =>
      match base.path, s with
      | .text _, '#' :: _ => relativeTo base (Reference.of s)
      | .text _, _ => .error .relativeToOpaque
      | _, _ => relativeTo base (Reference.of s)

/-- Reads an absolute address. -/
def parse (s : String) : Except UrlError Url :=
  resolve none s

/-- Reads a reference on the page with this address. -/
def join (page : Url) (s : String) : Except UrlError Url :=
  resolve (some page) s

end PhoneVerification.Url
