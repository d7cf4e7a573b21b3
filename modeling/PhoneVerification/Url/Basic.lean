import PhoneVerification.Url.Host

/-!
# Addresses

An address by its parts, with the form in which it is printed. All parts are kept as they stand
there: encoded, and with a port only where it differs from the usual one of the scheme.
-/

namespace PhoneVerification

/-- What follows the host: a text without structure, or a path from the root. A path starts with a
slash, unless it is empty. -/
inductive UrlPath
  | text (s : List Char)
  | rooted (s : List Char)
  deriving DecidableEq, Repr

structure Url where
  scheme : List Char
  username : List Char := []
  password : Option (List Char) := none
  host : Option Url.Host := none
  port : Option Nat := none
  path : UrlPath
  query : Option (List Char) := none
  fragment : Option (List Char) := none
  deriving DecidableEq, Repr

namespace Url

/-- How the parts of an address are read, which depends on its scheme. -/
inductive SchemeKind
  | special
  | file
  | other
  deriving DecidableEq, Repr

/-- The special schemes with the port that need not be written. -/
def usualPorts : List (List Char × Nat) :=
  [(['h', 't', 't', 'p'], 80), (['h', 't', 't', 'p', 's'], 443), (['w', 's'], 80),
    (['w', 's', 's'], 443), (['f', 't', 'p'], 21)]

/-- The port that need not be written. -/
def usualPort? (scheme : List Char) : Option Nat :=
  usualPorts.lookup scheme

/-- The kind of a scheme in small letters. -/
def SchemeKind.of (scheme : List Char) : SchemeKind :=
  if scheme = ['f', 'i', 'l', 'e'] then .file
  else if (usualPort? scheme).isSome then .special
  else .other

/-- Whether a backslash counts as a slash. -/
def SchemeKind.readsBackslash : SchemeKind → Bool
  | special | file => true
  | other => false

/-- Whether the address names a host. -/
def hasHost (u : Url) : Bool :=
  match u.host with
  | some h => !h.isEmpty
  | none => false

/-- User name and password as they stand before the host. -/
def credentialChars (u : Url) : List Char :=
  match u.password with
  | some p => u.username ++ ':' :: p ++ ['@']
  | none => if u.username.isEmpty then [] else u.username ++ ['@']

/-- The host with what stands around it. -/
def authorityChars (u : Url) : List Char :=
  match u.host with
  | none => []
  | some h =>
    '/' :: '/' :: u.credentialChars ++ h.chars ++
      match u.port with
      | some p => ':' :: Nat.toDigits 10 p
      | none => []

/-- A path that starts with two slashes is kept apart from a host by `/.`. -/
def pathMark (u : Url) : List Char :=
  match u.host, u.path with
  | none, .rooted ('/' :: '/' :: _) => ['/', '.']
  | _, _ => []

/-- The path as it stands in the address. -/
def pathChars (u : Url) : List Char :=
  match u.path with
  | .text s | .rooted s => s

/-- A part after its mark, if it is there. -/
def marked (mark : Char) : Option (List Char) → List Char
  | some s => mark :: s
  | none => []

/-- The characters of the address. -/
def chars (u : Url) : List Char :=
  u.scheme ++ ':' :: u.authorityChars ++ u.pathMark ++ u.pathChars ++ marked '?' u.query ++
    marked '#' u.fragment

/-- The address as a text. -/
def toText (u : Url) : String :=
  String.ofList u.chars

/-- The address without user name and password. -/
def withoutCredentials (u : Url) : Url :=
  { u with username := [], password := none }

end Url

end PhoneVerification
