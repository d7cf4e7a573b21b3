import PhoneVerification.Text.Utf8
import PhoneVerification.Url.Domain.Name
import PhoneVerification.Url.Error
import PhoneVerification.Url.Ip
import PhoneVerification.Url.Percent

/-!
# Hosts

The host of an address: a name or a number. A name of a special scheme is decoded and brought into
ASCII; any other name is kept with its unusual characters encoded.
-/

namespace PhoneVerification

namespace Url

inductive Host
  | name (s : List Char)
  | v4 (n : Nat)
  | v6 (groups : List Nat)
  deriving DecidableEq, Repr

namespace Host

/-- The host as it stands in an address. -/
def chars : Host → List Char
  | name s => s
  | v4 n => Ip.v4Chars n
  | v6 gs => '[' :: Ip.v6Chars gs ++ [']']

/-- Whether there is no host. -/
def isEmpty : Host → Bool
  | name [] => true
  | _ => false

/-- The characters that no name of another scheme may have. -/
def isInvalid (c : Char) : Bool :=
  c.toNat == 0 || c == '\t' || c == '\n' || c == '\r' || c == ' ' || c == '#' || c == '/' ||
    c == ':' || c == '<' || c == '>' || c == '?' || c == '@' || c == '[' || c == '\\' ||
    c == ']' || c == '^' || c == '|'

/-- The address between brackets. -/
def bracketed (s : List Char) : Except UrlError Host :=
  match s.getLast?, Ip.v6? s.dropLast with
  | some ']', some gs => .ok (v6 gs)
  | _, _ => .error .invalidIpv6

/-- The host of a special scheme. -/
def special : List Char → Except UrlError Host
  | '[' :: rest => bracketed rest
  | s =>
    match (Text.Utf8.decode? (Percent.decode s)).bind fun t => Domain.ascii? t.toList with
    | none => .error .invalidDomain
    | some [] => .error .emptyHost
    | some ascii =>
      if Ip.endsInNumber ascii then
        match Ip.v4? ascii with
        | some n => .ok (v4 n)
        | none => .error .invalidIpv4
      else .ok (name ascii)

/-- The host of any other scheme. -/
def other : List Char → Except UrlError Host
  | '[' :: rest => bracketed rest
  | s =>
    if s.any isInvalid then .error .invalidHost
    else .ok (name (Percent.encode Percent.control s))

end Host

end Url

end PhoneVerification
