/-!
# Errors of addresses

Why a text is not an address.
-/

namespace PhoneVerification

inductive UrlError
  | emptyHost
  | invalidDomain
  | invalidPort
  | invalidIpv4
  | invalidIpv6
  | invalidHost
  | relativeWithoutBase
  | relativeToOpaque
  deriving DecidableEq, Repr

namespace UrlError

/-- The error in words. -/
def text : UrlError → String
  | emptyHost => "empty host"
  | invalidDomain => "invalid international domain name"
  | invalidPort => "invalid port number"
  | invalidIpv4 => "invalid IPv4 address"
  | invalidIpv6 => "invalid IPv6 address"
  | invalidHost => "invalid domain character"
  | relativeWithoutBase => "relative URL without a base"
  | relativeToOpaque => "relative URL with a cannot-be-a-base base"

end UrlError

end PhoneVerification
