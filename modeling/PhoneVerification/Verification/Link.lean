import PhoneVerification.Text.Blank

/-!
# Verification links

The link in a text message ends in `#!verify:<phone>:<code>`.
-/

namespace PhoneVerification

/-- The phone number and the code that a link carries. -/
structure VerifyLink where
  phone : String
  code : String
  deriving DecidableEq, Repr

namespace VerifyLink

/-- The text after the first `#`, or the whole text if there is none. -/
def fragment (s : List Char) : List Char :=
  match s.dropWhile (· != '#') with
  | [] => s
  | _ :: rest => rest

/-- What the fragment of a verification link starts with. -/
def kind : List Char := "!verify".toList

/-- Reads a link, its fragment, or the fragment without its `#`. -/
def parse? (s : String) : Option VerifyLink :=
  match (Text.strip Text.isBlank (fragment s.toList)).splitOn ':' with
  | [k, phone, code] =>
    if k == kind && !phone.isEmpty && !code.isEmpty then
      some ⟨String.ofList phone, String.ofList code⟩
    else none
  | _ => none

end VerifyLink

end PhoneVerification
