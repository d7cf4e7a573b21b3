import PhoneVerification.Config.Basic
import PhoneVerification.Url.Parser

/-!
# Configuration on a page

A relative base is made absolute by the rules for links on the page that shows the forms.
-/

namespace PhoneVerification.Config

/-- Whether the base of the addresses is an address of its own. -/
def hasAbsoluteBase (c : Config) : Bool :=
  match Url.parse c.apiBase with
  | .ok _ => true
  | .error _ => false

/-- Makes the base absolute, in place. An absolute base is kept as it is written, whatever the
page. -/
def makeBaseAbsolute (page : String) : EStateM ConfigIssue Config Unit := do
  let c ← get
  if c.hasAbsoluteBase then return
  match Url.parse page with
  | .error e => throw (.invalidPage page e.text)
  | .ok pageUrl =>
    match pageUrl.join c.apiBase with
    | .error e => throw (.unresolved c.apiBase e.text)
    | .ok base => set { c with apiBase := base.toText }

/-- The configuration with an absolute base. -/
def resolveApiBase (c : Config) (page : String) : Except ConfigIssue Config :=
  match (makeBaseAbsolute page).run c with
  | .ok () c => .ok c
  | .error i _ => .error i

end PhoneVerification.Config
