import PhoneVerification.Cli.Arguments
import PhoneVerification.Cli.Files
import PhoneVerification.Wire

/-!
# Effective configuration

The configuration file is checked on its own, and once more with the settings of the command line
on top.
-/

namespace PhoneVerification.Cli

/-- Why a command fails. -/
inductive Failure
  | unreadable (path : String) (cause : FileError)
  | config (issue : ConfigIssue)
  | notALink (text : String)
  | inputClosed
  | refused (fault : Fault)
  deriving DecidableEq, Repr

namespace Failure

/-- The report of a failure, with its cause if there is one. -/
def report : Failure → String
  | unreadable path cause =>
    "Error: failed to read " ++ path ++ "\n\nCaused by:\n    " ++ cause.text
  | config issue => "Error: " ++ issue.fault.text
  | notALink text => "Error: not a verification link: " ++ text
  | inputClosed => "Error: input closed"
  | refused fault => "Error: " ++ fault.text

end Failure

namespace Invocation

/-- The configuration of the file, or the standard one. A file that cannot be read gives the
cause. -/
def baseConfig (inv : Invocation) (files : Files) : Except Failure Config :=
  match inv.configPath with
  | none => .ok {}
  | some path =>
    match files path with
    | .error cause => .error (.unreadable path cause)
    | .ok content => (Config.ofText content).mapError .config

/-- Puts the settings of the command line on top of a configuration. -/
def override (inv : Invocation) (c : Config) : Config :=
  { c with
    apiBase := inv.apiBase.getD c.apiBase
    issuanceServer := inv.issuanceServer.getD c.issuanceServer
    locale := inv.locale.getD c.locale
    confirmStep := c.confirmStep && !inv.noConfirm }

/-- The configuration that a command runs with. -/
def loadConfig (inv : Invocation) (files : Files) : Except Failure Config := do
  let c ← inv.baseConfig files
  (inv.override c).validate.mapError .config

end Invocation

end PhoneVerification.Cli
