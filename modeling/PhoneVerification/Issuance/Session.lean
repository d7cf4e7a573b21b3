import PhoneVerification.Locale
import PhoneVerification.Message.Key
import PhoneVerification.Named
import PhoneVerification.Status
import PhoneVerification.Text.Quoted

/-!
# Issuance sessions

What an issuance server tells about a session, and how a session ends.
-/

namespace PhoneVerification

/-- What a wallet needs to join a session. -/
structure SessionPointer where
  url : String
  kind : String
  deriving DecidableEq, Repr

/-- The answer to the start of a session: the pointer for the wallet, and a token with which the
session is followed. -/
structure SessionPackage where
  pointer : SessionPointer
  token : String
  deriving DecidableEq, Repr

/-- Where a session stands. -/
inductive SessionStatus
  | initialized
  | pairing
  | connected
  | cancelled
  | done
  | timeout
  deriving DecidableEq, Repr

namespace SessionStatus

instance : Named SessionStatus where
  all := [initialized, pairing, connected, cancelled, done, timeout]
  name
    | initialized => "INITIALIZED"
    | pairing => "PAIRING"
    | connected => "CONNECTED"
    | cancelled => "CANCELLED"
    | done => "DONE"
    | timeout => "TIMEOUT"
  mem_all := by intro a; cases a <;> decide
  find_name := by intro a; cases a <;> rfl

/-- Whether the session has ended. -/
def isTerminal : SessionStatus → Bool
  | initialized | pairing | connected => false
  | cancelled | done | timeout => true

/-- The word for a status in log lines about open sessions. -/
def word : SessionStatus → String
  | initialized => "Initialized"
  | pairing => "Pairing"
  | connected => "Connected"
  | cancelled => "Cancelled"
  | done => "Done"
  | timeout => "Timeout"

end SessionStatus

/-- Where a session is run, and in which language the wallet asks. -/
structure IssuanceOptions where
  server : String
  locale : Locale
  deriving DecidableEq, Repr

/-- How an issuance ended. -/
inductive IssuanceOutcome
  | success
  | cancelled
  | timeout
  | failed (reason : String)
  deriving DecidableEq, Repr

namespace IssuanceOutcome

/-- The status shown for an outcome. A user who declines or is late has done nothing wrong. -/
def status : IssuanceOutcome → Severity × MessageKey
  | success => (.success, .phoneAddSuccess)
  | cancelled => (.info, .phoneAddCancel)
  | timeout => (.info, .phoneAddTimeout)
  | failed _ => (.danger, .phoneAddError)

/-- The outcome in a log line. -/
def logText : IssuanceOutcome → String
  | success => "Success"
  | cancelled => "Cancelled"
  | timeout => "Timeout"
  | failed reason => "Failed(" ++ Text.Quoted.encode reason ++ ")"

end IssuanceOutcome

end PhoneVerification
