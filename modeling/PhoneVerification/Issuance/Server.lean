import PhoneVerification.Config.Basic
import PhoneVerification.Http.Network
import PhoneVerification.Verification.Code

/-!
# Issuance servers

A session is started with the session token, offered to a wallet once, and followed until it ends
or the polls run out. Running out of polls counts as a timeout.
-/

namespace PhoneVerification

/-- How often a session is looked at before it is given up. -/
structure PollBudget where
  polls : Nat
  polls_pos : 0 < polls := by decide

namespace PollBudget

/-- The budget without a configuration. -/
def standard : PollBudget where
  polls := 150

/-- The budget of a configuration, at least one poll. -/
def ofConfig (c : Config) : PollBudget where
  polls := max 1 c.sessionPollMax.toNat
  polls_pos := by omega

end PollBudget

namespace IssuanceServer

variable {σ : Type}

/-- The address of all sessions of a server. -/
def sessionUrl (server : String) : String :=
  String.ofList (Text.dropTail (· == '/') server.toList) ++ "/session"

/-- The address of the status of a session. -/
def statusUrl (server token : String) : String :=
  sessionUrl server ++ "/" ++ token ++ "/status"

/-- The request that starts a session. -/
def startDraft (server : String) (token : SessionToken) : Http.Draft :=
  ⟨.post, sessionUrl server, some "text/plain", token.text⟩

/-- The request that looks at a session. -/
def statusDraft (server token : String) : Http.Draft :=
  ⟨.get, statusUrl server token, none, ""⟩

/-- The fault of an answer that does not hold what was asked for. -/
def unreadable (what : String) : Fault :=
  .serialization ("Failed to parse " ++ what ++ ": error decoding response body")

/-- The package that a response to the start of a session holds. -/
def packageOf (server : String) (response : Http.Response) : Except Fault SessionPackage :=
  if response.isSuccess then
    match (response.json? : Option SessionPackage) with
    | some package => .ok package
    | none => .error (unreadable "session package")
  else
    .error (.network (sessionUrl server) (some response.status)
      ("session start failed: " ++ response.text?.getD ""))

/-- Starts a session for a token. -/
def startSession (net : Http.Network σ) (server : String) (token : SessionToken) :
    Action Effect σ (Except Fault SessionPackage) := do
  match ← net.exchange (startDraft server token) with
  | .error fault => return .error fault
  | .ok response => return packageOf server response

/-- The status that a response to a look at a session holds. -/
def statusOf (server token : String) (response : Http.Response) : Except Fault SessionStatus :=
  if response.isSuccess then
    match (response.json? : Option SessionStatus) with
    | some status => .ok status
    | none => .error (unreadable "session status")
  else
    .error (.network (statusUrl server token) (some response.status) "session status unavailable")

/-- Looks at a session. -/
def sessionStatus (net : Http.Network σ) (server token : String) :
    Action Effect σ (Except Fault SessionStatus) := do
  match ← net.exchange (statusDraft server token) with
  | .error fault => return .error fault
  | .ok response => return statusOf server token response

/-- Why a look at a session does not show its end: the session is still open, or the look failed. -/
inductive PollFailure
  | pending (status : SessionStatus)
  | failed (fault : Fault)
  deriving DecidableEq, Repr

/-- An open session is looked at again, which is recorded; a failed look is not repeated. -/
def PollFailure.announce? : PollFailure → Option (Action Effect σ Unit)
  | pending status =>
    some (Effect.note .trace ("issuance session still open: Pending(" ++ status.word ++ ")"))
  | failed _ => none

/-- Looks at a session once, for its end. -/
def poll (net : Http.Network σ) (server token : String) :
    Action Effect σ (Except PollFailure SessionStatus) := do
  match ← sessionStatus net server token with
  | .error fault => return .error (.failed fault)
  | .ok status => return if status.isTerminal then .ok status else .error (.pending status)

/-- Looks at a session until it has ended or the polls run out. -/
def awaitEnd (net : Http.Network σ) (budget : PollBudget) (server token : String) :
    Action Effect σ (Except Fault SessionStatus) := do
  match ← (poll net server token).retry PollFailure.announce? (budget.polls - 1) with
  | .ok status => return .ok status
  | .error (.pending status) =>
    Effect.note .warn ("gave up on issuance session in state " ++ Named.name status)
    return .ok .timeout
  | .error (.failed fault) => return .error fault

/-- How a session counts that was left with a status. -/
def outcomeOf : SessionStatus → IssuanceOutcome
  | .done => .success
  | .cancelled => .cancelled
  | .timeout => .timeout
  | status => .failed ("session ended in state " ++ Named.name status)

/-- Runs a session for a token until it ends. -/
def issue (net : Http.Network σ) (budget : PollBudget) (token : SessionToken)
    (options : IssuanceOptions) : Action Effect σ IssuanceOutcome := do
  match ← startSession net options.server token with
  | .error fault =>
    Effect.note .error ("could not start issuance session: " ++ fault.text)
    return .failed fault.text
  | .ok package =>
    Action.emit (.presented package.pointer options.locale)
    match ← awaitEnd net budget options.server package.token with
    | .ok status => return outcomeOf status
    | .error fault =>
      Effect.note .error ("issuance session failed: " ++ fault.text)
      return .failed fault.text

end IssuanceServer

end PhoneVerification
