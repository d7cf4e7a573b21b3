import PhoneVerification.Fault
import PhoneVerification.Locale
import PhoneVerification.Region
import PhoneVerification.Text.Blank

/-!
# Configuration

The settings of a verification with their defaults, and the check of what the types cannot
express.
-/

namespace PhoneVerification

structure Config where
  apiBase : String := "/tomcat/irma_sms_issuer/api/"
  sendEndpoint : String := "send"
  verifyEndpoint : String := "verify"
  issuanceServer : String := "https://irma.example.org"
  locale : Locale := .en
  phoneUtilsPath : String := "assets/telwidget/js/utils.js"
  defaultRegion : String := Region.netherlands.name
  allowedRegions : List String := Region.known.map Region.name
  confirmStep : Bool := true
  announceSent : Bool := true
  historyAvailable : Bool := false
  sessionPollIntervalMs : UInt64 := 1000
  sessionPollMax : UInt32 := 150
  deriving DecidableEq, Repr

/-- What can be wrong with a configuration. -/
inductive ConfigIssue
  | unreadable
  | emptyApiBase
  | emptyIssuanceServer
  | unknownDefaultRegion (name : String)
  | unknownRegion (name : String)
  | noPolls
  | invalidPage (page reason : String)
  | unresolved (base reason : String)
  deriving DecidableEq, Repr

namespace ConfigIssue

/-- The issue in words. The reason for which a text cannot be read at all is not told. -/
def text : ConfigIssue → String
  | unreadable => "<json>"
  | emptyApiBase => "api_base is empty"
  | emptyIssuanceServer => "issuance_server is empty"
  | unknownDefaultRegion name => "unknown default_region " ++ name
  | unknownRegion name => "unknown region " ++ name ++ " in allowed_regions"
  | noPolls => "session_poll_max must be at least 1"
  | invalidPage page reason => "invalid page URL " ++ page ++ ": " ++ reason
  | unresolved base reason => "cannot resolve api_base " ++ base ++ ": " ++ reason

/-- The fault of using such a configuration. -/
def fault (i : ConfigIssue) : Fault :=
  .invalidConfig i.text

end ConfigIssue

namespace Config

/-- The first thing wrong with a configuration, if there is one. -/
def issue? (c : Config) : Option ConfigIssue :=
  if Text.isBlankText c.apiBase then some .emptyApiBase
  else if Text.isBlankText c.issuanceServer then some .emptyIssuanceServer
  else if (Region.find? c.defaultRegion).isNone then
    some (.unknownDefaultRegion c.defaultRegion)
  else
    match c.allowedRegions.find? fun r => (Region.find? r).isNone with
    | some name => some (.unknownRegion name)
    | none => if c.sessionPollMax = 0 then some .noPolls else none

/-- The configuration itself, if nothing is wrong with it. -/
def validate (c : Config) : Except ConfigIssue Config :=
  match c.issue? with
  | some i => .error i
  | none => .ok c

/-- Two parts of an address with exactly one slash between them. -/
def joinPath (base endpoint : String) : String :=
  String.ofList (Text.dropTail (· == '/') base.toList) ++ "/" ++
    String.ofList (endpoint.toList.dropWhile (· == '/'))

/-- The address that sends a text message. -/
def sendUrl (c : Config) : String :=
  joinPath c.apiBase c.sendEndpoint

/-- The address that checks a code. -/
def verifyUrl (c : Config) : String :=
  joinPath c.apiBase c.verifyEndpoint

end Config

end PhoneVerification
