import PhoneVerification.Effect
import PhoneVerification.Fault
import PhoneVerification.Url.Parser

/-!
# Exchanges with the network

Every draft is tried once and never repeated. Its address has to be usable, and the network has
to answer: otherwise the exchange is a fault.
-/

namespace PhoneVerification.Http

/-- A network by its answers, which may depend on what it was asked before. -/
structure Network (σ : Type) where
  answer : Request → σ → Answer × σ

/-- Whether user name and password are taken out of an address: there are some, and the user name
is a text. -/
def hasReadableCredentials (u : Url) : Bool :=
  match Text.Utf8.decode? (Url.Percent.decode u.username) with
  | none => false
  | some username =>
    !username.isEmpty ||
      (u.password.bind fun p => Text.Utf8.decode? (Url.Percent.decode p)).isSome

/-- The request of a draft, with which this program introduces itself. Its address names a host, and
loses user name and password. -/
def Draft.request (d : Draft) : Except Fault Request :=
  match Url.parse d.address with
  | .error _ => .error (.network "<unknown>" none "request build failed: builder error")
  | .ok url =>
    if url.hasHost then
      .ok ⟨d.method, if hasReadableCredentials url then url.withoutCredentials else url,
        userAgent, d.contentType, d.body⟩
    else
      .error (.network url.toText none
        ("request build failed: builder error for url (" ++ url.toText ++ ")"))

namespace Request

/-- The schemes that can be requested. -/
def schemes : List (List Char) := [['h', 't', 't', 'p'], ['h', 't', 't', 'p', 's']]

/-- The longest address that can be requested, in bytes. -/
def maxAddressSize : Nat := 65534

/-- The characters of a host that keep it from being requested. -/
def isUnsendable (c : Char) : Bool :=
  c == '"' || c == '\x60' || c == '\x7b' || c == '\x7d'

/-- Whether the address can be requested at all. -/
def isSendable (r : Request) : Bool :=
  schemes.contains r.url.scheme && r.url.toText.utf8ByteSize ≤ maxAddressSize &&
    !r.url.authorityChars.any isUnsendable

/-- The fault of a request that was composed but got no response. -/
def fault (r : Request) (cause : String) : Fault :=
  .network r.url.toText none ("request failed: " ++ cause ++ " for url (" ++ r.url.toText ++ ")")

end Request

namespace Network

variable {σ : Type}

/-- Asks the network. -/
def ask (net : Network σ) (r : Request) : Action Effect σ Answer :=
  ⟨fun w => ⟨(net.answer r w).1, [], (net.answer r w).2⟩⟩

@[simp] theorem run_ask (net : Network σ) (r : Request) (w : σ) :
    (net.ask r).run w = ⟨(net.answer r w).1, [], (net.answer r w).2⟩ :=
  rfl

/-- Sends a request. Any response is passed on, whatever its status. -/
def send (net : Network σ) (r : Request) : Action Effect σ (Except Fault Response) := do
  Effect.note .debug (r.method.name ++ " " ++ r.url.toText)
  if r.isSendable then
    match ← net.ask r with
    | .unreachable => return .error (r.fault "error sending request")
    | .response response => return .ok response
  else return .error (r.fault "builder error")

/-- Tries a draft. -/
def exchange (net : Network σ) (d : Draft) : Action Effect σ (Except Fault Response) := do
  Action.emit (.attempt d)
  match d.request with
  | .error fault => return .error fault
  | .ok request => net.send request

/-- The network that answers nothing. -/
def dead : Network Unit where
  answer _ w := (.unreachable, w)

/-- A network with prepared answers, one for each request in turn. Once they are used up, the
server fails with an empty body. -/
def scripted : Network (List Answer) where
  answer _ answers := (answers.headD (.response ⟨500, [], some []⟩), answers.tail)

end Network

end PhoneVerification.Http
