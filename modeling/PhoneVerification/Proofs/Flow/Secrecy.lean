import PhoneVerification.Flow.Services
import PhoneVerification.Proofs.Flow.SideBySide
import PhoneVerification.Proofs.Issuance.Counterpart
import PhoneVerification.Proofs.PhoneNumber.Masked
import PhoneVerification.Proofs.Verification.Answers

/-!
# Secrets do not reach the log

Of a number the log tells no more than its mask, of a code no more than whether it is blank, and of a
session token nothing. So two runs that differ only in these send the same lines to the log
(`log_eq_of_secrets`).

## Implementation notes

Which texts, numbers, codes and tokens stand opposite to each other is left open, so that the networks
have to agree only on what the two runs can really ask them. It may be all that are masked alike and
blank alike.
-/

namespace PhoneVerification

/-- The lines that the host receives for an effect. -/
def Effect.logLines : Effect → List String
  | .log record => record.lines
  | .attempt _ | .presented _ _ => []

/-- The lines that the host receives for an event. -/
def Event.logLines : Event → List String
  | .effect e => e.logLines
  | .exchange _ | .view _ _ => []

/-- Which texts, numbers, codes and tokens stand opposite to each other in two runs whose logs are not to
be told apart. -/
structure Secrets where
  typed : String → String → Prop
  numbers : PhoneNumber → PhoneNumber → Prop
  codes : String → String → Prop
  tokens : SessionToken → SessionToken → Prop
  masked_of_numbers {p p' : PhoneNumber} : numbers p p' → p.masked = p'.masked
  isBlankText_of_codes {raw raw' : String} : codes raw raw' →
    Text.isBlankText raw = Text.isBlankText raw'
  tokens_refl (token : SessionToken) : tokens token token

namespace Secrets

/-- All texts and tokens, and all numbers and codes that the log does not tell apart. -/
def widest : Secrets where
  typed _ _ := True
  numbers p p' := p.masked = p'.masked
  codes raw raw' := Text.isBlankText raw = Text.isBlankText raw'
  tokens _ _ := True
  masked_of_numbers h := h
  isBlankText_of_codes h := h
  tokens_refl _ := trivial

/-- Outcomes are the same, and the forms may hold anything. -/
def leeway (S : Secrets) (c : Config) : Leeway where
  config := c
  typed := S.typed
  numbers := S.numbers
  codes := S.codes
  tokens := S.tokens
  outcomes := Eq
  inputs _ _ := True
  inputs_empty := trivial
  inputs_of_typed _ := trivial
  inputs_of_numbers _ := trivial
  inputs_of_codes _ := trivial
  isBlankText_of_codes := S.isBlankText_of_codes
  status_of_outcomes h := h ▸ rfl

/-- What is seen is the log. -/
def comparison (S : Secrets) (c : Config) : Comparison String where
  toLeeway := S.leeway c
  see := Event.logLines
  see_view _ _ := rfl
  see_outcome {o o'} h := by
    obtain rfl : o = o' := h
    rfl
  see_exchange _ _ := rfl

/-- The same answer, or answers that deliver opposite tokens. -/
inductive Delivers (S : Secrets) : Http.Answer → Http.Answer → Prop
  | same (a : Http.Answer) : Delivers S a a
  | tokens {r r' : Http.Response} {body body' : String} (hr : r.isSuccess = true)
      (hr' : r'.isSuccess = true) (hbody : r.text? = some body) (hbody' : r'.text? = some body')
      (h : S.tokens ⟨body⟩ ⟨body'⟩) : Delivers S (.response r) (.response r')

variable {δ σ τ : Type} {see : Effect → List δ} {R : σ → τ → Prop} {S : Secrets}

/-- A token that is delivered is passed on without a record. -/
theorem coupled_readAnswer (address : String) (readsRetry : Bool)
    {r r' : Except Fault Http.Response} (h : Http.Received S.Delivers r r') :
    Action.Coupled see R (Agree fun body body' => S.tokens ⟨body⟩ ⟨body'⟩)
      (VerificationClient.readAnswer (σ := σ) address readsRetry r)
      (VerificationClient.readAnswer (σ := τ) address readsRetry r') := by
  have hsame : ∀ r : Except Fault Http.Response,
      Action.Coupled see R (Agree fun body body' => S.tokens ⟨body⟩ ⟨body'⟩)
        (VerificationClient.readAnswer (σ := σ) address readsRetry r)
        (VerificationClient.readAnswer (σ := τ) address readsRetry r) := fun r =>
    (VerificationClient.coupled_readAnswer address readsRetry r).mono fun x y hxy =>
      hxy ▸ .refl (fun body => S.tokens_refl ⟨body⟩) x
  cases h with
  | unusable fault => exact hsame _
  | answered q hdelivers =>
      cases hdelivers with
      | same => exact hsame _
      | tokens hr hr' hbody hbody' htoken =>
          simp only [Http.Request.received, VerificationClient.readAnswer, hbody, hbody', hr, hr',
            if_true]
          exact .pure (.ok htoken)

end Secrets

namespace Flow

variable {σ τ : Type} {R : σ → τ → Prop}

/-- A run from the beginning of the flow. -/
def wholeRun (s : Services σ) (c : Config) (ops : List Operation) (v : σ) :
    Outcome Event (World σ) (List Reply) :=
  (do
    begin
    performAll s ops : Act σ (List Reply)).run ⟨start c, v⟩

theorem log_eq_of_coupled {S : Secrets} {c : Config} {s : Services σ} {t : Services τ}
    (h : Services.Coupled (S.comparison c) R s t) {v : σ} {u : τ} (hR : R v u)
    {ops ops' : List Operation} (hops : List.Forall₂ (Operation.Within (S.leeway c)) ops ops') :
    (wholeRun s c ops v).events.flatMap Event.logLines =
      (wholeRun t c ops' u).events.flatMap Event.logLines := by
  have hopened : WorldsIn (S.comparison c) R (opened c v) (opened c u) := ⟨.start, hR⟩
  obtain ⟨-, -, hevents⟩ := coupled_performAll h hops _ _ hopened
  have hlog : ((performAll s ops).run (opened c v)).events.flatMap Event.logLines =
      ((performAll t ops').run (opened c u)).events.flatMap Event.logLines := hevents
  simp only [wholeRun, Action.run_bind, List.flatMap_append]
  exact congrArg _ hlog

/-- The log tells no secrets: runs that differ only in secrets send the same lines to it. The mask of a
number tells the length, the first four and the last three characters of a number that is not short. -/
theorem log_eq_of_secrets (S : Secrets) (c : Config) {net : Http.Network σ} {net' : Http.Network τ}
    {validate : String → Action Effect σ (Except PhoneRejection PhoneNumber)}
    {validate' : String → Action Effect τ (Except PhoneRejection PhoneNumber)}
    (hvalidate : ∀ raw raw', S.typed raw raw' →
      Action.Coupled Effect.logLines R (Agree S.numbers) (validate raw) (validate' raw'))
    (hsend : ∀ p p', S.numbers p p' → Http.AnswerIn R Eq net net'
      ((VerificationClient.ofConfig c).sendDraft p c.locale)
      ((VerificationClient.ofConfig c).sendDraft p' c.locale))
    (hverify : ∀ p p' raw raw', S.numbers p p' → S.codes raw raw' →
      Http.AnswerIn R S.Delivers net net'
        ((VerificationClient.ofConfig c).verifyDraft p (.normalize raw))
        ((VerificationClient.ofConfig c).verifyDraft p' (.normalize raw')))
    (hstart : ∀ token token', S.tokens token token' → Http.AnswerIn R Eq net net'
      (IssuanceServer.startDraft c.issuanceServer token)
      (IssuanceServer.startDraft c.issuanceServer token'))
    (hstatus : ∀ session, Http.AnswerIn R Eq net net'
      (IssuanceServer.statusDraft c.issuanceServer session)
      (IssuanceServer.statusDraft c.issuanceServer session))
    {v : σ} {u : τ} (hR : R v u) {ops ops' : List Operation}
    (hops : List.Forall₂ (Operation.Within (S.leeway c)) ops ops') :
    (wholeRun { Services.ofConfig c net with validate } c ops v).events.flatMap Event.logLines =
        (wholeRun { Services.ofConfig c net' with validate := validate' } c ops' u).events.flatMap
          Event.logLines ∧
      ∀ p q : PhoneNumber, p.masked = q.masked ↔
        p.e164.toList.length < 8 ∧ q.e164.toList.length < 8 ∨
          p.e164.toList.length = q.e164.toList.length ∧
            p.e164.toList.take 4 = q.e164.toList.take 4 ∧
            p.e164.toList.drop (p.e164.toList.length - 3) =
              q.e164.toList.drop (q.e164.toList.length - 3) := by
  have hattempt : ∀ d, (S.comparison c).seeEffect (.attempt d) = [] := fun _ => rfl
  refine ⟨log_eq_of_coupled (fun q q' hq => ?_) hR hops, PhoneNumber.masked_eq_masked_iff⟩
  cases hq with
  | validate hraw => exact hvalidate _ _ hraw
  | @send p p' hphone =>
      refine VerificationClient.coupled_sendCode _ ?_ ?_ (hsend p p' hphone) ?_
      · rw [hattempt, hattempt]
      · rw [S.masked_of_numbers hphone]
      · intro r r' hr
        rw [hr.eq]
        exact VerificationClient.coupled_readAnswer _ _ r'
  | @verify p p' hphone raw raw' hcode =>
      refine VerificationClient.coupled_verifyCode ?_ ?_ (hverify p p' raw raw' hphone hcode) ?_
      · rw [hattempt, hattempt]
      · rw [S.masked_of_numbers hphone]
      · exact fun r r' hr => Secrets.coupled_readAnswer _ _ hr
  | @issue token token' htoken =>
      refine IssuanceServer.coupled_issue _ _ ?_ (hstart token token' htoken) hstatus
      rw [hattempt, hattempt]

/-- The standard configuration with a usable address. -/
def hostedConfig : Config where
  apiBase := "https://sms.example/"

/-- Whether a request submits a code to that address. -/
def isVerification (q : Http.Request) : Bool :=
  q.contentType == some Http.Form.contentType && q.url.toText == "https://sms.example/verify"

/-- A network that delivers a token for every code, and answers anything else with an empty body. -/
def deliveringNetwork (token : List UInt8) : Http.Network Unit where
  answer q w := (.response ⟨200, [], some (if isVerification q then token else [])⟩, w)

/-- The services over such a network, with a number that is always the same. -/
def deliveringServices (token : List UInt8) (number : String) : Services Unit :=
  { Services.ofConfig hostedConfig (deliveringNetwork token) with
    validate := fun _ => return .ok ⟨number, none⟩ }

/-- Only a form is posted to submit a code. -/
theorem isVerification_of_contentType {d : Http.Draft} {contentType : Option String}
    (hd : d.contentType = contentType) (hform : contentType ≠ some Http.Form.contentType)
    {q : Http.Request} (hq : d.request = .ok q) : isVerification q = false := by
  have hne : q.contentType ≠ some Http.Form.contentType := by
    rw [Http.Draft.contentType_of_request hq, hd]
    exact hform
  rw [isVerification, beq_false_of_ne hne, Bool.false_and]

/-- The address of a request does not depend on what is posted to it. -/
theorem isVerification_of_sendDraft {p : PhoneNumber} {locale : Locale} {q : Http.Request}
    (hq : ((VerificationClient.ofConfig hostedConfig).sendDraft p locale).request = .ok q) :
    isVerification q = false := by
  let empty : Http.Draft := ⟨.post, hostedConfig.sendUrl, some Http.Form.contentType, ""⟩
  have hempty : empty.request.map isVerification = .ok false := by decide +kernel
  have hrequest : empty.request.map (fun r =>
      { r with body := Http.Form.encode (VerificationClient.sendPairs p locale) }) = .ok q :=
    (empty.request_withBody _).symm.trans hq
  cases hparsed : empty.request with
  | error fault =>
      rw [hparsed] at hrequest
      contradiction
  | ok r =>
      rw [hparsed] at hempty hrequest
      obtain rfl := Except.ok.inj hrequest
      exact Except.ok.inj hempty

theorem answerIn_deliveringNetwork {token token' : List UInt8} {d d' : Http.Draft}
    (hd : ∀ q, d.request = .ok q → isVerification q = false)
    (hd' : ∀ q, d'.request = .ok q → isVerification q = false) :
    Http.AnswerIn Eq Eq (deliveringNetwork token) (deliveringNetwork token') d d' := by
  intro q q' hq hq' v u hvu
  simp [deliveringNetwork, hd q hq, hd' q' hq', hvu]

/-- Two numbers that are masked alike, with two codes and two tokens. -/
theorem log_eq_for_two_users :
    (wholeRun (deliveringServices [65] "+31612345678") hostedConfig
          [.submitPhone "0612345678", .confirm, .submitCode "one"] ()).world.flow.step = .done ∧
      (wholeRun (deliveringServices [65] "+31612345678") hostedConfig
          [.submitPhone "0612345678", .confirm, .submitCode "one"] ()).events.flatMap
            Event.logLines =
        (wholeRun (deliveringServices [66, 67] "+31687654678") hostedConfig
          [.submitPhone "0687654678", .confirm, .submitCode "two"] ()).events.flatMap
            Event.logLines := by
  have hops : List.Forall₂ (Operation.Within (Secrets.widest.leeway hostedConfig))
      [.submitPhone "0612345678", .confirm, .submitCode "one"]
      [.submitPhone "0687654678", .confirm, .submitCode "two"] := by
    refine .cons (.submitPhone trivial) (.cons .confirm (.cons (.submitCode ?_) .nil))
    have hblank : Text.isBlankText "one" = Text.isBlankText "two" := by decide +kernel
    exact hblank
  have hmasked : (⟨"+31612345678", none⟩ : PhoneNumber).masked =
      (⟨"+31687654678", none⟩ : PhoneNumber).masked := by decide +kernel
  refine ⟨by decide +kernel, ?_⟩
  refine (log_eq_of_secrets .widest hostedConfig ?_ ?_ ?_ ?_ ?_ rfl hops).1
  · intro raw raw' _
    exact .pure (.ok hmasked)
  · intro p p' _
    exact answerIn_deliveringNetwork (fun _ => isVerification_of_sendDraft) fun _ =>
      isVerification_of_sendDraft
  · intro p p' raw raw' _ _ q q' _ _ v u hvu
    exact ⟨.tokens rfl rfl rfl rfl trivial, hvu⟩
  · intro token token' _
    have htext : some "text/plain" ≠ some Http.Form.contentType := by decide
    exact answerIn_deliveringNetwork (fun _ => isVerification_of_contentType rfl htext) fun _ =>
      isVerification_of_contentType rfl htext
  · intro session
    have hnone : none ≠ some Http.Form.contentType := by decide
    exact answerIn_deliveringNetwork (fun _ => isVerification_of_contentType rfl hnone) fun _ =>
      isVerification_of_contentType rfl hnone

end Flow

end PhoneVerification
