import PhoneVerification.Flow.Services
import PhoneVerification.Proofs.Flow.SideBySide
import PhoneVerification.Proofs.Verification.Answers

/-!
# Failures without their texts

Nothing of a failed request is shown but its class, and nothing of a failed issuance but that it failed.
So two runs whose failures have the same classes have the same replies, calls and views, and the same
flow after every operation (`sameOutwardly_of_sameClass`).
-/

namespace PhoneVerification

/-- The outcome, without the reason of a failure. -/
def IssuanceOutcome.withoutReason : IssuanceOutcome → IssuanceOutcome
  | .failed _ => .failed ""
  | outcome => outcome

@[simp] theorem IssuanceOutcome.status_withoutReason (outcome : IssuanceOutcome) :
    outcome.withoutReason.status = outcome.status := by
  cases outcome <;> rfl

/-- The question with its answer, without the reason of a failed issuance. -/
def Exchange.withoutReason : Exchange → Exchange
  | .issue token options outcome => .issue token options outcome.withoutReason
  | x => x

/-- What the services are called with and what they answer, and what is shown. -/
def Event.outward : Event → List Event
  | .effect _ => []
  | .exchange x => [.exchange x.withoutReason]
  | .view observer v => [.view observer v]

/-- Everything is the same but the reasons of failed issuances. -/
def Leeway.reasons (c : Config) : Leeway where
  config := c
  typed := Eq
  numbers := Eq
  codes := Eq
  tokens := Eq
  outcomes o o' := o.withoutReason = o'.withoutReason
  inputs := Eq
  inputs_empty := rfl
  inputs_of_typed h := h
  inputs_of_numbers h := h ▸ rfl
  inputs_of_codes h := h
  isBlankText_of_codes h := h ▸ rfl
  status_of_outcomes {o o'} h := by
    rw [← o.status_withoutReason, h, o'.status_withoutReason]

theorem Operation.within_reasons (c : Config) (op : Operation) : op.Within (.reasons c) op := by
  cases op with
  | submitPhone raw => exact .submitPhone rfl
  | confirm => exact .confirm
  | submitCode raw => exact .submitCode rfl
  | openLink text =>
      cases hlink : VerifyLink.parse? text with
      | none => exact .linkIgnored hlink hlink
      | some link => exact .linkFollowed hlink hlink rfl rfl
  | back => exact .back
  | restart => exact .restart
  | observe name => exact .observe name

theorem Flow.Within.eq {c : Config} {f g : Flow} (h : f.Within (.reasons c) g) : f = g := by
  have hphone : f.phone = g.phone := by
    have hrel := h.phone
    generalize f.phone = m at hrel ⊢
    generalize g.phone = m' at hrel ⊢
    cases hrel with
    | none => rfl
    | some hphone => exact congrArg some hphone
  have hphoneForm : f.phoneForm = g.phoneForm := TextForm.ext h.phoneInput h.phoneDisabled
  have hcodeForm : f.codeForm = g.codeForm := TextForm.ext h.codeInput h.codeDisabled
  exact Flow.ext h.config_eq h.step h.controls hphone h.attempt hphoneForm hcodeForm h.status h.observer

/-- What is to be seen outwardly does not depend on the reasons of failed issuances. -/
def Comparison.reasons (c : Config) : Comparison Event where
  toLeeway := .reasons c
  see := Event.outward
  see_view h name := by rw [h.eq]
  see_outcome _ := rfl
  see_exchange {α q q' x y} hquestion hanswer := by
    cases hquestion with
    | validate hraw =>
        obtain rfl : x = y := hanswer.eq
        rw [hraw]
    | send hphone =>
        obtain rfl : x = y := hanswer
        rw [hphone]
    | verify hphone hcode =>
        obtain rfl : x = y := hanswer.eq
        rw [hphone, hcode]
    | issue htoken =>
        have houtcome : x.withoutReason = y.withoutReason := hanswer
        rw [htoken]
        simp only [Event.outward, Question.exchange, Exchange.withoutReason, houtcome]

namespace Flow

variable {σ τ : Type} {R : σ → τ → Prop}

/-- Two runs that are the same outwardly: in the replies, in the calls and views, and in the flow after
each operation. -/
structure SameOutwardly (s : Services σ) (t : Services τ) (c : Config) (v : σ) (u : τ)
    (ops : List Operation) : Prop where
  replies : ((performAll s ops).run (opened c v)).value = ((performAll t ops).run (opened c u)).value
  events : ((performAll s ops).run (opened c v)).events.flatMap Event.outward =
    ((performAll t ops).run (opened c u)).events.flatMap Event.outward
  flows {done : List Operation} : done <+: ops →
    (worldAfter s done (opened c v)).flow = (worldAfter t done (opened c u)).flow

theorem sameOutwardly_of_coupled {c : Config} {s : Services σ} {t : Services τ}
    (h : Services.Coupled (.reasons c) R s t) {v : σ} {u : τ} (hR : R v u)
    (ops : List Operation) : SameOutwardly s t c v u ops := by
  have hrun : ∀ ops : List Operation, Action.Coupled Event.outward (WorldsIn (.reasons c) R) Eq
      (performAll s ops) (performAll t ops) := fun ops =>
    coupled_performAll h (List.forall₂_same.mpr fun op _ => op.within_reasons c)
  have hopened : WorldsIn (.reasons c) R (opened c v) (opened c u) := ⟨.start, hR⟩
  obtain ⟨hreplies, -, hevents⟩ := hrun ops _ _ hopened
  refine ⟨hreplies, hevents, fun {done} _ => ?_⟩
  obtain ⟨-, hworlds, -⟩ := hrun done _ _ hopened
  exact hworlds.1.eq

/-- The texts of failures make no difference outwardly: neither those of requests, if the classes of the
failed answers are the same, nor the reasons of failed issuances. -/
theorem sameOutwardly_of_sameClass (c : Config) {net : Http.Network σ} {net' : Http.Network τ}
    {validate : String → Action Effect σ (Except PhoneRejection PhoneNumber)}
    {validate' : String → Action Effect τ (Except PhoneRejection PhoneNumber)}
    {issue : SessionToken → IssuanceOptions → Action Effect σ IssuanceOutcome}
    {issue' : SessionToken → IssuanceOptions → Action Effect τ IssuanceOutcome}
    (hsend : ∀ phone locale, Http.AnswerIn R Http.SameClass net net'
      ((VerificationClient.ofConfig c).sendDraft phone locale)
      ((VerificationClient.ofConfig c).sendDraft phone locale))
    (hverify : ∀ phone code, Http.AnswerIn R Http.SameClass net net'
      ((VerificationClient.ofConfig c).verifyDraft phone code)
      ((VerificationClient.ofConfig c).verifyDraft phone code))
    (hvalidate : ∀ raw, Action.Coupled (fun _ => ([] : List Event)) R Eq (validate raw)
      (validate' raw))
    (hissue : ∀ token options, Action.Coupled (fun _ => ([] : List Event)) R
      (fun o o' => o.withoutReason = o'.withoutReason) (issue token options) (issue' token options))
    {v : σ} {u : τ} (hR : R v u) (ops : List Operation) :
    SameOutwardly { Services.ofConfig c net with validate, issue }
      { Services.ofConfig c net' with validate := validate', issue := issue' } c v u ops := by
  have hread : ∀ address readsRetry r r', Http.Received Http.SameClass r r' →
      Action.Coupled (Comparison.reasons c).seeEffect R Eq
        (VerificationClient.readAnswer address readsRetry r)
        (VerificationClient.readAnswer address readsRetry r') :=
    fun address readsRetry _ _ hr =>
      VerificationClient.coupled_readAnswer_of_sameClass (fun _ => rfl) address readsRetry hr
  refine sameOutwardly_of_coupled (fun q q' hq => ?_) hR ops
  cases hq with
  | @validate raw raw' hraw =>
      obtain rfl : raw = raw' := hraw
      refine (hvalidate raw).mono fun x y hxy => ?_
      subst hxy
      exact .refl (fun _ => rfl) x
  | @send p p' hphone =>
      obtain rfl : p = p' := hphone
      exact VerificationClient.coupled_sendCode c.locale rfl rfl (hsend p c.locale) (hread _ _)
  | @verify p p' hphone raw raw' hcode =>
      obtain rfl : p = p' := hphone
      obtain rfl : raw = raw' := hcode
      refine VerificationClient.coupled_verifyCode rfl rfl (hverify p _) fun r r' hr => ?_
      refine (hread _ _ r r' hr).mono fun x y hxy => ?_
      subst hxy
      exact .refl (fun body => Eq.refl (SessionToken.mk body)) x
  | @issue token token' htoken =>
      obtain rfl : token = token' := htoken
      exact hissue token ⟨c.issuanceServer, c.locale⟩

/-- A network that fails once, and then answers with a token. -/
def failingOnce (failure : Http.Answer) : Http.Network Nat where
  answer _ n :=
    (if n = 0 then failure else .response ⟨200, [], some [106, 119, 116]⟩, n + 1)

/-- A refusal with the body `error:internal`. -/
def internalError : Http.Answer :=
  .response ⟨503, [], some [101, 114, 114, 111, 114, 58, 105, 110, 116, 101, 114, 110, 97, 108]⟩

/-- A configuration with a usable address, in which a code is sent at once. -/
def directConfig : Config where
  apiBase := "https://sms.example/"
  confirmStep := false

/-- The services over a network that fails once, with a number that is accepted and an issuance that
fails. -/
def failingServices (failure : Http.Answer) (reason : String) : Services Nat :=
  { Services.ofConfig directConfig (failingOnce failure) with
    validate := fun _ => return .ok ⟨"+31612345678", none⟩
    issue := fun _ _ => return .failed reason }

/-- The service is not reached on one side and refuses the request on the other. Both runs go on to an
issuance, which fails for two reasons. -/
theorem sameOutwardly_for_unreachable :
    (Http.SameClass .unreachable internalError ∧
        (worldAfter (failingServices .unreachable "no wallet")
          [.submitPhone "0612345678", .submitPhone "0612345678", .submitCode "1"]
          (opened directConfig 0)).flow.step = .done) ∧
      SameOutwardly (failingServices .unreachable "no wallet")
        (failingServices internalError "no server") directConfig 0 0
        [.submitPhone "0612345678", .submitPhone "0612345678", .submitCode "1"] := by
  have hclass : Http.SameClass .unreachable internalError :=
    @Http.SameClass.failed _ _ .internal none none rfl (by decide +kernel) fun _ => rfl
  have hanswer : ∀ d : Http.Draft,
      Http.AnswerIn Eq Http.SameClass (failingOnce .unreachable) (failingOnce internalError) d d := by
    rintro d q q' _ _ n _ rfl
    cases n with
    | zero => exact ⟨hclass, rfl⟩
    | succ n => exact ⟨.same _, rfl⟩
  refine ⟨⟨hclass, by decide +kernel⟩, ?_⟩
  refine sameOutwardly_of_sameClass directConfig (fun _ _ => hanswer _) (fun _ _ => hanswer _) ?_ ?_ rfl _
  · exact fun _ => .pure rfl
  · exact fun _ _ => .pure rfl

end Flow

end PhoneVerification
