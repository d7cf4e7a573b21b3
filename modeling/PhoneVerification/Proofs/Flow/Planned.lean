import PhoneVerification.Proofs.Flow.Plan
import PhoneVerification.Proofs.Verification.LinkCode

/-!
# The plan of every operation

Each change of a flow is named, and each operation is given as a plan over these changes.
`perform_eq_follow` says that performing an operation is following its plan, so that nothing about
an operation has to be shown of its steps again.
-/

namespace PhoneVerification.Flow

open Act

variable {σ α : Type}

/-! ## Changes of a flow -/

/-- At a step, with the controls of that step. -/
def entering (f : Flow) (step : Step) : Flow :=
  { f with step, controls := .of f.config step }

/-- With a message above the forms. -/
def announcing (f : Flow) (severity : Severity) (body : Locale → String) : Flow :=
  { f with status := some ⟨severity, body f.config.locale⟩ }

/-- After a number was refused. -/
def numberWarned (f : Flow) (raw : String) (rejection : PhoneRejection) : Flow :=
  { f with phoneForm.input := raw }.announcing .warning (Message.text · rejection.messageKey)

/-- With a number that was accepted. -/
def numbered (f : Flow) (raw : String) (phone : PhoneNumber) : Flow :=
  { f with phoneForm.input := raw, phone := some phone, attempt := .notSent }

/-- Waiting for the number to be confirmed. -/
def confirming (f : Flow) : Flow :=
  { f with status := none }.entering .confirm

/-- While a code is being sent. -/
def sending (f : Flow) : Flow :=
  { f with phoneForm.disabled := true }.announcing .info (Message.text · .sendingSms)

/-- The message about a code that was sent, if it is to be announced. -/
def sentStatus (f : Flow) (dispatch : SmsDispatch) : Option StatusMessage :=
  if f.config.announceSent then some ⟨.info, Message.smsSent f.config.locale dispatch.sender⟩
  else none

/-- After a code was sent. -/
def sent (f : Flow) (dispatch : SmsDispatch) : Flow :=
  { f with attempt := .sent, codeForm := {}, status := f.sentStatus dispatch }.entering .token

/-- After a code could not be sent. -/
def unsent (f : Flow) (failure : ApiFailure) : Flow :=
  ({ f with phoneForm.disabled := false }.entering .phone).announcing .danger
    (Message.failure · failure)

/-- After an empty code. -/
def blankWarned (f : Flow) (raw : String) : Flow :=
  { f with codeForm.input := raw }.announcing .warning (Message.text · .errorCannotValidateToken)

/-- While a code is being exchanged. -/
def verifying (f : Flow) (raw : String) : Flow :=
  { f with codeForm := ⟨raw, true⟩ }.announcing .info (Message.text · .verifyingToken)

/-- After a code was refused. -/
def unverified (f : Flow) (failure : ApiFailure) : Flow :=
  { f with attempt := .failed, codeForm.disabled := false }.announcing .danger
    (refusalText failure)

/-- While the credential is being issued. -/
def verified (f : Flow) : Flow :=
  ({ f with attempt := .verified }.announcing .info (Message.text · .issuingCredential)).entering
    .done

/-- After the issuance has ended. -/
def concluded (f : Flow) (outcome : IssuanceOutcome) : Flow :=
  f.announcing outcome.status.1 (Message.text · outcome.status.2)

/-- At the code of a link. -/
def resumed (f : Flow) (link : VerifyLink) : Flow :=
  { f with
    phone := some (.unchecked link.phone)
    phoneForm := ⟨(PhoneNumber.unchecked link.phone).e164, true⟩
    attempt := .sent
    status := none }.entering .token

/-- Where the back control leads. -/
def wentTo (f : Flow) (step : Step) : Flow :=
  (if step = .phone then f.forgetAttempt else f).entering step

/-- As it starts over. -/
def restarted (f : Flow) : Flow :=
  (forgetAttempt { f with phone := none, phoneForm.input := "" }).entering .phone

/-- What an issuance is asked for. -/
def issuanceOptions (f : Flow) : IssuanceOptions :=
  ⟨f.config.issuanceServer, f.config.locale⟩

/-! ## Plans of the operations -/

/-- A record of the step, then the rest. -/
def recordStep (f : Flow) (next : Plan) : Plan :=
  .notes (.own .debug ("entering step " ++ Named.name f.step)) next

/-- A record of the message that is shown, if there is one, then the rest. -/
def recordStatus (f : Flow) (next : Plan) : Plan :=
  match f.status with
  | some message => .notes (.own .debug message.logText) next
  | none => next

/-- Shows the flow and ends with it. -/
def showing (f : Flow) (reply : Reply) : Plan :=
  .shows f.view (.ends reply f)

/-- Sends a code to a number. -/
def sendPlan (f : Flow) (phone : PhoneNumber) : Plan :=
  f.sending.recordStatus <| .shows f.sending.view <| .asks (.send phone f.config.locale) fun
    | .ok dispatch =>
      let g := f.sending.sent dispatch
      g.recordStatus <| g.recordStep <| g.showing .done
    | .error failure =>
      let g := f.sending.unsent failure
      g.recordStep <| g.recordStatus <| g.showing .done

/-- Exchanges a code that is not empty. -/
def verifyPlan (f : Flow) (reply : Reply) (phone : PhoneNumber) (raw : String) : Plan :=
  let g := f.verifying raw
  g.recordStatus <| .shows g.view <| .asks (.verify phone (.normalize raw)) fun
    | .ok token =>
      let h := g.verified
      h.recordStatus <| h.recordStep <| .shows h.view <| .asks (.issue token f.issuanceOptions)
        fun outcome =>
          .notes (.own .info ("issuance ended: " ++ outcome.logText)) <|
            (h.concluded outcome).recordStatus <| (h.concluded outcome).showing reply
    | .error failure =>
      let h := g.unverified failure
      h.recordStatus <| h.showing reply

/-- Submits a code for a number. -/
def codePlan (f : Flow) (reply : Reply) (phone : PhoneNumber) (raw : String) : Plan :=
  if Text.isBlankText raw then (f.blankWarned raw).recordStatus <| (f.blankWarned raw).showing reply
  else f.verifyPlan reply phone raw

/-- Goes on with the number of the flow. -/
def numberPlan (f : Flow) (action : String) (next : PhoneNumber → Plan) : Plan :=
  match f.phone with
  | some phone => next phone
  | none => .ends (.refused (notAllowed action f)) f

/-- Goes on in one step only. -/
def stepPlan (f : Flow) (step : Step) (action : String) (next : Plan) : Plan :=
  if f.step = step then next else .ends (.refused (notAllowed action f)) f

/-- Goes on with a number that was accepted. -/
def acceptPlan (f : Flow) (phone : PhoneNumber) : Plan :=
  if f.config.confirmStep then f.confirming.recordStep <| f.confirming.showing .done
  else f.sendPlan phone

/-- Follows a link. -/
def linkPlan (f : Flow) : Option VerifyLink → Plan
  | none =>
    .notes (.own .debug "ignoring link without verification fragment") <|
      .ends (.linkOpened false) f
  | some link =>
    .notes (.own .info "resuming verification from link") <|
      (f.resumed link).recordStep <|
        (f.resumed link).verifyPlan (.linkOpened true) (.unchecked link.phone) link.code

/-- Goes where the back control leads. -/
def backPlan (f : Flow) : BackAction → Plan
  | .navigate step =>
    (f.wentTo step).recordStep <| (f.wentTo step).showing (.wentBack (.navigate step))
  | .history => .ends (.wentBack .history) f
  | .hidden => .ends (.wentBack .hidden) f

/-- What an operation does to a flow. -/
def plan (f : Flow) : Operation → Plan
  | .submitPhone raw =>
    f.stepPlan .phone "submit a phone number" <| .asks (.validate raw) fun
      | .ok phone => (f.numbered raw phone).acceptPlan phone
      | .error rejection =>
        let g := f.numberWarned raw rejection
        .notes (.own .debug ("phone number refused: " ++ rejection.text)) <|
          g.recordStatus <| g.showing .done
  | .confirm => f.stepPlan .confirm "confirm" <| f.numberPlan "send a code" f.sendPlan
  | .submitCode raw =>
    f.stepPlan .token "submit a code" <|
      f.numberPlan "submit a code" fun phone => f.codePlan .done phone raw
  | .openLink text => f.linkPlan (VerifyLink.parse? text)
  | .back => f.backPlan f.controls.back
  | .restart => f.restarted.recordStep <| f.restarted.showing .done
  | .observe name => .ends .done { f with observer := some name }

/-! ## Performing an operation is following its plan -/

theorem shown_eq_shownTo (f : Flow) : f.shown = Plan.shownTo f.observer f.view := by
  unfold shown Plan.shownTo
  cases f.observer with
  | none => rfl
  | some name => rfl

@[simp] theorem follow_recordStep (s : Services σ) (observer : Option String) (f : Flow)
    (p : Plan) (v : σ) :
    (f.recordStep p).follow s observer v =
      ⟨(p.follow s observer v).value,
        .effect (.log (.own .debug ("entering step " ++ Named.name f.step))) ::
          (p.follow s observer v).events,
        (p.follow s observer v).world⟩ :=
  rfl

@[simp] theorem follow_showing (s : Services σ) (observer : Option String) (f : Flow)
    (reply : Reply) (v : σ) :
    (f.showing reply).follow s observer v = ⟨reply, Plan.shownTo observer f.view, ⟨f, v⟩⟩ := by
  simp [showing, Plan.follow]

/-- An action with its result put as a reply. -/
def replied (reply : α → Reply) (x : Act σ (Except Fault α)) : Act σ Reply := do
  return Reply.of reply (← x)

theorem run_replied (reply : α → Reply) (x : Act σ (Except Fault α)) (w : World σ) :
    (replied reply x).run w =
      ⟨Reply.of reply (x.run w).value, (x.run w).events, (x.run w).world⟩ := by
  simp [replied]

theorem replied_inStep {s : Services σ} {reply : α → Reply} {step : Step} {action : String}
    {body : Act σ (Except Fault α)} {w : World σ} {next : Plan}
    (h : (replied reply body).run w = next.follow s w.flow.observer w.services) :
    (replied reply (inStep step action body)).run w =
      (w.flow.stepPlan step action next).follow s w.flow.observer w.services := by
  unfold stepPlan
  split
  next hstep => rw [← h, run_replied, run_replied, run_inStep, if_pos hstep]
  next hstep =>
    rw [run_replied, run_inStep, if_neg hstep]
    rfl

theorem replied_withPhone {s : Services σ} {reply : α → Reply} {action : String}
    {body : PhoneNumber → Act σ (Except Fault α)} {w : World σ} {next : PhoneNumber → Plan}
    (h : ∀ phone,
      (replied reply (body phone)).run w = (next phone).follow s w.flow.observer w.services) :
    (replied reply (withPhone action body)).run w =
      (w.flow.numberPlan action next).follow s w.flow.observer w.services := by
  unfold numberPlan
  split
  next phone hphone =>
    rw [← h phone, run_replied, run_replied]
    simp [withPhone, hphone]
  next hphone =>
    rw [run_replied]
    simp [withPhone, hphone, Reply.of, Plan.follow]

theorem replied_sendCode (s : Services σ) (w : World σ) :
    (replied (fun _ => .done) (sendCode s)).run w =
      (w.flow.numberPlan "send a code" w.flow.sendPlan).follow s w.flow.observer w.services := by
  apply replied_withPhone
  intro phone
  obtain ⟨f, v⟩ := w
  rw [run_replied]
  cases ha : ((s.sendCode phone f.config.locale).run v).value with
  | ok dispatch =>
      cases hs : f.config.announceSent with
      | true =>
          simp [afterSend, codeSent, ha, hs, sendPlan, sending, sent, sentStatus, announcing,
            entering, recordStatus, Plan.follow, Services.answer, Question.exchange,
            shown_eq_shownTo, Reply.of]
      | false =>
          simp [afterSend, codeSent, ha, hs, sendPlan, sending, sent, sentStatus, announcing,
            entering, recordStatus, Plan.follow, Services.answer, Question.exchange,
            shown_eq_shownTo, Reply.of]
  | error failure =>
      simp [afterSend, codeNotSent, ha, sendPlan, sending, unsent, announcing, entering,
        recordStatus, Plan.follow, Services.answer, Question.exchange, shown_eq_shownTo, Reply.of]

theorem replied_numberAccepted (s : Services σ) (w : World σ) (raw : String)
    (phone : PhoneNumber) :
    (replied (fun _ => .done) (do
      update fun f => { f with phoneForm.input := raw }
      numberAccepted s phone)).run w =
      ((w.flow.numbered raw phone).acceptPlan phone).follow s w.flow.observer w.services := by
  obtain ⟨f, v⟩ := w
  have hsend := replied_sendCode s ⟨f.numbered raw phone, v⟩
  rw [run_replied] at hsend ⊢
  cases hc : f.config.confirmStep with
  | true =>
      simp [numberAccepted, acceptPlan, numbered, confirming, entering, hc,
        shown_eq_shownTo, Reply.of]
  | false =>
      simp only [numberPlan, numbered] at hsend
      simpa [numberAccepted, acceptPlan, numbered, hc] using hsend

theorem replied_submitPhone (s : Services σ) (w : World σ) (raw : String) :
    (replied (fun _ => .done) (submitPhone s raw)).run w =
      (w.flow.plan (.submitPhone raw)).follow s w.flow.observer w.services := by
  apply replied_inStep
  obtain ⟨f, v⟩ := w
  cases ha : ((s.validate raw).run v).value with
  | ok phone =>
      have haccept := replied_numberAccepted s ⟨f, ((s.validate raw).run v).world⟩ raw phone
      rw [run_replied] at haccept ⊢
      simp only [Plan.follow, Services.answer, ha, ← haccept]
      simp [ha, Question.exchange]
  | error rejection =>
      rw [run_replied]
      simp [numberRefused, numberWarned, announcing, recordStatus, ha, Plan.follow,
        Services.answer, Question.exchange, shown_eq_shownTo, Reply.of]

/-- Exchanging a code that is not empty, whatever is replied. -/
theorem replied_exchangeCode (s : Services σ) (w : World σ) (reply : α → Reply) (a : α)
    (phone : PhoneNumber) {raw : String} (hraw : Text.isBlankText raw = false) :
    (replied reply (do
      update fun f => { f with codeForm.input := raw }
      exchangeCode s phone (.normalize raw)
      publish
      return .ok a)).run w =
      (w.flow.verifyPlan (reply a) phone raw).follow s w.flow.observer w.services := by
  obtain ⟨f, v⟩ := w
  rw [run_replied]
  cases ha : ((s.verifyCode phone (.normalize raw)).run v).value with
  | ok token =>
      simp [exchangeCode, VerificationCode.isEmpty_normalize, hraw, afterVerify, handOver, ha,
        verifyPlan, verifying, verified, concluded, issuanceOptions, announcing, entering,
        recordStatus, Plan.follow, Services.answer, Question.exchange, shown_eq_shownTo, Reply.of]
  | error failure =>
      simp [exchangeCode, VerificationCode.isEmpty_normalize, hraw, afterVerify, codeRefused, ha,
        verifyPlan, verifying, unverified, announcing, recordStatus, Plan.follow,
        Services.answer, Question.exchange, shown_eq_shownTo, Reply.of]

theorem replied_submitCode (s : Services σ) (w : World σ) (raw : String) :
    (replied (fun _ => .done) (submitCode s raw)).run w =
      (w.flow.plan (.submitCode raw)).follow s w.flow.observer w.services := by
  apply replied_inStep
  apply replied_withPhone
  intro phone
  cases hraw : Text.isBlankText raw with
  | true =>
      rw [run_replied]
      simp [codePlan, blankWarned, announcing, exchangeCode, VerificationCode.isEmpty_normalize,
        hraw, recordStatus, Plan.follow, shown_eq_shownTo, Reply.of]
  | false =>
      rw [codePlan, if_neg (by simp [hraw])]
      exact replied_exchangeCode s w (fun _ => .done) () phone hraw

theorem run_submitCode {s : Services σ} {w : World σ} {phone : PhoneNumber} (raw : String)
    (hstep : w.flow.step = .token) (hphone : w.flow.phone = some phone) :
    (submitCode s raw).run w =
      (show Act σ (Except Fault Unit) from do
        update fun f => { f with codeForm.input := raw }
        exchangeCode s phone (.normalize raw)
        publish
        return .ok ()).run w := by
  simp [submitCode, withPhone, hstep, hphone]

theorem run_openLink {s : Services σ} {w : World σ} {text : String} {link : VerifyLink}
    (hlink : VerifyLink.parse? text = some link) :
    (openLink s text).run w =
      let o := (submitCode s link.code).run ⟨w.flow.resumed link, w.services⟩
      ⟨o.value.map fun _ => true,
        .effect (.log (.own .info "resuming verification from link")) ::
          .effect (.log (.own .debug ("entering step " ++ Named.name Step.token))) :: o.events,
        o.world⟩ := by
  simp [openLink, hlink, resume, resumed, entering]

theorem reply_of_map {β : Type} (reply : β → Reply) (g : α → β) (x : Except Fault α) :
    Reply.of reply (x.map g) = Reply.of (fun a => reply (g a)) x := by
  cases x with
  | ok a => rfl
  | error fault => rfl

theorem replied_openLink (s : Services σ) (w : World σ) (text : String) :
    (replied .linkOpened (openLink s text)).run w =
      (w.flow.plan (.openLink text)).follow s w.flow.observer w.services := by
  rw [run_replied]
  cases hlink : VerifyLink.parse? text with
  | none => simp [openLink, hlink, plan, linkPlan, Plan.follow, Reply.of]
  | some link =>
      have hcode := replied_exchangeCode s ⟨w.flow.resumed link, w.services⟩
        (fun _ => .linkOpened true) () (.unchecked link.phone) (VerifyLink.isBlankText_code hlink)
      have hrun := run_submitCode (s := s) (w := ⟨w.flow.resumed link, w.services⟩) link.code
        rfl rfl
      have hobserver : (w.flow.resumed link).observer = w.flow.observer := rfl
      rw [run_replied, ← hrun] at hcode
      simp only [hobserver] at hcode
      rw [run_openLink hlink]
      simp only [plan, hlink, linkPlan, Plan.follow, follow_recordStep, reply_of_map, ← hcode]
      rfl

theorem perform_back (s : Services σ) (w : World σ) :
    (perform s .back).run w = (w.flow.plan .back).follow s w.flow.observer w.services := by
  cases hback : w.flow.controls.back with
  | navigate step =>
      by_cases hstep : step = .phone
      · simp [perform, back, plan, backPlan, wentTo, hback, hstep, forgetAttempt, entering,
          shown_eq_shownTo]
      · simp [perform, back, plan, backPlan, wentTo, hback, hstep, entering, shown_eq_shownTo]
  | history => simp [perform, back, plan, backPlan, hback, Plan.follow]
  | hidden => simp [perform, back, plan, backPlan, hback, Plan.follow]

/-- Performing an operation is following its plan. -/
theorem perform_eq_follow (s : Services σ) (op : Operation) (w : World σ) :
    (perform s op).run w = (w.flow.plan op).follow s w.flow.observer w.services := by
  cases op with
  | submitPhone raw => exact replied_submitPhone s w raw
  | confirm =>
      have hconfirm : (replied (fun _ => .done) (confirm s)).run w =
          (w.flow.plan .confirm).follow s w.flow.observer w.services :=
        replied_inStep (replied_sendCode s w)
      exact hconfirm
  | submitCode raw => exact replied_submitCode s w raw
  | openLink text => exact replied_openLink s w text
  | back => exact perform_back s w
  | restart =>
      simp [perform, restart, plan, restarted, forgetAttempt, entering, shown_eq_shownTo]
  | observe name => rfl

end PhoneVerification.Flow
