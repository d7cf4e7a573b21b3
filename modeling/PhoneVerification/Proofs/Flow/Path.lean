import PhoneVerification.Proofs.Flow.Planned

/-!
# The paths of an operation

`Path` lists everything that one operation can do to a flow: the guard under which it does so, the
questions it asks with their answers, its reply, and the flow it leaves. Every property of single
turns is a case analysis on it.
-/

namespace PhoneVerification

/-- The observer that an operation registers, if it does. -/
def Operation.observer? : Operation → Option String
  | .observe name => some name
  | .submitPhone _ | .confirm | .submitCode _ | .openLink _ | .back | .restart => none

namespace Flow

/-- Sending a code to a number: the question, and the flow after its answer. -/
inductive Sends (f : Flow) (phone : PhoneNumber) : List Exchange → Flow → Prop
  | sent (dispatch : SmsDispatch) :
      Sends f phone [.send phone f.config.locale (.ok dispatch)] (f.sending.sent dispatch)
  | unsent (failure : ApiFailure) :
      Sends f phone [.send phone f.config.locale (.error failure)] (f.sending.unsent failure)

/-- Exchanging a code: it is refused, or its token is handed over at once. -/
inductive Verifies (f : Flow) (phone : PhoneNumber) (raw : String) : List Exchange → Flow → Prop
  | refused (failure : ApiFailure) :
      Verifies f phone raw [.verify phone (.normalize raw) (.error failure)]
        ((f.verifying raw).unverified failure)
  | issued (token : SessionToken) (outcome : IssuanceOutcome) :
      Verifies f phone raw
        [.verify phone (.normalize raw) (.ok token), .issue token f.issuanceOptions outcome]
        ((f.verifying raw).verified.concluded outcome)

/-- The first question about a code is whether it is right. -/
theorem Verifies.exists_eq_cons {f g : Flow} {phone : PhoneNumber} {raw : String}
    {xs : List Exchange} (h : Verifies f phone raw xs g) :
    ∃ answer rest, xs = .verify phone (.normalize raw) answer :: rest := by
  cases h with
  | refused failure => exact ⟨_, [], rfl⟩
  | issued token outcome => exact ⟨_, _, rfl⟩

/-- The step that an operation is bound to, with what the operation is called in a refusal. -/
def boundTo? : Operation → Option (Step × String)
  | .submitPhone _ => some (.phone, "submit a phone number")
  | .confirm => some (.confirm, "confirm")
  | .submitCode _ => some (.token, "submit a code")
  | .openLink _ | .back | .restart | .observe _ => none

/-- What an operation can do to a flow. -/
inductive Path (f : Flow) : Operation → List Exchange → Reply → Flow → Prop
  | outOfStep {op : Operation} {step : Step} {action : String}
      (hbound : boundTo? op = some (step, action)) (hstep : f.step ≠ step) :
      Path f op [] (.refused (notAllowed action f)) f
  | numberless {op : Operation} {step : Step} {name : String} (action : String)
      (hbound : boundTo? op = some (step, name)) (hstep : f.step = step) (hne : step ≠ .phone)
      (hphone : f.phone = none) : Path f op [] (.refused (notAllowed action f)) f
  | numberWarned (hstep : f.step = .phone) (raw : String) (rejection : PhoneRejection) :
      Path f (.submitPhone raw) [.validate raw (.error rejection)] .done
        (f.numberWarned raw rejection)
  | numberKept (hstep : f.step = .phone) (hconfirm : f.config.confirmStep = true) (raw : String)
      (phone : PhoneNumber) :
      Path f (.submitPhone raw) [.validate raw (.ok phone)] .done (f.numbered raw phone).confirming
  | numberSent {xs : List Exchange} {g : Flow} (hstep : f.step = .phone)
      (hconfirm : f.config.confirmStep = false) (raw : String) (phone : PhoneNumber)
      (hsends : Sends (f.numbered raw phone) phone xs g) :
      Path f (.submitPhone raw) (.validate raw (.ok phone) :: xs) .done g
  | confirmed {xs : List Exchange} {g : Flow} {phone : PhoneNumber} (hstep : f.step = .confirm)
      (hphone : f.phone = some phone) (hsends : Sends f phone xs g) : Path f .confirm xs .done g
  | blankWarned {phone : PhoneNumber} (hstep : f.step = .token) (hphone : f.phone = some phone)
      {raw : String} (hraw : Text.isBlankText raw = true) :
      Path f (.submitCode raw) [] .done (f.blankWarned raw)
  | codeTried {xs : List Exchange} {g : Flow} {phone : PhoneNumber} (hstep : f.step = .token)
      (hphone : f.phone = some phone) {raw : String} (hraw : Text.isBlankText raw = false)
      (hverifies : Verifies f phone raw xs g) : Path f (.submitCode raw) xs .done g
  | linkIgnored {text : String} (hlink : VerifyLink.parse? text = none) :
      Path f (.openLink text) [] (.linkOpened false) f
  | linkFollowed {xs : List Exchange} {g : Flow} {text : String} {link : VerifyLink}
      (hlink : VerifyLink.parse? text = some link)
      (hverifies : Verifies (f.resumed link) (.unchecked link.phone) link.code xs g) :
      Path f (.openLink text) xs (.linkOpened true) g
  | wentBack {step : Step} (hback : f.controls.back = .navigate step) :
      Path f .back [] (.wentBack (.navigate step)) (f.wentTo step)
  | stayed (hback : ∀ step, f.controls.back ≠ .navigate step) :
      Path f .back [] (.wentBack f.controls.back) f
  | restarted : Path f .restart [] .done f.restarted
  | observed (name : String) : Path f (.observe name) [] .done { f with observer := some name }

section Always

variable {Q : List Exchange → Reply → Flow → Prop} {f : Flow}

@[simp] theorem always_recordStep {p : Plan} : (f.recordStep p).Always Q ↔ p.Always Q :=
  Iff.rfl

@[simp] theorem always_recordStatus {p : Plan} : (f.recordStatus p).Always Q ↔ p.Always Q := by
  unfold recordStatus
  split
  · exact Iff.rfl
  · exact Iff.rfl

@[simp] theorem always_showing {reply : Reply} : (f.showing reply).Always Q ↔ Q [] reply f :=
  Iff.rfl

theorem always_sendPlan {phone : PhoneNumber}
    (h : ∀ xs g, Sends f phone xs g → Q xs .done g) : (f.sendPlan phone).Always Q := by
  simp only [sendPlan, always_recordStatus, Plan.Always]
  intro answer
  cases answer with
  | ok dispatch =>
      simp only [always_recordStatus, always_recordStep, always_showing]
      exact h _ _ (.sent dispatch)
  | error failure =>
      simp only [always_recordStatus, always_recordStep, always_showing]
      exact h _ _ (.unsent failure)

theorem always_verifyPlan {reply : Reply} {phone : PhoneNumber} {raw : String}
    (h : ∀ xs g, Verifies f phone raw xs g → Q xs reply g) :
    (f.verifyPlan reply phone raw).Always Q := by
  simp only [verifyPlan, always_recordStatus, Plan.Always]
  intro answer
  cases answer with
  | ok token =>
      simp only [always_recordStatus, always_recordStep, Plan.Always, always_showing]
      exact fun outcome => h _ _ (.issued token outcome)
  | error failure =>
      simp only [always_recordStatus, always_showing]
      exact h _ _ (.refused failure)

theorem always_stepPlan {step : Step} {action : String} {next : Plan}
    (hout : f.step ≠ step → Q [] (.refused (notAllowed action f)) f)
    (hin : f.step = step → next.Always Q) : (f.stepPlan step action next).Always Q := by
  unfold stepPlan
  split
  next hstep => exact hin hstep
  next hstep => exact hout hstep

theorem always_numberPlan {action : String} {next : PhoneNumber → Plan}
    (hnone : f.phone = none → Q [] (.refused (notAllowed action f)) f)
    (hsome : ∀ phone, f.phone = some phone → (next phone).Always Q) :
    (f.numberPlan action next).Always Q := by
  unfold numberPlan
  split
  next phone hphone => exact hsome phone hphone
  next hphone => exact hnone hphone

theorem always_backPlan {back : BackAction} (hback : f.controls.back = back) :
    (f.backPlan back).Always (Path f .back) := by
  cases back with
  | navigate step => exact .wentBack hback
  | history =>
      have hstayed := Path.stayed (f := f) (by simp [hback])
      rw [hback] at hstayed
      exact hstayed
  | hidden =>
      have hstayed := Path.stayed (f := f) (by simp [hback])
      rw [hback] at hstayed
      exact hstayed

end Always

/-- The plan of an operation ends on a path of the operation, whatever the answers are. -/
theorem always_path (f : Flow) (op : Operation) : (f.plan op).Always (Path f op) := by
  cases op with
  | submitPhone raw =>
      refine always_stepPlan (.outOfStep rfl) fun hstep answer => ?_
      cases answer with
      | ok phone =>
          simp only [acceptPlan]
          split
          next hconfirm => exact .numberKept hstep hconfirm raw phone
          next hconfirm =>
            exact always_sendPlan fun xs g hsends =>
              .numberSent hstep (Bool.eq_false_iff.mpr hconfirm) raw phone hsends
      | error rejection =>
          simp only [Plan.Always, always_recordStatus, always_showing]
          exact .numberWarned hstep raw rejection
  | confirm =>
      refine always_stepPlan (.outOfStep rfl) fun hstep => ?_
      refine always_numberPlan (.numberless _ rfl hstep (by decide)) fun phone hphone => ?_
      exact always_sendPlan fun xs g => .confirmed hstep hphone
  | submitCode raw =>
      refine always_stepPlan (.outOfStep rfl) fun hstep => ?_
      refine always_numberPlan (.numberless _ rfl hstep (by decide)) fun phone hphone => ?_
      unfold codePlan
      split
      next hraw =>
        simp only [always_recordStatus, always_showing]
        exact .blankWarned hstep hphone hraw
      next hraw =>
        exact always_verifyPlan fun xs g =>
          .codeTried hstep hphone (Bool.eq_false_iff.mpr hraw)
  | openLink text =>
      simp only [plan]
      cases hlink : VerifyLink.parse? text with
      | none => exact .linkIgnored hlink
      | some link => exact always_verifyPlan fun xs g => .linkFollowed hlink
  | back => exact always_backPlan rfl
  | restart => exact .restarted
  | observe name => exact .observed name

/-! ## What is never changed -/

section Kept

variable {f g : Flow} {xs : List Exchange}

theorem Sends.kept {phone : PhoneNumber} (h : Sends f phone xs g) :
    g.config = f.config ∧ g.observer = f.observer := by
  cases h with
  | sent dispatch => exact ⟨rfl, rfl⟩
  | unsent failure => exact ⟨rfl, rfl⟩

theorem Verifies.kept {phone : PhoneNumber} {raw : String} (h : Verifies f phone raw xs g) :
    g.config = f.config ∧ g.observer = f.observer := by
  cases h with
  | refused failure => exact ⟨rfl, rfl⟩
  | issued token outcome => exact ⟨rfl, rfl⟩

theorem wentTo_kept (f : Flow) (step : Step) :
    (f.wentTo step).config = f.config ∧ (f.wentTo step).observer = f.observer := by
  unfold wentTo
  split
  · exact ⟨rfl, rfl⟩
  · exact ⟨rfl, rfl⟩

/-- The configuration is never changed, and the observer only by the registration of another. -/
theorem Path.kept {op : Operation} {reply : Reply} (h : Path f op xs reply g) :
    g.config = f.config ∧ g.observer = op.observer?.or f.observer := by
  cases h with
  | outOfStep hbound hstep =>
      cases op with
      | observe name => cases hbound
      | _ => exact ⟨rfl, rfl⟩
  | numberless action hbound hstep hne hphone =>
      cases op with
      | observe name => cases hbound
      | _ => exact ⟨rfl, rfl⟩
  | numberSent hstep hconfirm raw phone hsends => exact hsends.kept
  | confirmed hstep hphone hsends => exact hsends.kept
  | codeTried hstep hphone hraw hverifies => exact hverifies.kept
  | linkFollowed hlink hverifies => exact hverifies.kept
  | wentBack hback => exact f.wentTo_kept _
  | _ => exact ⟨rfl, rfl⟩

end Kept

end Flow

end PhoneVerification
