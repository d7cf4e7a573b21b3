import PhoneVerification.Flow.Script
import PhoneVerification.Proofs.Flow.FreshAttempt
import PhoneVerification.Proofs.Flow.Handoff
import PhoneVerification.Proofs.Flow.UpToDate

/-!
# A form is disabled while its request is pending

`Pending` says what is on display while a service is asked, and `Settled` what is on display once
the operation has ended. Neither depends on the runs before: what an earlier attempt has left in the
forms is either set anew or, because the flow is consistent, the same after every run.
-/

namespace PhoneVerification

/-- The text that an operation submits as a code, if it does. -/
def Operation.submittedCode? : Operation → Option String
  | .submitCode raw => some raw
  | .openLink text => (VerifyLink.parse? text).map VerifyLink.code
  | .submitPhone _ | .confirm | .back | .restart | .observe _ => none

theorem Operation.submittedCode?_openLink {text : String} {link : VerifyLink}
    (hlink : VerifyLink.parse? text = some link) :
    submittedCode? (.openLink text) = some link.code := by
  simp [submittedCode?, hlink]

namespace View

/-- The button is that of the step, in a language. -/
def Labelled (l : Locale) (v : View) : Prop :=
  v.buttonLabel = (Controls.buttonOf v.step).map (Message.text l)

/-- The form that can be submitted is open. -/
structure Open (v : View) : Prop where
  phone : v.step = .phone ∨ v.step = .confirm → v.phoneDisabled = false
  code : v.step = .token → v.codeDisabled = false

end View

/-- What is shown while a service is asked. -/
inductive Pending (c : Config) (op : Operation) (v : View) : Exchange → Prop
  | send (phone : PhoneNumber) (answer : Except ApiFailure SmsDispatch)
      (hlabel : v.Labelled c.locale) (hstep : v.step = .phone ∨ v.step = .confirm)
      (hphone : v.phoneDisabled = true)
      (hstatus : v.status = some ⟨.info, Message.text c.locale .sendingSms⟩) :
      Pending c op v (.send phone c.locale answer)
  | verify (phone : PhoneNumber) (answer : Except ApiFailure SessionToken)
      (hlabel : v.Labelled c.locale) (hstep : v.step = .token)
      (hphone : v.phoneDisabled = true) (hcode : v.codeDisabled = true)
      (hinput : op.submittedCode? = some v.codeInput)
      (hstatus : v.status = some ⟨.info, Message.text c.locale .verifyingToken⟩) :
      Pending c op v (.verify phone (.normalize v.codeInput) answer)
  | issue (token : SessionToken) (outcome : IssuanceOutcome)
      (hlabel : v.buttonLabel = none) (hback : v.back = .hidden) (hstep : v.step = .done)
      (hphone : v.phoneDisabled = true) (hcode : v.codeDisabled = true)
      (hstatus : v.status = some ⟨.info, Message.text c.locale .issuingCredential⟩) :
      Pending c op v (.issue token ⟨c.issuanceServer, c.locale⟩ outcome)

/-- What is shown after an operation that has asked a service. -/
inductive Settled (c : Config) (op : Operation) (v : View) : Exchange → Prop
  | sent (phone : PhoneNumber) (dispatch : SmsDispatch)
      (hlabel : v.Labelled c.locale) (hstep : v.step = .token) (hphone : v.phoneDisabled = true)
      (hstatus : v.status =
        if c.announceSent then some ⟨.info, Message.smsSent c.locale dispatch.sender⟩ else none) :
      Settled c op v (.send phone c.locale (.ok dispatch))
  | unsent (phone : PhoneNumber) (failure : ApiFailure)
      (hlabel : v.Labelled c.locale) (hstep : v.step = .phone) (hphone : v.phoneDisabled = false)
      (hstatus : v.status = some ⟨.danger, Message.failure c.locale failure⟩) :
      Settled c op v (.send phone c.locale (.error failure))
  | refused (phone : PhoneNumber) (failure : ApiFailure)
      (hlabel : v.Labelled c.locale) (hstep : v.step = .token) (hphone : v.phoneDisabled = true)
      (hcode : v.codeDisabled = false) (hinput : op.submittedCode? = some v.codeInput)
      (hstatus : v.status = some ⟨.danger, Flow.refusalText failure c.locale⟩) :
      Settled c op v (.verify phone (.normalize v.codeInput) (.error failure))
  | accepted (phone : PhoneNumber) (token : SessionToken)
      (hlabel : v.buttonLabel = none) (hstep : v.step = .done) (hphone : v.phoneDisabled = true)
      (hcode : v.codeDisabled = true) (hinput : op.submittedCode? = some v.codeInput) :
      Settled c op v (.verify phone (.normalize v.codeInput) (.ok token))
  | issued (token : SessionToken) (outcome : IssuanceOutcome)
      (hlabel : v.buttonLabel = none) (hstep : v.step = .done) (hphone : v.phoneDisabled = true)
      (hcode : v.codeDisabled = true)
      (hstatus : v.status = some ⟨outcome.status.1, Message.text c.locale outcome.status.2⟩) :
      Settled c op v (.issue token ⟨c.issuanceServer, c.locale⟩ outcome)

namespace Flow

variable {σ : Type} {c : Config} {asked xs : List Exchange} {f g : Flow} {op : Operation}

theorem Consistent.open_view (h : Consistent c asked f) : f.view.Open where
  phone := h.phoneForm_enabled
  code hstep := by
    have hstep : f.step = .token := hstep
    have hdisabled := h.codeDisabled
    rw [hstep] at hdisabled
    simpa [view] using hdisabled

theorem Consistent.labelled_view (h : Consistent c asked f) : f.view.Labelled c.locale := by
  simp [View.Labelled, view, h.controls, h.config, Controls.of]

/-- While a service is asked, its form is disabled. -/
theorem pending_of_awaits (h : Consistent c asked f) {shown : Option View} {x : Exchange}
    (hawaits : Awaits f op shown x) (hcall : x.isCall = true) :
    ∃ v, shown = some v ∧ Pending c op v x := by
  have hlabel := h.labelled_view
  obtain rfl := h.config
  cases hawaits with
  | validation hstep raw answer => cases hcall
  | sending hstep raw phone answer =>
      exact ⟨_, rfl, .send phone answer hlabel (.inl hstep) rfl rfl⟩
  | confirmed hstep phone answer =>
      exact ⟨_, rfl, .send phone answer hlabel (.inr hstep) rfl rfl⟩
  | verifying hstep raw phone answer =>
      have hphone := h.phoneDisabled.mpr (.inl hstep)
      exact ⟨_, rfl, .verify phone answer hlabel hstep hphone rfl rfl rfl⟩
  | issuing hstep raw token outcome =>
      have hphone := h.phoneDisabled.mpr (.inl hstep)
      exact ⟨_, rfl, .issue token outcome rfl rfl rfl hphone rfl rfl⟩
  | linkVerifying hlink answer =>
      have hinput := Operation.submittedCode?_openLink hlink
      exact ⟨_, rfl, .verify _ answer rfl rfl rfl rfl hinput rfl⟩
  | linkIssuing hlink token outcome =>
      exact ⟨_, rfl, .issue token outcome rfl rfl rfl rfl rfl rfl⟩

theorem settled_of_sends {phone : PhoneNumber} (hconfig : f.config = c)
    (h : Sends f phone xs g) : ∀ x ∈ xs, Settled c op g.view x := by
  subst hconfig
  cases h with
  | sent dispatch => simpa using .sent phone dispatch rfl rfl rfl rfl
  | unsent failure => simpa using .unsent phone failure rfl rfl rfl rfl

theorem settled_of_verifies {phone : PhoneNumber} {raw : String} (hconfig : f.config = c)
    (hlabel : f.view.Labelled c.locale) (hstep : f.step = .token)
    (hphone : f.phoneForm.disabled = true) (hinput : op.submittedCode? = some raw)
    (h : Verifies f phone raw xs g) : ∀ x ∈ xs, Settled c op g.view x := by
  subst hconfig
  cases h with
  | refused failure =>
      simpa using .refused phone failure hlabel hstep hphone rfl hinput rfl
  | issued token outcome =>
      intro x hx
      rcases List.mem_pair.mp hx with rfl | rfl
      · exact .accepted phone token rfl rfl hphone rfl hinput
      · exact .issued token outcome rfl rfl hphone rfl rfl

/-- Once an operation has ended, its form is open again exactly if its request has failed. -/
theorem settled_of_path (h : Consistent c asked f) {reply : Reply}
    (hpath : Path f op xs reply g) : ∀ x ∈ xs, x.isCall = true → Settled c op g.view x := by
  intro x hx hcall
  cases hpath with
  | numberWarned hstep raw rejection =>
      obtain rfl := List.mem_singleton.mp hx
      cases hcall
  | numberKept hstep hconfirm raw phone =>
      obtain rfl := List.mem_singleton.mp hx
      cases hcall
  | numberSent hstep hconfirm raw phone hsends =>
      rcases List.mem_cons.mp hx with rfl | hx
      · cases hcall
      · exact settled_of_sends (f := f.numbered raw phone) h.config hsends x hx
  | confirmed hstep hphone hsends => exact settled_of_sends h.config hsends x hx
  | codeTried hstep hphone hraw hverifies =>
      have hdisabled := h.phoneDisabled.mpr (.inl hstep)
      exact settled_of_verifies h.config h.labelled_view hstep hdisabled rfl hverifies x hx
  | @linkFollowed _ _ _ link hlink hverifies =>
      have hinput := Operation.submittedCode?_openLink hlink
      have hlabel : (f.resumed link).view.Labelled c.locale := by
        rw [← h.config]
        rfl
      exact settled_of_verifies (f := f.resumed link) h.config hlabel rfl rfl hinput hverifies x hx
  | _ => cases hx

/-- Whatever was on display before, a form is shown disabled when its service is asked. -/
def PendingAt (c : Config) (op : Operation) (past : List Event) : Event → Prop
  | .exchange x => x.isCall = true →
      ∀ shown, ∃ v, Event.display shown past = some v ∧ Pending c op v x
  | .effect _ | .view _ _ => True

variable {s : Services σ} {w : World σ}

theorem pendingAt_perform (h : Consistent c asked w.flow) {name : String}
    (hobserver : w.flow.observer = some name) (op : Operation) :
    Each (PendingAt c op) ((perform s op).run w).events := by
  have hasked := ((watched_plan w.flow op).follow s name w.services).1
  rw [← hobserver, ← perform_eq_follow] at hasked
  intro past e rest hsplit
  have he := hasked past e rest hsplit
  cases e with
  | effect e => trivial
  | view name v => trivial
  | exchange x =>
      intro hcall shown
      obtain ⟨v, hv, hpending⟩ := pending_of_awaits h he hcall
      exact ⟨v, Event.display_eq_some hv shown, hpending⟩

theorem settled_perform (h : Consistent c asked w.flow) {name : String}
    (hobserver : w.flow.observer = some name) (op : Operation) :
    ∀ x ∈ Event.exchanges ((perform s op).run w).events, x.isCall = true →
      ∀ shown, ∃ v, Event.display shown ((perform s op).run w).events = some v ∧
        Settled c op v x := by
  intro x hx hcall shown
  have hsettled := settled_of_path h (path_turn s op w) x hx hcall
  obtain ⟨past, rest, hsplit⟩ := List.append_of_mem (Event.mem_exchanges hx)
  obtain ⟨v, hv, -⟩ := pendingAt_perform (s := s) h hobserver op past _ rest hsplit hcall none
  have hviews : Event.views ((perform s op).run w).events ≠ [] := by
    rw [hsplit, Event.views_append]
    exact List.append_ne_nil_of_left_ne_nil (Event.views_ne_nil_of_display hv) _
  refine ⟨_, ?_, hsettled⟩
  rw [Event.display_eq_of_views_ne_nil hviews shown (some w.flow.view)]
  exact display_perform hobserver op

/-- Between two operations the form of the step is open. It is disabled while its service is asked,
and once the operation has ended it is open again exactly if the request has failed. -/
theorem disabled_while_pending (s : Services σ) (c : Config) (v : σ) (ops : List Operation)
    {name : String} (hobserver : lastObserver ops = some name) (op : Operation) :
    let w := worldAfter s ops (opened c v)
    w.flow.view.Open ∧
      Each (PendingAt c op) ((perform s op).run w).events ∧
      ∀ x ∈ Event.exchanges ((perform s op).run w).events, x.isCall = true →
        ∀ shown, ∃ v, Event.display shown ((perform s op).run w).events = some v ∧
          Settled c op v x := by
  intro w
  have hname : w.flow.observer = some name := (observer_worldAfter s c v ops).trans hobserver
  have hconsistent := consistent_worldAfter s c v ops
  exact ⟨hconsistent.open_view, pendingAt_perform hconsistent hname op,
    settled_perform hconsistent hname op⟩

/-- A number waits to be confirmed, on a screen, and the next code will be refused. -/
def toBeRefused : World Script :=
  worldAfter (.scripted .standard) [.observe "screen", .submitPhone "0612345678"]
    (opened {} { verifies := [.error (.rejected .internal)] })

/-- What happens when a link with a code is followed there. -/
def refusedLink : List Event :=
  ((perform (.scripted .standard) (.openLink "#!verify:1:ab")).run toBeRefused).events

/-- The code of a link is refused, and stays in a form that is open again. -/
theorem disabled_while_link_is_tried :
    (lastObserver [.observe "screen", .submitPhone "0612345678"] = some "screen" ∧
      Event.exchanges refusedLink =
        [.verify (.unchecked "1") (.normalize "ab") (.error (.rejected .internal))]) ∧
    toBeRefused.flow.view.Open ∧
    Each (PendingAt {} (.openLink "#!verify:1:ab")) refusedLink ∧
    (∃ v, Event.display none refusedLink = some v ∧
      Settled {} (.openLink "#!verify:1:ab") v
        (.verify (.unchecked "1") (.normalize "ab") (.error (.rejected .internal)))) ∧
    (Event.views refusedLink).map
      (fun v => (v.2.step, v.2.phoneDisabled, v.2.codeInput, v.2.codeDisabled)) =
        [(.token, true, "ab", true), (.token, true, "ab", false)] := by
  have hlast : lastObserver [.observe "screen", .submitPhone "0612345678"] = some "screen" := rfl
  have hasked : Event.exchanges refusedLink =
      [.verify (.unchecked "1") (.normalize "ab") (.error (.rejected .internal))] := rfl
  obtain ⟨hopen, hpending, hsettled⟩ := disabled_while_pending (.scripted .standard) {}
    { verifies := [.error (.rejected .internal)] } _ hlast (.openLink "#!verify:1:ab")
  refine ⟨⟨hlast, hasked⟩, hopen, hpending, hsettled _ ?_ rfl none, by decide +kernel⟩
  exact hasked ▸ List.mem_singleton_self _

end Flow

end PhoneVerification
