import PhoneVerification.Issuance.Server
import Mathlib.Logic.Function.Iterate

/-!
# How an issuance is carried out

`Issued` lists the three ways in which an issuance can go: the session cannot be started; it is
offered to the wallet, and one of the looks at it, which are as many as the budget allows, shows its
end or fails; or all of them show it open. It is told from the answers of the network alone.
`issued_within_budget` says that every issuance goes in one of these ways.
-/

namespace PhoneVerification

namespace Effect

/-- Whether something is done outside, and not only recorded. -/
def isDeed : Effect → Bool
  | log _ => false
  | attempt _ | presented _ _ => true

/-- What is done outside, in its order. -/
def deeds (es : List Effect) : List Effect :=
  es.filter isDeed

@[simp] theorem deeds_nil : deeds [] = [] :=
  rfl

@[simp] theorem deeds_append (es fs : List Effect) : deeds (es ++ fs) = deeds es ++ deeds fs :=
  List.filter_append es fs

@[simp] theorem deeds_log (record : Log.Record) (es : List Effect) :
    deeds (.log record :: es) = deeds es :=
  rfl

@[simp] theorem deeds_attempt (d : Http.Draft) (es : List Effect) :
    deeds (.attempt d :: es) = .attempt d :: deeds es :=
  rfl

@[simp] theorem deeds_presented (pointer : SessionPointer) (locale : Locale) (es : List Effect) :
    deeds (.presented pointer locale :: es) = .presented pointer locale :: deeds es :=
  rfl

end Effect

namespace Http.Network

variable {σ : Type} (net : Network σ)

/-- Where it leads to try a draft. -/
def after (d : Draft) (w : σ) : σ :=
  ((net.exchange d).run w).world

/-- What a draft comes to after it was tried `k` times. -/
def nth (d : Draft) (w : σ) (k : Nat) : Except Fault Response :=
  ((net.exchange d).run ((net.after d)^[k] w)).value

theorem nth_zero (d : Draft) (w : σ) : net.nth d w 0 = ((net.exchange d).run w).value := by
  rw [nth, Function.iterate_zero_apply]

theorem nth_succ (d : Draft) (w : σ) (k : Nat) :
    net.nth d w (k + 1) = net.nth d (net.after d w) k := by
  rw [nth, nth, Function.iterate_succ_apply]

/-- To try a draft is one deed, whether or not it is answered. -/
@[simp] theorem deeds_exchange (d : Draft) (w : σ) :
    Effect.deeds ((net.exchange d).run w).events = [.attempt d] := by
  unfold exchange
  cases hrequest : d.request with
  | error fault => simp
  | ok request =>
      by_cases hsendable : request.isSendable = true
      · cases hanswer : (net.answer request w).1 with
        | unreachable => simp [send, hsendable, hanswer]
        | response response => simp [send, hsendable, hanswer]
      · simp [send, hsendable]

end Http.Network

/-- No fault reads as a session that ended in some state. -/
theorem Fault.text_ne_sessionEnded (fault : Fault) (state : String) :
    fault.text ≠ "session ended in state " ++ state := by
  intro h
  have hchars := congrArg String.toList h
  cases fault with
  | invalidConfig reason =>
      change ("invalid_config: " ++ reason).toList = _ at hchars
      simp at hchars
  | invalidTransition action step =>
      change ("invalid_transition: cannot " ++ action ++ " while in " ++ Named.name step).toList = _
        at hchars
      simp at hchars
  | busy =>
      change "busy".toList = _ at hchars
      simp at hchars
  | serialization error =>
      change ("serialization_error: " ++ error).toList = _ at hchars
      simp at hchars
  | network url status error =>
      change ("network_error: " ++ url ++ " (status: " ++ statusText status ++ "): " ++
        error).toList = _ at hchars
      simp at hchars

namespace IssuanceServer

open Http (Response)

variable {σ : Type} {server session : String} {net : Http.Network σ}

/-! ## What the answers of the server say -/

/-- What the answer to the start of a session comes to. -/
inductive Starts (server : String) : Except Fault Response → Except Fault SessionPackage → Prop
  | started {r : Response} {package : SessionPackage} (hsuccess : r.isSuccess = true)
      (hjson : r.json? = some package) : Starts server (.ok r) (.ok package)
  | unreadable {r : Response} (hsuccess : r.isSuccess = true)
      (hjson : (r.json? : Option SessionPackage) = none) :
      Starts server (.ok r) (.error (unreadable "session package"))
  | refused {r : Response} (hfailure : r.isSuccess = false) :
      Starts server (.ok r) (.error (.network (sessionUrl server) (some r.status)
        ("session start failed: " ++ r.text?.getD "")))
  | unanswered (fault : Fault) : Starts server (.error fault) (.error fault)

/-- An answer that shows the session open. -/
inductive IsPending : Except Fault Response → Prop
  | initialized {r : Response} (hsuccess : r.isSuccess = true)
      (hjson : r.json? = some SessionStatus.initialized) : IsPending (.ok r)
  | pairing {r : Response} (hsuccess : r.isSuccess = true)
      (hjson : r.json? = some SessionStatus.pairing) : IsPending (.ok r)
  | connected {r : Response} (hsuccess : r.isSuccess = true)
      (hjson : r.json? = some SessionStatus.connected) : IsPending (.ok r)

/-- An answer that shows the end of the session, or fails to show anything, with its outcome. -/
inductive Ends (server session : String) : Except Fault Response → IssuanceOutcome → Prop
  | done {r : Response} (hsuccess : r.isSuccess = true)
      (hjson : r.json? = some SessionStatus.done) : Ends server session (.ok r) .success
  | cancelled {r : Response} (hsuccess : r.isSuccess = true)
      (hjson : r.json? = some SessionStatus.cancelled) : Ends server session (.ok r) .cancelled
  | timeout {r : Response} (hsuccess : r.isSuccess = true)
      (hjson : r.json? = some SessionStatus.timeout) : Ends server session (.ok r) .timeout
  | unreadable {r : Response} (hsuccess : r.isSuccess = true)
      (hjson : (r.json? : Option SessionStatus) = none) :
      Ends server session (.ok r) (.failed (unreadable "session status").text)
  | unavailable {r : Response} (hfailure : r.isSuccess = false) :
      Ends server session (.ok r) (.failed
        (Fault.network (statusUrl server session) (some r.status)
          "session status unavailable").text)
  | unanswered (fault : Fault) : Ends server session (.error fault) (.failed fault.text)

/-- The ways in which an issuance can go that may look at its session `n` times: what is done, and
the outcome. -/
inductive Issued (net : Http.Network σ) (n : Nat) (token : SessionToken)
    (options : IssuanceOptions) (w : σ) : List Effect → IssuanceOutcome → Prop
  | notStarted {fault : Fault}
      (hstart : Starts options.server (net.nth (startDraft options.server token) w 0)
        (.error fault)) :
      Issued net n token options w [.attempt (startDraft options.server token)]
        (.failed fault.text)
  | ended {package : SessionPackage} {i : Nat} {outcome : IssuanceOutcome}
      (hstart : Starts options.server (net.nth (startDraft options.server token) w 0)
        (.ok package))
      (hi : i < n)
      (hpending : ∀ k < i, IsPending (net.nth (statusDraft options.server package.token)
        (net.after (startDraft options.server token) w) k))
      (hends : Ends options.server package.token
        (net.nth (statusDraft options.server package.token)
          (net.after (startDraft options.server token) w) i) outcome) :
      Issued net n token options w
        (.attempt (startDraft options.server token) ::
          .presented package.pointer options.locale ::
          List.replicate (i + 1) (.attempt (statusDraft options.server package.token)))
        outcome
  | exhausted {package : SessionPackage}
      (hstart : Starts options.server (net.nth (startDraft options.server token) w 0)
        (.ok package))
      (hpending : ∀ k < n, IsPending (net.nth (statusDraft options.server package.token)
        (net.after (startDraft options.server token) w) k)) :
      Issued net n token options w
        (.attempt (startDraft options.server token) ::
          .presented package.pointer options.locale ::
          List.replicate n (.attempt (statusDraft options.server package.token)))
        .timeout

/-! ## The start of a session -/

theorem starts_packageOf (server : String) (r : Response) :
    Starts server (.ok r) (packageOf server r) := by
  cases hsuccess : r.isSuccess with
  | true =>
      cases hjson : (r.json? : Option SessionPackage) with
      | some package =>
          simp only [packageOf, hsuccess, hjson, if_true]
          exact .started hsuccess hjson
      | none =>
          simp only [packageOf, hsuccess, hjson, if_true]
          exact .unreadable hsuccess hjson
  | false =>
      simp only [packageOf, hsuccess, Bool.false_eq_true, if_false]
      exact .refused hsuccess

theorem run_startSession (net : Http.Network σ) (server : String) (token : SessionToken) (w : σ) :
    Starts server (net.nth (startDraft server token) w 0)
        ((startSession net server token).run w).value ∧
      Effect.deeds ((startSession net server token).run w).events =
        [.attempt (startDraft server token)] ∧
      ((startSession net server token).run w).world = net.after (startDraft server token) w := by
  have hdeeds := net.deeds_exchange (startDraft server token) w
  rw [net.nth_zero, Http.Network.after]
  cases hanswer : ((net.exchange (startDraft server token)).run w).value with
  | error fault =>
      refine ⟨?_, by simp [startSession, hanswer, hdeeds], by simp [startSession, hanswer]⟩
      simpa [startSession, hanswer] using Starts.unanswered fault
  | ok r =>
      refine ⟨?_, by simp [startSession, hanswer, hdeeds], by simp [startSession, hanswer]⟩
      simpa [startSession, hanswer] using starts_packageOf server r

/-! ## Looking at a session -/

/-- What one look at a session comes to. -/
inductive Looked (server session : String) :
    Except Fault Response → Except PollFailure SessionStatus → Prop
  | pending {answer : Except Fault Response} (h : IsPending answer) (status : SessionStatus) :
      Looked server session answer (.error (.pending status))
  | ended {answer : Except Fault Response} {status : SessionStatus}
      (h : Ends server session answer (outcomeOf status)) : Looked server session answer (.ok status)
  | failed {answer : Except Fault Response} {fault : Fault}
      (h : Ends server session answer (.failed fault.text)) :
      Looked server session answer (.error (.failed fault))

/-- A response to a look shows the end of the session, shows it open, or does not show anything. -/
theorem looked_statusOf (server session : String) (r : Response) :
    Looked server session (.ok r) (match statusOf server session r with
      | .ok status => if status.isTerminal then .ok status else .error (.pending status)
      | .error fault => .error (.failed fault)) := by
  cases hsuccess : r.isSuccess with
  | false =>
      simp only [statusOf, hsuccess, Bool.false_eq_true, if_false]
      exact .failed (.unavailable hsuccess)
  | true =>
      cases hjson : (r.json? : Option SessionStatus) with
      | none =>
          simp only [statusOf, hsuccess, hjson, if_true]
          exact .failed (.unreadable hsuccess hjson)
      | some status =>
          simp only [statusOf, hsuccess, hjson, if_true]
          cases status with
          | initialized => exact .pending (.initialized hsuccess hjson) _
          | pairing => exact .pending (.pairing hsuccess hjson) _
          | connected => exact .pending (.connected hsuccess hjson) _
          | cancelled => exact .ended (.cancelled hsuccess hjson)
          | done => exact .ended (.done hsuccess hjson)
          | timeout => exact .ended (.timeout hsuccess hjson)

theorem run_poll (net : Http.Network σ) (server session : String) (w : σ) :
    Looked server session (net.nth (statusDraft server session) w 0)
        ((poll net server session).run w).value ∧
      Effect.deeds ((poll net server session).run w).events =
        [.attempt (statusDraft server session)] ∧
      ((poll net server session).run w).world = net.after (statusDraft server session) w := by
  have hdeeds := net.deeds_exchange (statusDraft server session) w
  rw [net.nth_zero, Http.Network.after]
  cases hanswer : ((net.exchange (statusDraft server session)).run w).value with
  | error fault =>
      refine ⟨?_, by simp [poll, sessionStatus, hanswer, hdeeds],
        by simp [poll, sessionStatus, hanswer]⟩
      simpa [poll, sessionStatus, hanswer] using Looked.failed (.unanswered fault)
  | ok r =>
      have hlooked := looked_statusOf server session r
      cases hstatus : statusOf server session r with
      | ok status =>
          rw [hstatus] at hlooked
          refine ⟨?_, by simp [poll, sessionStatus, hanswer, hstatus, hdeeds],
            by simp [poll, sessionStatus, hanswer, hstatus]⟩
          simpa [poll, sessionStatus, hanswer, hstatus] using hlooked
      | error fault =>
          rw [hstatus] at hlooked
          refine ⟨?_, by simp [poll, sessionStatus, hanswer, hstatus, hdeeds],
            by simp [poll, sessionStatus, hanswer, hstatus]⟩
          simpa [poll, sessionStatus, hanswer, hstatus] using hlooked

/-- Looking at a session again while it is open: the last look is the first one that does not show it
open, or the last one allowed. -/
theorem run_retry (net : Http.Network σ) (server session : String) (retries : Nat) (w : σ) :
    let o := ((poll net server session).retry PollFailure.announce? retries).run w
    ∃ i ≤ retries, (∀ k < i, IsPending (net.nth (statusDraft server session) w k)) ∧
      Looked server session (net.nth (statusDraft server session) w i) o.value ∧
      (i = retries ∨ ∀ status, o.value ≠ .error (.pending status)) ∧
      Effect.deeds o.events = List.replicate (i + 1) (.attempt (statusDraft server session)) := by
  induction retries generalizing w with
  | zero =>
      obtain ⟨hlooked, hdeeds, -⟩ := run_poll net server session w
      exact ⟨0, Nat.le_refl 0, by simp, hlooked, .inl rfl, hdeeds⟩
  | succ retries ih =>
      obtain ⟨hlooked, hdeeds, hworld⟩ := run_poll net server session w
      cases hvalue : ((poll net server session).run w).value with
      | ok status =>
          rw [hvalue] at hlooked
          refine ⟨0, Nat.zero_le _, by simp, ?_, .inr ?_, ?_⟩
          · simpa [Action.retry, hvalue] using hlooked
          · simp [Action.retry, hvalue]
          · simp [Action.retry, hvalue, hdeeds]
      | error failure =>
          rw [hvalue] at hlooked
          cases failure with
          | failed fault =>
              refine ⟨0, Nat.zero_le _, by simp, ?_, .inr ?_, ?_⟩
              · simpa [Action.retry, hvalue, PollFailure.announce?] using hlooked
              · simp [Action.retry, hvalue, PollFailure.announce?]
              · simp [Action.retry, hvalue, PollFailure.announce?, hdeeds]
          | pending status =>
              obtain ⟨i, hi, hpending, hlast, hstops, hagain⟩ :=
                ih (net.after (statusDraft server session) w)
              rw [← net.nth_succ] at hlast
              refine ⟨i + 1, Nat.succ_le_succ hi, ?_, ?_, ?_, ?_⟩
              · intro k hk
                cases k with
                | zero =>
                    cases hlooked with
                    | pending h => exact h
                | succ k =>
                    rw [net.nth_succ]
                    exact hpending k (Nat.lt_of_succ_lt_succ hk)
              · simpa [Action.retry, hvalue, PollFailure.announce?, hworld] using hlast
              · rcases hstops with rfl | hstops
                · exact .inl rfl
                · exact .inr (by simpa [Action.retry, hvalue, PollFailure.announce?, hworld]
                    using hstops)
              · simp [Action.retry, hvalue, PollFailure.announce?, hworld, hdeeds, hagain,
                  List.replicate_succ]

/-- What an issuance comes to once its session was left. -/
def concluded : Except Fault SessionStatus → IssuanceOutcome
  | .ok status => outcomeOf status
  | .error fault => .failed fault.text

theorem run_awaitEnd (net : Http.Network σ) (budget : PollBudget) (server session : String)
    (w : σ) :
    let o := (awaitEnd net budget server session).run w
    (∃ i < budget.polls, (∀ k < i, IsPending (net.nth (statusDraft server session) w k)) ∧
      Ends server session (net.nth (statusDraft server session) w i) (concluded o.value) ∧
      Effect.deeds o.events = List.replicate (i + 1) (.attempt (statusDraft server session))) ∨
    ((∀ k < budget.polls, IsPending (net.nth (statusDraft server session) w k)) ∧
      concluded o.value = .timeout ∧
      Effect.deeds o.events =
        List.replicate budget.polls (.attempt (statusDraft server session))) := by
  have hpolls := budget.polls_pos
  obtain ⟨i, hi, hpending, hlooked, hstops, hdeeds⟩ :=
    run_retry net server session (budget.polls - 1) w
  cases hvalue : (((poll net server session).retry PollFailure.announce?
      (budget.polls - 1)).run w).value with
  | ok status =>
      rw [hvalue] at hlooked
      cases hlooked with
      | ended hends =>
          refine .inl ⟨i, by omega, hpending, ?_, ?_⟩
          · simpa [awaitEnd, hvalue, concluded] using hends
          · simp [awaitEnd, hvalue, hdeeds]
  | error failure =>
      rw [hvalue] at hlooked hstops
      cases hlooked with
      | failed hends =>
          refine .inl ⟨i, by omega, hpending, ?_, ?_⟩
          · simpa [awaitEnd, hvalue, concluded] using hends
          · simp [awaitEnd, hvalue, hdeeds]
      | pending hlast status =>
          -- the look that still showed the session open was the last one allowed
          obtain rfl : i = budget.polls - 1 := hstops.resolve_right fun h => h status rfl
          refine .inr ⟨fun k hk => ?_, ?_, ?_⟩
          · rcases Nat.lt_or_ge k (budget.polls - 1) with hlt | hge
            · exact hpending k hlt
            · obtain rfl : k = budget.polls - 1 := by omega
              exact hlast
          · simp [awaitEnd, hvalue, concluded, outcomeOf]
          · have hcount : budget.polls - 1 + 1 = budget.polls := by omega
            rw [hcount] at hdeeds
            simp [awaitEnd, hvalue, hdeeds]

/-! ## The whole issuance -/

theorem run_issue_of_started (budget : PollBudget) {net : Http.Network σ} {token : SessionToken}
    {options : IssuanceOptions} {w : σ} {package : SessionPackage}
    (hstart : ((startSession net options.server token).run w).value = .ok package) :
    let first := (startSession net options.server token).run w
    let rest := (awaitEnd net budget options.server package.token).run first.world
    ((issue net budget token options).run w).value = concluded rest.value ∧
      Effect.deeds ((issue net budget token options).run w).events =
        Effect.deeds first.events ++
          .presented package.pointer options.locale :: Effect.deeds rest.events := by
  cases hvalue : ((awaitEnd net budget options.server package.token).run
      ((startSession net options.server token).run w).world).value with
  | ok status => simp [issue, hstart, hvalue, concluded]
  | error fault => simp [issue, hstart, hvalue, concluded]

/-- Every issuance goes in one of the three ways. -/
theorem issued_issue (net : Http.Network σ) (budget : PollBudget) (token : SessionToken)
    (options : IssuanceOptions) (w : σ) :
    Issued net budget.polls token options w
      (Effect.deeds ((issue net budget token options).run w).events)
      ((issue net budget token options).run w).value := by
  obtain ⟨hstarts, hfirst, hworld⟩ := run_startSession net options.server token w
  cases hstart : ((startSession net options.server token).run w).value with
  | error fault =>
      rw [hstart] at hstarts
      have hdeeds : Effect.deeds ((issue net budget token options).run w).events =
          [.attempt (startDraft options.server token)] := by
        simp [issue, hstart, hfirst]
      have houtcome : ((issue net budget token options).run w).value = .failed fault.text := by
        simp [issue, hstart]
      rw [hdeeds, houtcome]
      exact .notStarted hstarts
  | ok package =>
      rw [hstart] at hstarts
      obtain ⟨houtcome, hdeeds⟩ := run_issue_of_started budget hstart
      rw [houtcome, hdeeds, hfirst, hworld]
      rcases run_awaitEnd net budget options.server package.token
          (net.after (startDraft options.server token) w) with
        ⟨i, hi, hpending, hends, hlooks⟩ | ⟨hpending, htimeout, hlooks⟩
      · rw [hlooks]
        exact .ended hstarts hi hpending hends
      · rw [hlooks, htimeout]
        exact .exhausted hstarts hpending

/-- Where an outcome tells a reason, the reason is a fault. -/
theorem Ends.exists_fault {answer : Except Fault Response} {outcome : IssuanceOutcome}
    {reason : String} (h : Ends server session answer outcome)
    (hfailed : outcome = .failed reason) : ∃ fault : Fault, fault.text = reason := by
  cases h with
  | done hsuccess hjson => cases hfailed
  | cancelled hsuccess hjson => cases hfailed
  | timeout hsuccess hjson => cases hfailed
  | unreadable hsuccess hjson => exact ⟨_, IssuanceOutcome.failed.inj hfailed⟩
  | unavailable hfailure => exact ⟨_, IssuanceOutcome.failed.inj hfailed⟩
  | unanswered fault => exact ⟨fault, IssuanceOutcome.failed.inj hfailed⟩

theorem Issued.exists_fault {n : Nat} {token : SessionToken} {options : IssuanceOptions} {w : σ}
    {es : List Effect} {outcome : IssuanceOutcome} {reason : String}
    (h : Issued net n token options w es outcome) (hfailed : outcome = .failed reason) :
    ∃ fault : Fault, fault.text = reason := by
  cases h with
  | notStarted hstart => exact ⟨_, IssuanceOutcome.failed.inj hfailed⟩
  | ended hstart hi hpending hends => exact hends.exists_fault hfailed
  | exhausted hstart hpending => cases hfailed

/-- An issuance goes in one of the three ways, with the budget of the configuration but at least one
look, or with 150 looks if nothing is configured. It never tells of a session that was left in
between. -/
theorem issued_within_budget (net : Http.Network σ) (c : Option Config) (token : SessionToken)
    (options : IssuanceOptions) (w : σ) :
    let o := (issue net (c.elim .standard .ofConfig) token options).run w
    Issued net (c.elim 150 fun c => max 1 c.sessionPollMax.toNat) token options w
        (Effect.deeds o.events) o.value ∧
      ∀ state, o.value ≠ .failed ("session ended in state " ++ state) := by
  have hpolls : (c.elim PollBudget.standard PollBudget.ofConfig).polls =
      c.elim 150 fun c => max 1 c.sessionPollMax.toNat := by
    cases c with
    | none => rfl
    | some c => rfl
  have hissued := issued_issue net (c.elim .standard .ofConfig) token options w
  rw [hpolls] at hissued
  refine ⟨hissued, fun state hfailed => ?_⟩
  obtain ⟨fault, hfault⟩ := hissued.exists_fault hfailed
  exact fault.text_ne_sessionEnded state hfault

/-- A response with these bytes. -/
def answered (body : List UInt8) : Http.Answer :=
  .response ⟨200, [], some body⟩

/-- The answers about a session that ends with the second look. Its package has a string of one byte
which is that of no text. -/
def endsLate : List Http.Answer :=
  [answered (Text.Utf8.encode
      "\x7b\"sessionPtr\":\x7b\"u\":\"u\",\"irmaqr\":\"issuing\"\x7d,\"token\":\"t\",\"note\":\"" ++
        0xFF :: Text.Utf8.encode "\"\x7d"),
    answered (Text.Utf8.encode "\"PAIRING\""), answered (Text.Utf8.encode "\"DONE\"")]

/-- With no polls configured the session is offered to the wallet and looked at once, which is too
early. -/
theorem issued_with_no_polls :
    let o := (issue .scripted (.ofConfig { sessionPollMax := 0 }) ⟨"jwt"⟩
      ⟨"http://issuer", .nl⟩).run endsLate
    Issued .scripted 1 ⟨"jwt"⟩ ⟨"http://issuer", .nl⟩ endsLate (Effect.deeds o.events) o.value ∧
      Effect.deeds o.events =
        [.attempt ⟨.post, "http://issuer/session", some "text/plain", "jwt"⟩,
          .presented ⟨"u", "issuing"⟩ .nl,
          .attempt ⟨.get, "http://issuer/session/t/status", none, ""⟩] ∧
      o.value = .timeout := by
  obtain ⟨hissued, -⟩ := issued_within_budget .scripted (some { sessionPollMax := 0 }) ⟨"jwt"⟩
    ⟨"http://issuer", .nl⟩ endsLate
  exact ⟨hissued, by decide +kernel, by decide +kernel⟩

end IssuanceServer

end PhoneVerification
