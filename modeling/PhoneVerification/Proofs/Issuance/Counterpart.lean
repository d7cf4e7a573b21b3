import PhoneVerification.Issuance.Server
import PhoneVerification.Proofs.Http.Counterpart

/-!
# Issuances over two networks

A session token is only ever posted to the server, and of an answer only the status and the body are
read. So if the server answers alike, whatever the token is and whatever other headers come with the
answers, two issuances look the same and have the same outcome, the texts of failures included.
-/

namespace PhoneVerification

/-- Responses that are the same but for their headers. -/
structure Http.SameContent (r r' : Http.Response) : Prop where
  status : r.status = r'.status
  body : r.body = r'.body

namespace IssuanceServer

variable {δ σ τ : Type} {see : Effect → List δ} {R : σ → τ → Prop}
  {A : Http.Answer → Http.Answer → Prop} {net : Http.Network σ} {net' : Http.Network τ}
  {server session : String} {token token' : SessionToken} {r r' : Http.Response}

theorem packageOf_eq (h : Http.SameContent r r') (server : String) :
    packageOf server r = packageOf server r' := by
  obtain ⟨status, headers, body⟩ := r
  obtain ⟨rfl, rfl⟩ := h
  rfl

theorem statusOf_eq (h : Http.SameContent r r') (server session : String) :
    statusOf server session r = statusOf server session r' := by
  obtain ⟨status, headers, body⟩ := r
  obtain ⟨rfl, rfl⟩ := h
  rfl

theorem coupled_startSession
    (hread : ∀ x y, Http.Received A x y → Agree Http.SameContent x y)
    (hsee : see (.attempt (startDraft server token)) = see (.attempt (startDraft server token')))
    (hstart : Http.AnswerIn R A net net' (startDraft server token) (startDraft server token')) :
    Action.Coupled see R Eq (startSession net server token) (startSession net' server token') := by
  refine (Http.coupled_exchange rfl hsee hstart).bind fun x y hxy => ?_
  cases hread x y hxy with
  | error fault => exact .pure rfl
  | ok hcontent => exact .pure (packageOf_eq hcontent server)

theorem coupled_poll (hread : ∀ x y, Http.Received A x y → Agree Http.SameContent x y)
    (hstatus : Http.AnswerIn R A net net' (statusDraft server session)
      (statusDraft server session)) :
    Action.Coupled see R Eq (poll net server session) (poll net' server session) := by
  have hlook : Action.Coupled see R Eq (sessionStatus net server session)
      (sessionStatus net' server session) := by
    refine (Http.coupled_exchange rfl rfl hstatus).bind fun x y hxy => ?_
    cases hread x y hxy with
    | error fault => exact .pure rfl
    | ok hcontent => exact .pure (statusOf_eq hcontent server session)
  refine hlook.bind_eq fun x => ?_
  cases x with
  | error fault => exact .pure rfl
  | ok status => exact .pure rfl

/-- Both sides look equally often, because they wait out the same failures. -/
theorem coupled_awaitEnd (budget : PollBudget)
    (hread : ∀ x y, Http.Received A x y → Agree Http.SameContent x y)
    (hstatus : Http.AnswerIn R A net net' (statusDraft server session)
      (statusDraft server session)) :
    Action.Coupled see R Eq (awaitEnd net budget server session)
      (awaitEnd net' budget server session) := by
  have hannounce : ∀ failure : PollFailure, Option.Rel (Action.Coupled see R Eq)
      (failure.announce? (σ := σ)) (failure.announce? (σ := τ)) := by
    intro failure
    cases failure with
    | pending status => exact .some (.emit rfl)
    | failed fault => exact .none
  refine ((coupled_poll hread hstatus).retry hannounce _).bind_eq fun x => ?_
  cases x with
  | ok status => exact .pure rfl
  | error failure =>
      cases failure with
      | pending status => exact .emit_bind rfl (.pure rfl)
      | failed fault => exact .pure rfl

/-- Issuances for two tokens look the same and have the same outcome, if the server answers with the
same status and the same body. -/
theorem coupled_issue_of_content (budget : PollBudget) (options : IssuanceOptions)
    (hread : ∀ x y, Http.Received A x y → Agree Http.SameContent x y)
    (hsee : see (.attempt (startDraft options.server token)) =
      see (.attempt (startDraft options.server token')))
    (hstart : Http.AnswerIn R A net net' (startDraft options.server token)
      (startDraft options.server token'))
    (hstatus : ∀ session, Http.AnswerIn R A net net' (statusDraft options.server session)
      (statusDraft options.server session)) :
    Action.Coupled see R Eq (issue net budget token options)
      (issue net' budget token' options) := by
  refine (coupled_startSession hread hsee hstart).bind_eq fun x => ?_
  cases x with
  | error fault => exact .emit_bind rfl (.pure rfl)
  | ok package =>
      refine .emit_bind rfl
        ((coupled_awaitEnd budget hread (hstatus package.token)).bind_eq fun x => ?_)
      cases x with
      | ok status => exact .pure rfl
      | error fault => exact .emit_bind rfl (.pure rfl)

/-- Issuances for two tokens look the same and have the same outcome, if the server answers alike. -/
theorem coupled_issue (budget : PollBudget) (options : IssuanceOptions)
    (hsee : see (.attempt (startDraft options.server token)) =
      see (.attempt (startDraft options.server token')))
    (hstart : Http.AnswerIn R Eq net net' (startDraft options.server token)
      (startDraft options.server token'))
    (hstatus : ∀ session, Http.AnswerIn R Eq net net' (statusDraft options.server session)
      (statusDraft options.server session)) :
    Action.Coupled see R Eq (issue net budget token options)
      (issue net' budget token' options) := by
  refine coupled_issue_of_content budget options (fun x y hxy => ?_) hsee hstart hstatus
  obtain rfl : x = y := hxy.eq
  exact .refl (fun _ => ⟨rfl, rfl⟩) x

end IssuanceServer

end PhoneVerification
