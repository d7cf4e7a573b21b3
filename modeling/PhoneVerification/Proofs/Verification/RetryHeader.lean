import PhoneVerification.Flow.Services
import PhoneVerification.Proofs.Issuance.Counterpart
import PhoneVerification.Proofs.Verification.Answers

/-!
# Answers that differ in how long to wait

Of the headers of an answer only one is read, and only to tell how long to wait. So over two networks
whose answers differ in that header alone, the results of all requests are the same but for the waits
of rate-limited ones.
-/

namespace PhoneVerification

namespace ApiFailure

/-- The same failure, or a rate limit with any two waits. -/
inductive SameButWait : ApiFailure → ApiFailure → Prop
  | same (failure : ApiFailure) : SameButWait failure failure
  | waits (w w' : Option RetryWindow) : SameButWait (.rateLimited w) (.rateLimited w')

theorem sameButWait_decode (body : String) (wait wait' : Option String) :
    SameButWait (decode body wait) (decode body wait') := by
  unfold decode
  cases ErrorCode.ofBody body with
  | rateLimit => exact .waits _ _
  | _ => exact .same _

end ApiFailure

namespace Http

/-- The response without the headers that say how long to wait. -/
def Response.withoutRetry (r : Response) : Response :=
  { r with headers := r.headers.filter fun h => !Text.sameAscii h.1 VerificationClient.retryHeader }

/-- The answer without the headers that say how long to wait. -/
def Answer.withoutRetry : Answer → Answer
  | .unreachable => .unreachable
  | .response r => .response r.withoutRetry

/-- Answers that are the same but for how long to wait. -/
def SameButRetry (a b : Answer) : Prop :=
  a.withoutRetry = b.withoutRetry

/-- Networks that answer every request the same but for how long to wait. -/
def Network.SameButRetry {σ τ : Type} (R : σ → τ → Prop) (net : Network σ) (net' : Network τ) : Prop :=
  ∀ q v u, R v u → Http.SameButRetry (net.answer q v).1 (net'.answer q u).1 ∧
    R (net.answer q v).2 (net'.answer q u).2

variable {σ τ : Type} {R : σ → τ → Prop} {net : Network σ} {net' : Network τ}

theorem Network.SameButRetry.answerIn (h : net.SameButRetry R net') (d : Draft) :
    AnswerIn R Http.SameButRetry net net' d d := by
  intro q q' hq hq' v u hR
  obtain rfl : q = q' := Except.ok.inj (hq.symm.trans hq')
  exact h q v u hR

theorem agree_of_sameButRetry {x y : Except Fault Response} (h : Received SameButRetry x y) :
    Agree SameContent x y := by
  cases h with
  | unusable fault => exact .error fault
  | @answered q a b hab =>
      cases a with
      | unreachable =>
          cases b with
          | unreachable => exact .error _
          | response r' => cases hab
      | response r =>
          cases b with
          | unreachable => cases hab
          | response r' =>
              have hresponse : r.withoutRetry = r'.withoutRetry := Answer.response.inj hab
              have hstatus := congrArg Response.status hresponse
              have hbody := congrArg Response.body hresponse
              exact .ok ⟨hstatus, hbody⟩

end Http

variable {σ τ : Type} {R : σ → τ → Prop} {net : Http.Network σ} {net' : Http.Network τ}

namespace VerificationClient

/-- Answers with the same status and the same body are read as the same but for the wait. -/
theorem coupled_readAnswer_of_content (address : String) (readsRetry : Bool)
    {x y : Except Fault Http.Response} (h : Agree Http.SameContent x y) :
    Action.Coupled (fun _ => ([] : List Event)) R (AgreeUpTo ApiFailure.SameButWait)
      (readAnswer (σ := σ) address readsRetry x) (readAnswer (σ := τ) address readsRetry y) := by
  cases h with
  | error fault => exact .emit_bind rfl (.pure (.error (.same _)))
  | @ok r r' hcontent =>
      have htext : r.text? = r'.text? := by rw [Http.Response.text?, Http.Response.text?, hcontent.body]
      have hsuccess : r.isSuccess = r'.isSuccess := by
        rw [Http.Response.isSuccess, Http.Response.isSuccess, hcontent.status]
      simp only [readAnswer, htext, hsuccess]
      cases r'.text? with
      | none => exact .emit_bind rfl (.pure (.error (.same _)))
      | some body =>
          cases r'.isSuccess with
          | true => exact .pure (.ok body)
          | false =>
              exact .emit_bind rfl (.pure (.error (ApiFailure.sameButWait_decode body _ _)))

/-- A form that is posted over both networks comes to the same, but for the wait. -/
theorem coupled_postForm (h : net.SameButRetry R net') (address : String)
    (pairs : List (String × String)) (readsRetry : Bool) :
    Action.Coupled (fun _ => ([] : List Event)) R (AgreeUpTo ApiFailure.SameButWait)
      (postForm net address pairs readsRetry) (postForm net' address pairs readsRetry) :=
  (Http.coupled_exchange rfl rfl (h.answerIn _)).bind fun _ _ hreceived =>
    coupled_readAnswer_of_content address readsRetry (Http.agree_of_sameButRetry hreceived)

theorem coupled_sendCode_of_sameButRetry (client : VerificationClient)
    (h : net.SameButRetry R net') (phone : PhoneNumber) (locale : Locale) :
    Action.Coupled (fun _ => ([] : List Event)) R (AgreeUpTo ApiFailure.SameButWait)
      (client.sendCode net phone locale) (client.sendCode net' phone locale) := by
  refine (coupled_postForm h _ _ true).bind fun x y hxy => ?_
  cases hxy with
  | ok body => exact .emit_bind rfl (.pure (.ok _))
  | error hfailure => exact .pure (.error hfailure)

theorem coupled_verifyCode_of_sameButRetry (client : VerificationClient)
    (h : net.SameButRetry R net') (phone : PhoneNumber) (code : VerificationCode) :
    Action.Coupled (fun _ => ([] : List Event)) R (AgreeUpTo ApiFailure.SameButWait)
      (client.verifyCode net phone code) (client.verifyCode net' phone code) := by
  refine (coupled_postForm h _ _ false).bind fun x y hxy => ?_
  cases hxy with
  | ok body => exact .emit_bind rfl (.pure (.ok _))
  | error hfailure => exact .pure (.error hfailure)

end VerificationClient

theorem IssuanceServer.coupled_issue_of_sameButRetry (h : net.SameButRetry R net')
    (budget : PollBudget) (token : SessionToken) (options : IssuanceOptions) :
    Action.Coupled (fun _ => ([] : List Event)) R Eq (issue net budget token options)
      (issue net' budget token options) :=
  coupled_issue_of_content budget options (fun _ _ => Http.agree_of_sameButRetry) rfl
    (h.answerIn _) fun _ => h.answerIn _

end PhoneVerification
