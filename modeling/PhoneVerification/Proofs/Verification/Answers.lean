import PhoneVerification.Proofs.Http.Counterpart
import PhoneVerification.Verification.Client

/-!
# Requests to two services

The requests to send a code and to exchange one, put side by side with those to another service. The
results agree if the answers are read alike.

What is read of a failed answer is its class: the code that counts for it, and the header that says how
long to wait. Whether the service was not reached, the answer broke off, or which status it came with
makes no difference (`coupled_readAnswer_of_sameClass`).
-/

namespace PhoneVerification

namespace VerificationClient

/-- The request that asks for a code. -/
def sendDraft (client : VerificationClient) (phone : PhoneNumber) (locale : Locale) : Http.Draft :=
  draft client.sendUrl (sendPairs phone locale)

/-- The request that submits a code. -/
def verifyDraft (client : VerificationClient) (phone : PhoneNumber) (code : VerificationCode) :
    Http.Draft :=
  draft client.verifyUrl (verifyPairs phone code)

variable {δ σ τ : Type} {see : Effect → List δ} {R : σ → τ → Prop} {net : Http.Network σ}
  {net' : Http.Network τ} {client : VerificationClient} {phone phone' : PhoneNumber}

/-- An answer is read from two worlds in the same way. -/
theorem coupled_readAnswer (address : String) (readsRetry : Bool)
    (r : Except Fault Http.Response) :
    Action.Coupled see R Eq (readAnswer (σ := σ) address readsRetry r)
      (readAnswer (σ := τ) address readsRetry r) := by
  cases r with
  | error fault => exact .emit_bind rfl (.pure rfl)
  | ok response =>
      simp only [readAnswer]
      cases response.text? with
      | none => exact .emit_bind rfl (.pure rfl)
      | some body =>
          cases response.isSuccess with
          | true => exact .pure rfl
          | false => exact .emit_bind rfl (.pure rfl)

theorem coupled_sendCode {A : Http.Answer → Http.Answer → Prop} (locale : Locale)
    (hsee : see (.attempt (client.sendDraft phone locale)) =
      see (.attempt (client.sendDraft phone' locale)))
    (hmasked : see (.log (.own .info ("SMS code sent to " ++ phone.masked))) =
      see (.log (.own .info ("SMS code sent to " ++ phone'.masked))))
    (hanswer : Http.AnswerIn R A net net' (client.sendDraft phone locale)
      (client.sendDraft phone' locale))
    (hread : ∀ r r', Http.Received A r r' → Action.Coupled see R Eq
      (readAnswer client.sendUrl true r) (readAnswer client.sendUrl true r')) :
    Action.Coupled see R Eq (client.sendCode net phone locale)
      (client.sendCode net' phone' locale) := by
  have hpost : Action.Coupled see R Eq
      (postForm net client.sendUrl (sendPairs phone locale) true)
      (postForm net' client.sendUrl (sendPairs phone' locale) true) :=
    (Http.coupled_exchange rfl hsee hanswer).bind hread
  refine hpost.bind_eq fun x => ?_
  cases x with
  | error failure => exact .pure rfl
  | ok body => exact .emit_bind hmasked (.pure rfl)

theorem coupled_verifyCode {A : Http.Answer → Http.Answer → Prop}
    {T : SessionToken → SessionToken → Prop} {code code' : VerificationCode}
    (hsee : see (.attempt (client.verifyDraft phone code)) =
      see (.attempt (client.verifyDraft phone' code')))
    (hmasked : see (.log (.own .info ("SMS code verified for " ++ phone.masked))) =
      see (.log (.own .info ("SMS code verified for " ++ phone'.masked))))
    (hanswer : Http.AnswerIn R A net net' (client.verifyDraft phone code)
      (client.verifyDraft phone' code'))
    (hread : ∀ r r', Http.Received A r r' →
      Action.Coupled see R (Agree fun body body' => T ⟨body⟩ ⟨body'⟩)
        (readAnswer client.verifyUrl false r) (readAnswer client.verifyUrl false r')) :
    Action.Coupled see R (Agree T) (client.verifyCode net phone code)
      (client.verifyCode net' phone' code') := by
  have hpost : Action.Coupled see R (Agree fun body body' => T ⟨body⟩ ⟨body'⟩)
      (postForm net client.verifyUrl (verifyPairs phone code) false)
      (postForm net' client.verifyUrl (verifyPairs phone' code') false) :=
    (Http.coupled_exchange rfl hsee hanswer).bind hread
  refine hpost.bind fun x y hxy => ?_
  cases hxy with
  | error failure => exact .pure (.error failure)
  | ok hbody => exact .emit_bind hmasked (.pure (.ok hbody))

end VerificationClient

/-- The failure with a code and the header that came with it. -/
def ApiFailure.ofCode (code : ErrorCode) (wait : Option String) : ApiFailure :=
  if code = .rateLimit then .rateLimited (wait.bind RetryWindow.ofHeader?) else .rejected code

theorem ApiFailure.decode_eq_ofCode (body : String) (wait : Option String) :
    ApiFailure.decode body wait = .ofCode (ErrorCode.ofBody body) wait := by
  unfold ApiFailure.decode ofCode
  cases ErrorCode.ofBody body <;> rfl

namespace Http

/-- The class of a failed answer: the code that counts for it, and the header that says how long to
wait. A service that is not reached and an answer that breaks off count as an internal error. -/
def Answer.failure? : Answer → Option (ErrorCode × Option String)
  | .unreachable => some (.internal, none)
  | .response r =>
    match r.text? with
    | none => some (.internal, none)
    | some body =>
      if r.isSuccess then none
      else some (ErrorCode.ofBody body, r.header? VerificationClient.retryHeader)

/-- The same answer, or failed answers of the same class. The wait matters to a class only if there were
too many requests. -/
inductive SameClass : Answer → Answer → Prop
  | same (a : Answer) : SameClass a a
  | failed {a b : Answer} {code : ErrorCode} {wait wait' : Option String}
      (ha : a.failure? = some (code, wait)) (hb : b.failure? = some (code, wait'))
      (hwait : code = .rateLimit → wait = wait') : SameClass a b

end Http

namespace VerificationClient

variable {δ σ τ : Type} {R : σ → τ → Prop}

/-- A failed answer is read as the failure of its class, which is recorded. -/
theorem readAnswer_of_failure? {a : Http.Answer} {code : ErrorCode} {wait : Option String}
    (ha : a.failure? = some (code, wait)) (address : String) (readsRetry : Bool)
    (q : Http.Request) :
    ∃ level message, readAnswer (σ := σ) address readsRetry (q.received a) = do
      Effect.note level message
      return .error (ApiFailure.ofCode code (if readsRetry then wait else none)) := by
  cases a with
  | unreachable =>
      obtain ⟨rfl, rfl⟩ : ErrorCode.internal = code ∧ none = wait := by
        simpa [Http.Answer.failure?] using ha
      exact ⟨_, _, rfl⟩
  | response r =>
      simp only [Http.Answer.failure?] at ha
      simp only [Http.Request.received, readAnswer]
      cases htext : r.text? with
      | none =>
          rw [htext] at ha
          obtain ⟨rfl, rfl⟩ : ErrorCode.internal = code ∧ none = wait := by simpa using ha
          exact ⟨_, _, rfl⟩
      | some body =>
          rw [htext] at ha
          dsimp only at ha ⊢
          split at ha
          · contradiction
          next hfailed =>
            obtain ⟨rfl, rfl⟩ : ErrorCode.ofBody body = code ∧ r.header? retryHeader = wait := by
              simpa using ha
            rw [if_neg hfailed, ← ApiFailure.decode_eq_ofCode]
            exact ⟨_, _, rfl⟩

/-- Failed answers of the same class are read alike, if the log is not seen. -/
theorem coupled_readAnswer_of_sameClass {see : Effect → List δ}
    (hlog : ∀ record, see (.log record) = []) (address : String) (readsRetry : Bool)
    {r r' : Except Fault Http.Response} (h : Http.Received Http.SameClass r r') :
    Action.Coupled see R Eq (readAnswer (σ := σ) address readsRetry r)
      (readAnswer (σ := τ) address readsRetry r') := by
  cases h with
  | unusable fault => exact coupled_readAnswer address readsRetry _
  | answered q hclass =>
      cases hclass with
      | same => exact coupled_readAnswer address readsRetry _
      | @failed _ code wait wait' ha hb hwait =>
          obtain ⟨level, message, hread⟩ := readAnswer_of_failure? (σ := σ) ha address readsRetry q
          obtain ⟨level', message', hread'⟩ :=
            readAnswer_of_failure? (σ := τ) hb address readsRetry q
          have hfailure : ApiFailure.ofCode code (if readsRetry then wait else none) =
              ApiFailure.ofCode code (if readsRetry then wait' else none) := by
            by_cases hcode : code = .rateLimit
            · rw [hwait hcode]
            · simp [ApiFailure.ofCode, hcode]
          rw [hread, hread', hfailure]
          have hunseen : see (.log (.own level message)) = see (.log (.own level' message')) := by
            rw [hlog, hlog]
          exact .emit_bind hunseen (.pure rfl)

end VerificationClient

end PhoneVerification
