import PhoneVerification.Proofs.Http.Form
import PhoneVerification.Proofs.Issuance.Polling
import PhoneVerification.Proofs.Verification.Answers

/-!
# What is posted to the verification service

Both requests of the service post one form, and what is read from its body is what was put into it. So
no number and no code, whatever characters they hold, can bring in a pair of their own or change
another one.
-/

namespace PhoneVerification

/-- An action does nothing but record. -/
def Effect.Quiet {σ α : Type} (x : Action Effect σ α) : Prop :=
  ∀ w, Effect.deeds (x.run w).events = [] ∧ (x.run w).world = w

namespace Http

variable {σ : Type}

/-- What a draft brings to the network: its request, if there is one that can be sent. -/
def Draft.requests (d : Draft) : List Request :=
  match d.request with
  | .error _ => []
  | .ok q => if q.isSendable then [q] else []

theorem Draft.body_of_mem_requests {d : Draft} {q : Request} (h : q ∈ d.requests) :
    q.body = d.body := by
  unfold Draft.requests at h
  cases hrequest : d.request with
  | error fault => simp [hrequest] at h
  | ok r =>
      obtain ⟨-, rfl⟩ : r.isSendable = true ∧ q = r := by simpa [hrequest] using h
      exact Draft.body_of_request hrequest

/-- The same network, which keeps the requests it is handed. -/
def Network.recording (net : Network σ) : Network (σ × List Request) where
  answer q w := ((net.answer q w.1).1, (net.answer q w.1).2, w.2 ++ [q])

/-- A draft that is tried brings its request to the network, and no other. -/
theorem Network.handed_exchange (net : Network σ) (d : Draft) (w : σ × List Request) :
    ((net.recording.exchange d).run w).world.2 = w.2 ++ d.requests := by
  unfold exchange Draft.requests
  cases hrequest : d.request with
  | error fault => simp
  | ok q =>
      by_cases hsendable : q.isSendable = true
      · cases hanswer : (net.answer q w.1).1 with
        | unreachable => simp [send, hsendable, recording, hanswer]
        | response r => simp [send, hsendable, recording, hanswer]
      · simp [send, hsendable]

/-- Over any network, one draft is tried, and it is a form with these pairs. No request but that of
the draft is handed to the network, and it has the same body. -/
structure Posts {α : Type} (x : ∀ σ, Network σ → Action Effect σ α) (d : Draft)
    (pairs : List (String × String)) : Prop where
  method : d.method = .post
  contentType : d.contentType = some Form.contentType
  body : Form.decode d.body = pairs
  tried : ∀ (σ : Type) (net : Network σ) (w : σ),
    Effect.deeds ((x σ net).run w).events = [.attempt d]
  handed : ∀ (σ : Type) (net : Network σ) (w : σ × List Request),
    ((x (σ × List Request) net.recording).run w).world.2 = w.2 ++ d.requests
  bodies : ∀ q ∈ d.requests, q.body = d.body

end Http

namespace VerificationClient

variable {σ : Type}

theorem quiet_readAnswer (address : String) (readsRetry : Bool)
    (r : Except Fault Http.Response) : Effect.Quiet (readAnswer (σ := σ) address readsRetry r) := by
  intro w
  cases r with
  | error fault => simp [readAnswer]
  | ok response =>
      simp only [readAnswer]
      cases response.text? with
      | none => simp
      | some body =>
          cases response.isSuccess with
          | true => simp
          | false => simp

/-- A form is posted once if what follows its answer does nothing but record. -/
theorem posts_postForm {α : Type} (address : String) (pairs : List (String × String))
    (readsRetry : Bool) {next : ∀ σ, Except ApiFailure String → Action Effect σ α}
    (hnext : ∀ σ r, Effect.Quiet (next σ r)) :
    Http.Posts (fun σ net => postForm net address pairs readsRetry >>= next σ)
      (draft address pairs) pairs where
  method := rfl
  contentType := rfl
  body := Http.Form.decode_encode pairs
  tried σ net w := by
    have hread := quiet_readAnswer (σ := σ) address readsRetry
      ((net.exchange (draft address pairs)).run w).value
    simp [postForm, (hread _).1, (hnext _ _ _).1]
  handed σ net w := by
    have hread := quiet_readAnswer (σ := σ × List Http.Request) address readsRetry
      ((net.recording.exchange (draft address pairs)).run w).value
    simp [postForm, (hread _).2, (hnext _ _ _).2, Http.Network.handed_exchange]
  bodies q hq := Http.Draft.body_of_mem_requests hq

theorem posts_verifyCode (client : VerificationClient) (phone : PhoneNumber)
    (code : VerificationCode) :
    Http.Posts (fun _ net => client.verifyCode net phone code) (client.verifyDraft phone code)
      [("phone", phone.e164), ("token", code.text)] := by
  refine posts_postForm client.verifyUrl (verifyPairs phone code) false fun σ r w => ?_
  cases r with
  | error failure => simp
  | ok body => simp

theorem posts_sendCode (client : VerificationClient) (phone : PhoneNumber) (locale : Locale) :
    Http.Posts (fun _ net => client.sendCode net phone locale) (client.sendDraft phone locale)
      [("phone", phone.e164), ("language", locale.code)] := by
  refine posts_postForm client.sendUrl (sendPairs phone locale) true fun σ r w => ?_
  cases r with
  | error failure => simp
  | ok body => simp

theorem body_verifyDraft_eq_iff {client client' : VerificationClient} {phone phone' : PhoneNumber}
    {code code' : VerificationCode} :
    (client.verifyDraft phone code).body = (client'.verifyDraft phone' code').body ↔
      phone.e164 = phone'.e164 ∧ code = code' := by
  have hencode : (client.verifyDraft phone code).body = (client'.verifyDraft phone' code').body ↔
      verifyPairs phone code = verifyPairs phone' code' :=
    Http.Form.encode_injective.eq_iff
  rw [hencode]
  cases code with
  | mk text =>
      cases code' with
      | mk text' => simp [verifyPairs]

/-- A request to the service is one form with the two pairs that belong to it, whatever characters
the number and the code hold. Hence the bodies of two requests that exchange a code are equal only
if the numbers and the codes are. -/
theorem posts_two_pairs (client : VerificationClient) (phone : PhoneNumber) :
    (∀ code, Http.Posts (fun _ net => client.verifyCode net phone code)
      (client.verifyDraft phone code) [("phone", phone.e164), ("token", code.text)]) ∧
    (∀ locale, Http.Posts (fun _ net => client.sendCode net phone locale)
      (client.sendDraft phone locale) [("phone", phone.e164), ("language", locale.code)]) ∧
    ∀ (code code' : VerificationCode) (client' : VerificationClient) (phone' : PhoneNumber),
      (client.verifyDraft phone code).body = (client'.verifyDraft phone' code').body ↔
        phone.e164 = phone'.e164 ∧ code = code' :=
  ⟨posts_verifyCode client phone, posts_sendCode client phone,
    fun _ _ _ _ => body_verifyDraft_eq_iff⟩

/-- A link that tries to bring in a pair of its own. -/
example :
    (verifyDraft ⟨"", ""⟩ (.unchecked "1&token=2") (.normalize " a=é +%26")).body =
      "phone=1%26token%3D2&token=A%3D%C3%89+%2B%2526" := by
  decide +kernel

end VerificationClient

end PhoneVerification
