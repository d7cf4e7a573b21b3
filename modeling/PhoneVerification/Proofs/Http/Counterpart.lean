import PhoneVerification.Http.Network
import PhoneVerification.Proofs.Coupling

/-!
# Two networks that are asked alike

Drafts that differ in nothing but their bodies reach two networks at the same address or not at all.
So what they come to on both sides is the same fault, or what the two answers come to.
-/

namespace PhoneVerification

namespace Http

/-- The request of a draft does not depend on the body, but for holding it. -/
theorem Draft.request_withBody (d : Draft) (body : String) :
    Draft.request { d with body } = d.request.map fun q => { q with body } := by
  unfold Draft.request
  cases Url.parse d.address with
  | error e => rfl
  | ok url =>
      by_cases hhost : url.hasHost = true
      · simp [hhost, Except.map]
      · simp [hhost, Except.map]

theorem Draft.body_of_request {d : Draft} {q : Request} (h : d.request = .ok q) :
    q.body = d.body := by
  have hbody : d.request = d.request.map fun q => { q with body := d.body } :=
    d.request_withBody d.body
  rw [h] at hbody
  exact congrArg Request.body (Except.ok.inj hbody)

theorem Draft.contentType_of_request {d : Draft} {q : Request} (h : d.request = .ok q) :
    q.contentType = d.contentType := by
  unfold Draft.request at h
  cases hurl : Url.parse d.address with
  | error e => simp [hurl] at h
  | ok url =>
      rw [hurl] at h
      dsimp only at h
      split at h
      · obtain rfl := Except.ok.inj h
        rfl
      · contradiction

/-- What an answer to a request comes to. -/
def Request.received (q : Request) : Answer → Except Fault Response
  | .unreachable => .error (q.fault "error sending request")
  | .response r => .ok r

/-- What comes of two drafts: the same fault on both sides, or answers in `A` to requests at the same
address. -/
inductive Received (A : Answer → Answer → Prop) :
    Except Fault Response → Except Fault Response → Prop
  | unusable (fault : Fault) : Received A (.error fault) (.error fault)
  | answered (q : Request) {a b : Answer} (h : A a b) : Received A (q.received a) (q.received b)

theorem Received.eq {x y : Except Fault Response} (h : Received Eq x y) : x = y := by
  cases h with
  | unusable fault => rfl
  | answered q h => rw [h]

/-- Two networks answer two drafts in `A`, from worlds in `R` that they keep in `R`. -/
def AnswerIn {σ τ : Type} (R : σ → τ → Prop) (A : Answer → Answer → Prop) (net : Network σ)
    (net' : Network τ) (d d' : Draft) : Prop :=
  ∀ q q', d.request = .ok q → d'.request = .ok q' → ∀ v u, R v u →
    A (net.answer q v).1 (net'.answer q' u).1 ∧ R (net.answer q v).2 (net'.answer q' u).2

variable {δ σ τ : Type} {see : Effect → List δ} {R : σ → τ → Prop} {A : Answer → Answer → Prop}
  {net : Network σ} {net' : Network τ}

theorem coupled_send {q : Request} {body : String}
    (h : ∀ v u, R v u → A (net.answer q v).1 (net'.answer { q with body } u).1 ∧
      R (net.answer q v).2 (net'.answer { q with body } u).2) :
    Action.Coupled see R (Received A) (net.send q) (net'.send { q with body }) := by
  refine .emit_bind rfl ?_
  have hsendable : Request.isSendable { q with body } = q.isSendable := rfl
  rw [hsendable]
  split
  · have hask : Action.Coupled see R A (net.ask q) (net'.ask { q with body }) := by
      intro v u hR
      obtain ⟨hanswer, hworld⟩ := h v u hR
      exact ⟨hanswer, hworld, rfl⟩
    refine hask.bind fun a b hab => ?_
    have hreceived : Received A (q.received a) (q.received b) := .answered q hab
    cases a with
    | unreachable =>
        cases b with
        | unreachable => exact .pure hreceived
        | response r => exact .pure hreceived
    | response r =>
        cases b with
        | unreachable => exact .pure hreceived
        | response r' => exact .pure hreceived
  · exact .pure (.unusable _)

/-- To try two drafts that differ in nothing but their bodies. -/
theorem coupled_exchange {d d' : Draft} (hbody : d' = { d with body := d'.body })
    (hsee : see (.attempt d) = see (.attempt d')) (h : AnswerIn R A net net' d d') :
    Action.Coupled see R (Received A) (net.exchange d) (net'.exchange d') := by
  refine .emit_bind hsee ?_
  have hrequest : d'.request = d.request.map fun q => { q with body := d'.body } := by
    rw [← Draft.request_withBody, ← hbody]
  cases hd : d.request with
  | error fault =>
      rw [hrequest, hd]
      exact .pure (.unusable fault)
  | ok q =>
      rw [hrequest, hd]
      rw [hd] at hrequest
      exact coupled_send (h q _ hd hrequest)

end Http

end PhoneVerification
