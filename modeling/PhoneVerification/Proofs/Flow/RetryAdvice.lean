import PhoneVerification.Proofs.Flow.Abreast
import PhoneVerification.Proofs.Verification.RetryHeader

/-!
# The wait is only advice

How long a rate-limited user should wait is told once, in the status after a code could not be sent.
Nothing else depends on it: two runs in which the waits differ arbitrarily have the same replies, ask
the same, and show the same views but for that status (`sameButAdvice`). A code that is refused by the
rate limit is answered by a text without any duration.
-/

namespace PhoneVerification

/-- One configuration, with failures that differ in their waits. -/
def Guise.waits (c : Config) : Guise where
  config := c
  config' := c
  unadorned_eq := rfl
  failures := ApiFailure.SameButWait

/-- The failure without its wait. -/
def ApiFailure.withoutWait : ApiFailure → ApiFailure
  | .rateLimited _ => .rateLimited none
  | failure => failure

theorem ApiFailure.SameButWait.withoutWait_eq {failure failure' : ApiFailure}
    (h : SameButWait failure failure') : failure.withoutWait = failure'.withoutWait := by
  cases h with
  | same => rfl
  | waits w w' => rfl

/-- How long to wait is not told to those whose code was refused. -/
theorem ApiFailure.SameButWait.refusalText_eq {failure failure' : ApiFailure}
    (h : SameButWait failure failure') : Flow.refusalText failure = Flow.refusalText failure' := by
  cases h with
  | same => rfl
  | waits w w' => rfl

/-- The question with its answer, without the wait of a failure. -/
def Exchange.withoutWait : Exchange → Exchange
  | .send phone locale answer => .send phone locale (answer.mapError ApiFailure.withoutWait)
  | .verify phone code answer => .verify phone code (answer.mapError ApiFailure.withoutWait)
  | x => x

theorem mapError_withoutWait {α : Type} {a a' : Except ApiFailure α}
    (h : AgreeUpTo ApiFailure.SameButWait a a') :
    a.mapError ApiFailure.withoutWait = a'.mapError ApiFailure.withoutWait := by
  cases h with
  | ok a => rfl
  | error h => exact congrArg Except.error h.withoutWait_eq

theorem Exchange.Abreast.withoutWait_eq {c : Config} {x x' : Exchange}
    (h : x.Abreast (.waits c) x') : x.withoutWait = x'.withoutWait := by
  cases h with
  | @answered α q q' a a' hq ha =>
      cases hq with
      | validate raw =>
          obtain rfl : a = a' := ha
          rfl
      | send phone => exact congrArg (Exchange.send phone c.locale) (mapError_withoutWait ha)
      | verify phone code => exact congrArg (Exchange.verify phone code) (mapError_withoutWait ha)
      | issue token =>
          obtain rfl : a = a' := ha
          rfl

namespace Told

variable {c : Config} {x x' : Option Exchange} {m m' : Option StatusMessage}

/-- The same is told on both sides, unless a code could not be sent because of the rate limit. -/
theorem eq_or_rateLimited (h : Told (.waits c) x x' m m') :
    m = m' ∨ ∃ phone w w',
      x = some (.send phone c.locale (.error (.rateLimited w))) ∧
        x' = some (.send phone c.locale (.error (.rateLimited w'))) ∧
        m = some ⟨.danger, Message.rateLimited c.locale w⟩ ∧
        m' = some ⟨.danger, Message.rateLimited c.locale w'⟩ := by
  cases h with
  | nothing hx => exact .inl rfl
  | message hx severity body => exact .inl rfl
  | sent phone dispatch => exact .inl rfl
  | unsent phone hfailure =>
      cases hfailure with
      | same failure => exact .inl rfl
      | waits w w' => exact .inr ⟨phone, w, w', rfl, rfl, rfl, rfl⟩
  | refused phone code hfailure =>
      rw [hfailure.refusalText_eq]
      exact .inl rfl

/-- After a code was refused by the rate limit, that much is told and no wait. -/
theorem eq_of_rateLimited {phone : PhoneNumber} {code : VerificationCode}
    {w : Option RetryWindow}
    (h : Told (.waits c) (some (.verify phone code (.error (.rateLimited w)))) x' m m') :
    m = some ⟨.danger, Message.rateLimited c.locale none⟩ := by
  cases h with
  | nothing hx => cases hx
  | message hx severity body => cases hx
  | refused phone code hfailure => rfl

end Told

/-- Views that are the same, unless they answer a rate-limited request to send a code: then the status
tells the wait of each side. After a code was refused by the rate limit no wait is told. -/
structure Sighting.SameButAdvice (c : Config) (p p' : Sighting) : Prop where
  observer : p.observer = p'.observer
  view : p.view = p'.view ∨ ∃ phone w w',
    p.latest = some (.send phone c.locale (.error (.rateLimited w))) ∧
      p'.latest = some (.send phone c.locale (.error (.rateLimited w'))) ∧
      p.view.status = some ⟨.danger, Message.rateLimited c.locale w⟩ ∧
      p'.view = { p.view with status := some ⟨.danger, Message.rateLimited c.locale w'⟩ }
  refused {phone : PhoneNumber} {code : VerificationCode} {w : Option RetryWindow} :
    p.latest = some (.verify phone code (.error (.rateLimited w))) →
      p.view.status = some ⟨.danger, Message.rateLimited c.locale none⟩

theorem Reply.Abreast.eq {c : Config} {op : Operation} {step : Step} {r r' : Reply}
    (h : r.Abreast (.waits c) op step r') : r = r' := by
  cases h with
  | same r => rfl
  | left hop hstep => rfl

/-- Flows that are abreast with one configuration are the same but for their statuses. -/
theorem Flow.Abreast.eq_withStatus {c : Config} {f g : Flow} (h : f.Abreast (.waits c) g) :
    g = { f with status := g.status } := by
  have hcontrols : g.controls = f.controls := by
    rw [h.controls, h.controls', h.step]
    rfl
  exact Flow.ext (h.config'.trans h.config.symm) h.step.symm hcontrols h.phone.symm h.attempt.symm
    h.phoneForm.symm h.codeForm.symm rfl h.observer.symm

theorem Sighting.Abreast.sameButAdvice {c : Config} {p p' : Sighting}
    (h : p.Abreast (.waits c) p') : p.SameButAdvice c p' := by
  obtain ⟨f, g, hf, hg, hflow, htold⟩ := h.view
  have hview : p'.view = { p.view with status := g.status } := by
    rw [hg, hf, hflow.eq_withStatus]
    rfl
  have hstatus : p.view.status = f.status := by rw [hf]; rfl
  refine ⟨h.observer, ?_, ?_⟩
  · rcases htold.eq_or_rateLimited with heq | ⟨phone, w, w', hx, hx', hm, hm'⟩
    · rw [← heq, ← hstatus] at hview
      exact .inl hview.symm
    · rw [hm'] at hview
      exact .inr ⟨phone, w, w', hx, hx', hstatus.trans hm, hview⟩
  · intro phone code w hx
    rw [hx] at htold
    exact hstatus.trans htold.eq_of_rateLimited

namespace Flow

variable {σ τ : Type}

/-- Outcomes of an operation that are the same but for how long a user is advised to wait. -/
structure SameButAdvice (c : Config) (o : Outcome Event (World σ) Reply)
    (o' : Outcome Event (World τ) Reply) : Prop where
  reply : o.value = o'.value
  exchanges : (Event.exchanges o.events).map Exchange.withoutWait =
    (Event.exchanges o'.events).map Exchange.withoutWait
  sightings : List.Forall₂ (Sighting.SameButAdvice c) (Event.sightings none o.events)
    (Event.sightings none o'.events)
  flow : { o.world.flow with status := none } = { o'.world.flow with status := none }

theorem KeepUp.sameButAdvice {c : Config} {R : σ → τ → Prop} {op : Operation}
    {before before' : Flow} {o : Outcome Event (World σ) Reply}
    {o' : Outcome Event (World τ) Reply}
    (h : KeepUp (.waits c) R (Ended (.waits c) op before before') none none o o') :
    SameButAdvice c o o' where
  reply := h.ended.reply.eq
  exchanges := map_eq_map_of_forall₂ h.exchanges fun _ _ hx => hx.withoutWait_eq
  sightings := h.sightings.imp fun _ _ hp => hp.sameButAdvice
  flow := by rw [h.ended.flow.eq_withStatus]

/-- What each operation of two runs comes to is the same but for the advice, if the services answer the
same but for the waits. -/
theorem sameButAdvice_perform {c : Config} {R : σ → τ → Prop} {s : Services σ} {t : Services τ}
    (hs : Services.Abreast (.waits c) R s t) {v : σ} {u : τ} (hR : R v u) (ops : List Operation)
    (op : Operation) :
    SameButAdvice c ((perform s op).run (worldAfter s ops (opened c v)))
      ((perform t op).run (worldAfter t ops (opened c u))) := by
  obtain ⟨hflow, hservices, -⟩ := abreast_worldAfter hs hR ops
  exact (keepUp_perform hs hflow hservices op).sameButAdvice

/-- The services of a configuration over two networks answer the same but for the waits, if the answers
of the networks differ in nothing but how long to wait. -/
theorem abreast_ofConfig {c : Config} {R : σ → τ → Prop} {net : Http.Network σ}
    {net' : Http.Network τ} (h : net.SameButRetry R net') :
    Services.Abreast (.waits c) R (Services.ofConfig c net) (Services.ofConfig c net') := by
  intro α q q' hq
  cases hq with
  | validate raw => exact .pure rfl
  | send phone => exact VerificationClient.coupled_sendCode_of_sameButRetry _ h phone _
  | verify phone code => exact VerificationClient.coupled_verifyCode_of_sameButRetry _ h phone code
  | issue token => exact IssuanceServer.coupled_issue_of_sameButRetry h _ token _

/-- The text without a wait holds no number. -/
theorem not_isAsciiDigit_of_mem_rateLimited (l : Locale) {d : Char}
    (hd : d ∈ (Message.rateLimited l none).toList) : Text.isAsciiDigit d = false := by
  have hparts : ∃ before after,
      MessageTable.template l .errorRatelimit = .gapped before .time after ∧
        before.toList.all (!Text.isAsciiDigit ·) ∧
        (Message.text l .retryLater).toList.all (!Text.isAsciiDigit ·) ∧
        after.toList.all (!Text.isAsciiDigit ·) := by
    cases l with
    | en => exact ⟨"Please try again in ", ".", rfl, rfl, rfl, rfl⟩
    | nl => exact ⟨"Probeer het opnieuw over ", ".", rfl, rfl, rfl, rfl⟩
  obtain ⟨before, after, htemplate, hbefore, htext, hafter⟩ := hparts
  have hall : (Message.rateLimited l none).toList.all (!Text.isAsciiDigit ·) := by
    rw [Message.rateLimited, htemplate, Template.fill_gapped, String.toList_append,
      String.toList_append, List.all_append, List.all_append, hbefore, hafter, Bool.and_true,
      Bool.true_and]
    exact htext
  simpa using List.all_eq_true.mp hall d hd

/-- The wait is only advice. Whatever operations were performed, the next one gives the same reply, asks
the same and shows the same to both sides, but for the wait after a code could not be sent: for all
services that answer the same but for the waits, and over all networks whose answers differ in nothing
but how long to wait. After a refused code the text of a rate limit has no number in it. -/
theorem waits_are_advice (c : Config) :
    (∀ {σ τ : Type} {R : σ → τ → Prop} {s : Services σ} {t : Services τ},
      Services.Abreast (.waits c) R s t → ∀ {v : σ} {u : τ}, R v u →
      ∀ (ops : List Operation) (op : Operation),
        SameButAdvice c ((perform s op).run (worldAfter s ops (opened c v)))
          ((perform t op).run (worldAfter t ops (opened c u)))) ∧
    (∀ {σ τ : Type} {R : σ → τ → Prop} {net : Http.Network σ} {net' : Http.Network τ},
      net.SameButRetry R net' → ∀ {v : σ} {u : τ}, R v u →
      ∀ (ops : List Operation) (op : Operation),
        SameButAdvice c
          ((perform (Services.ofConfig c net) op).run
            (worldAfter (Services.ofConfig c net) ops (opened c v)))
          ((perform (Services.ofConfig c net') op).run
            (worldAfter (Services.ofConfig c net') ops (opened c u)))) ∧
    ∀ (l : Locale), ∀ d ∈ (Message.rateLimited l none).toList, Text.isAsciiDigit d = false := by
  refine ⟨fun hs v u hR ops op => sameButAdvice_perform hs hR ops op,
    fun hnet v u hR ops op => sameButAdvice_perform (abreast_ofConfig hnet) hR ops op,
    fun l d hd => not_isAsciiDigit_of_mem_rateLimited l hd⟩

/-- A network that answers every request by a rate limit, with a wait in its headers. -/
def limiting (wait : String) : Http.Network Unit where
  answer _ w :=
    (.response ⟨429, [("Retry-After", wait)], some (Text.Utf8.encode "error:ratelimit")⟩, w)

/-- A configuration with a usable address, in which a code is sent without a confirmation. -/
def promptConfig : Config where
  apiBase := "https://sms.example/"
  confirmStep := false

/-- The flow over a network that limits requests, with a page that watches it. -/
def limitedWorld (wait : String) : World Unit :=
  worldAfter (Services.ofConfig promptConfig (limiting wait)) [.observe "page"]
    (opened promptConfig ())

/-- Two different waits are told on the two sides, and nothing else differs, then or later. -/
theorem waits_are_advice_for_two_limits :
    (limiting "90").SameButRetry Eq (limiting "7200") ∧
      ((perform (Services.ofConfig promptConfig (limiting "90")) (.submitPhone "0612345678")).run
        (limitedWorld "90")).world.flow.status =
          some ⟨.danger, Message.rateLimited .en (some ⟨90⟩)⟩ ∧
      ((perform (Services.ofConfig promptConfig (limiting "7200")) (.submitPhone "0612345678")).run
        (limitedWorld "7200")).world.flow.status =
          some ⟨.danger, Message.rateLimited .en (some ⟨7200⟩)⟩ ∧
      SameButAdvice promptConfig
        ((perform (Services.ofConfig promptConfig (limiting "90")) (.submitPhone "0612345678")).run
          (limitedWorld "90"))
        ((perform (Services.ofConfig promptConfig (limiting "7200")) (.submitPhone "0612345678")).run
          (limitedWorld "7200")) ∧
      SameButAdvice promptConfig
        ((perform (Services.ofConfig promptConfig (limiting "90")) .restart).run (limitedWorld "90"))
        ((perform (Services.ofConfig promptConfig (limiting "7200")) .restart).run
          (limitedWorld "7200")) := by
  have hnet : (limiting "90").SameButRetry Eq (limiting "7200") := fun q v u _ => ⟨rfl, rfl⟩
  obtain ⟨hservices, hnetworks, -⟩ := waits_are_advice promptConfig
  refine ⟨hnet, by decide +kernel, by decide +kernel, ?_, ?_⟩
  all_goals unfold limitedWorld
  · exact hnetworks hnet rfl [.observe "page"] (.submitPhone "0612345678")
  · exact hservices (abreast_ofConfig hnet) rfl [.observe "page"] .restart

end Flow

end PhoneVerification
