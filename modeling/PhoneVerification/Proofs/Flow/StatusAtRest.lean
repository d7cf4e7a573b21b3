import PhoneVerification.Flow.Script
import PhoneVerification.Proofs.Flow.Consistency
import PhoneVerification.Proofs.Flow.Refusal
import PhoneVerification.Proofs.Message.Template

/-!
# The status at rest

Between two operations the status tells what came of the last one that did anything. `Turn.Tells` lists
what a turn can tell, by its operation and the answers that it got. Every turn either tells something or
is quiet: it asks nothing, and leaves the step and the status as they were (`told_or_quiet`). So what is
shown is what the last turn has told that was not quiet (`LastTold`), and the status at each step is read
off it (`AtRest`).
-/

namespace PhoneVerification

/-- The texts that are shown while a request is under way. -/
def MessageKey.pending : List MessageKey :=
  [.sendingSms, .verifyingToken, .issuingCredential]

namespace Message

variable (l : Locale) {key : MessageKey}

theorem text_ne_pending {other : MessageKey} (hother : other ∉ MessageKey.pending)
    (hkey : key ∈ MessageKey.pending) : text l other ≠ text l key := by
  have hall : ∀ l ∈ (Named.all : List Locale), ∀ other ∈ (Named.all : List MessageKey),
      ∀ key ∈ MessageKey.pending, other ∉ MessageKey.pending → text l other ≠ text l key := by
    decide +kernel
  exact hall l (Named.mem_all l) other (Named.mem_all other) key hkey hother

/-- A text that begins like no pending one is none, whatever stands in its gap. -/
theorem fill_ne_pending {before after : String} {gap : Gap}
    (hbefore : ∀ key ∈ MessageKey.pending, ¬ before.toList <+: (text l key).toList)
    (value : String) (hkey : key ∈ MessageKey.pending) :
    (Template.gapped before gap after).fill gap value ≠ text l key :=
  Template.fill_ne (hbefore key hkey) value

theorem smsSent_ne_pending (sender : Option String) (hkey : key ∈ MessageKey.pending) :
    smsSent l sender ≠ text l key := by
  cases sender with
  | none => exact text_ne_pending l (by decide) hkey
  | some sender =>
      cases l with
      | en => exact fill_ne_pending .en (by decide +kernel) sender hkey
      | nl => exact fill_ne_pending .nl (by decide +kernel) sender hkey

theorem failure_ne_pending (failure : ApiFailure) (hkey : key ∈ MessageKey.pending) :
    Message.failure l failure ≠ text l key := by
  cases failure with
  | rejected code => exact text_ne_pending l (by cases code <;> decide) hkey
  | rateLimited window =>
      cases l with
      | en => exact fill_ne_pending .en (by decide +kernel) _ hkey
      | nl => exact fill_ne_pending .nl (by decide +kernel) _ hkey

end Message

namespace Exchange

/-- The answer to a request to send a code. -/
def sendAnswer? : Exchange → Option (Except ApiFailure SmsDispatch)
  | .send _ _ answer => some answer
  | .validate _ _ | .verify _ _ _ | .issue _ _ _ => none

/-- The answer to a code. -/
def verifyAnswer? : Exchange → Option (Except ApiFailure SessionToken)
  | .verify _ _ answer => some answer
  | .validate _ _ | .send _ _ _ | .issue _ _ _ => none

/-- The outcome of an issuance. -/
def outcome? : Exchange → Option IssuanceOutcome
  | .issue _ _ outcome => some outcome
  | .validate _ _ | .send _ _ _ | .verify _ _ _ => none

end Exchange

namespace Turn

/-- What was asked when a number was submitted. -/
def submission? (t : Turn) : Option (List Exchange) :=
  match t.operation with
  | .submitPhone _ => some t.asked
  | .confirm | .submitCode _ | .openLink _ | .back | .restart | .observe _ => none

/-- The text that was submitted as a code. -/
def typedCode? (t : Turn) : Option String :=
  match t.operation with
  | .submitCode raw => some raw
  | .submitPhone _ | .confirm | .openLink _ | .back | .restart | .observe _ => none

/-- A turn that asks nothing, whose operation is not bound to the step, and that is idle or registers an
observer. -/
structure QuietAt (step : Step) (t : Turn) : Prop where
  asked : t.asked = []
  idle : t.reply.isIdle = true ∨ t.operation.observer?.isSome = true
  unbound : ∀ bound, Flow.boundTo? t.operation = some bound → bound.1 ≠ step

/-- What a turn tells by its operation and the answers that it got: the step that it ends in, and the
status that it leaves there. -/
inductive Tells (t : Turn) (c : Config) : Step → Option StatusMessage → Prop
  | rejected (raw : String) (rejection : PhoneRejection) (hop : t.operation = .submitPhone raw)
      (hasked : t.asked = [.validate raw (.error rejection)]) :
      Tells t c .phone (some ⟨.warning, Message.text c.locale rejection.messageKey⟩)
  | accepted (raw : String) (phone : PhoneNumber) (hop : t.operation = .submitPhone raw)
      (hasked : t.asked = [.validate raw (.ok phone)]) : Tells t c .confirm none
  | unsent (front : List Exchange) (phone : PhoneNumber) (failure : ApiFailure)
      (hasked : t.asked = front ++ [.send phone c.locale (.error failure)]) :
      Tells t c .phone (some ⟨.danger, Message.failure c.locale failure⟩)
  | sent (front : List Exchange) (phone : PhoneNumber) (dispatch : SmsDispatch)
      (hasked : t.asked = front ++ [.send phone c.locale (.ok dispatch)]) :
      Tells t c .token
        (if c.announceSent then some ⟨.info, Message.smsSent c.locale dispatch.sender⟩ else none)
  | blank (raw : String) (hop : t.operation = .submitCode raw)
      (hraw : Text.isBlankText raw = true) (hasked : t.asked = []) :
      Tells t c .token (some ⟨.warning, Message.text c.locale .errorCannotValidateToken⟩)
  | limited (phone : PhoneNumber) (code : VerificationCode) (wait : Option RetryWindow)
      (hasked : t.asked = [.verify phone code (.error (.rateLimited wait))]) :
      Tells t c .token (some ⟨.danger, Message.rateLimited c.locale none⟩)
  | refused (phone : PhoneNumber) (code : VerificationCode) (why : ErrorCode)
      (hasked : t.asked = [.verify phone code (.error (.rejected why))]) :
      Tells t c .token (some ⟨.danger, Message.error c.locale why⟩)
  | issued (phone : PhoneNumber) (code : VerificationCode) (token : SessionToken)
      (options : IssuanceOptions) (outcome : IssuanceOutcome)
      (hasked : t.asked = [.verify phone code (.ok token), .issue token options outcome]) :
      Tells t c .done (some ⟨outcome.status.1, Message.text c.locale outcome.status.2⟩)
  | wentBack (hop : t.operation = .back) (hasked : t.asked = [])
      (hreply : t.reply = .wentBack (.navigate .phone)) : Tells t c .phone none
  | restarted (hop : t.operation = .restart) (hasked : t.asked = []) : Tells t c .phone none

end Turn

namespace Flow

variable {σ : Type} {c : Config} {ts : List Turn} {t : Turn} {f g : Flow} {asked xs : List Exchange}
  {op : Operation} {reply : Reply} {phone : PhoneNumber}

/-! ## What a turn tells -/

theorem told_of_sends (hconfig : f.config = c) (front : List Exchange)
    (hasked : t.asked = front ++ xs) (h : Sends f phone xs g) : t.Tells c g.step g.status := by
  subst hconfig
  cases h with
  | sent dispatch => exact .sent front phone dispatch hasked
  | unsent failure => exact .unsent front phone failure hasked

theorem told_of_verifies (hconfig : f.config = c) (hstep : f.step = .token) {raw : String}
    (hasked : t.asked = xs) (h : Verifies f phone raw xs g) : t.Tells c g.step g.status := by
  subst hconfig
  cases h with
  | refused failure =>
      have htoken : ((f.verifying raw).unverified failure).step = .token := hstep
      rw [htoken]
      cases failure with
      | rateLimited wait => exact .limited phone _ wait hasked
      | rejected why => exact .refused phone _ why hasked
  | issued token outcome => exact .issued phone _ token _ outcome hasked

/-- Every turn tells something, or is quiet and leaves the step and the status as they were. -/
theorem told_or_quiet (h : Consistent c asked f) (hpath : Path f op xs reply g) :
    Turn.Tells ⟨op, f, xs, reply, g⟩ c g.step g.status ∨
      (Turn.QuietAt f.step ⟨op, f, xs, reply, g⟩ ∧ g.step = f.step ∧ g.status = f.status) := by
  cases hpath with
  | outOfStep hbound hstep =>
      refine .inr ⟨⟨rfl, .inl rfl, fun bound hbound' => ?_⟩, rfl, rfl⟩
      obtain rfl := Option.some.inj (hbound.symm.trans hbound')
      exact Ne.symm hstep
  | numberless action hbound hstep hne hphone =>
      -- past the first step there is always a number
      have hsome := h.phone (hstep ▸ hne)
      simp [hphone] at hsome
  | numberWarned hstep raw rejection =>
      have hwarned : (f.numberWarned raw rejection).step = .phone := hstep
      rw [hwarned, ← h.config]
      exact .inl (.rejected raw rejection rfl rfl)
  | numberKept hstep hconfirm raw phone => exact .inl (.accepted raw phone rfl rfl)
  | numberSent hstep hconfirm raw phone hsends =>
      have hnumbered : (f.numbered raw phone).config = c := h.config
      exact .inl (told_of_sends hnumbered [.validate raw (.ok phone)] rfl hsends)
  | confirmed hstep hphone hsends =>
      exact .inl (told_of_sends h.config [] rfl hsends)
  | @blankWarned phone hstep hphone raw hraw =>
      have hwarned : (f.blankWarned raw).step = .token := hstep
      rw [hwarned, ← h.config]
      exact .inl (.blank raw rfl hraw rfl)
  | codeTried hstep hphone hraw hverifies =>
      exact .inl (told_of_verifies h.config hstep rfl hverifies)
  | linkIgnored hlink => exact .inr ⟨⟨rfl, .inl rfl, nofun⟩, rfl, rfl⟩
  | @linkFollowed _ _ _ link hlink hverifies =>
      have hresumed : (f.resumed link).config = c := h.config
      exact .inl (told_of_verifies hresumed rfl rfl hverifies)
  | wentBack hback =>
      obtain rfl := h.eq_phone_of_back hback
      exact .inl (.wentBack rfl rfl rfl)
  | stayed hback =>
      refine .inr ⟨⟨rfl, .inl ?_, nofun⟩, rfl, rfl⟩
      cases hcontrol : f.controls.back with
      | navigate step => exact absurd hcontrol (hback step)
      | history | hidden => rfl
  | restarted => exact .inl (.restarted rfl rfl)
  | observed name => exact .inr ⟨⟨rfl, .inr rfl, nofun⟩, rfl, rfl⟩

/-! ## What a run tells -/

/-- The step and the status are those of a new flow, or what the last turn has told that was not
quiet. -/
inductive LastTold (c : Config) (ts : List Turn) (f : Flow) : Prop
  | nothing (hstep : f.step = .phone) (hstatus : f.status = none)
  | turn (old : List Turn) (t : Turn) (since : List Turn) (hturns : ts = old ++ t :: since)
      (htold : t.Tells c f.step f.status) (hquiet : ∀ u ∈ since, u.QuietAt f.step)

theorem LastTold.path (h : LastTold c ts f) (hf : Consistent c asked f)
    (hpath : Path f op xs reply g) : LastTold c (ts ++ [⟨op, f, xs, reply, g⟩]) g := by
  rcases told_or_quiet hf hpath with htold | ⟨hquiet, hstep, hstatus⟩
  · exact .turn ts _ [] rfl htold (by simp)
  · cases h with
    | nothing hnew hnone => exact .nothing (hstep.trans hnew) (hstatus.trans hnone)
    | turn old t since hturns htold hsince =>
        refine .turn old t (since ++ [⟨op, f, xs, reply, g⟩]) (by simp [hturns]) ?_ ?_
        · rw [hstep, hstatus]
          exact htold
        · rw [hstep]
          exact List.forall_mem_append.mpr ⟨hsince, List.forall_mem_singleton.mpr hquiet⟩

/-- The last of something that turns have. -/
def lastOf {α : Type} (part? : Turn → Option α) (ts : List Turn) : Option α :=
  (ts.filterMap part?).getLast?

/-- The last answer of a kind. -/
def lastAnswer {α : Type} (answer? : Exchange → Option α) (ts : List Turn) : Option α :=
  ((ts.flatMap Turn.asked).filterMap answer?).getLast?

section Last

variable {α : Type} {a : α} {old since : List Turn} {step : Step}

theorem lastOf_eq {part? : Turn → Option α} (h : part? t = some a)
    (hsince : ∀ u ∈ since, part? u = none) : lastOf part? (old ++ t :: since) = some a := by
  have hnone : since.filterMap part? = [] := List.filterMap_eq_nil_iff.mpr hsince
  simp [lastOf, List.filterMap_append, h, hnone]

theorem lastAnswer_eq {answer? : Exchange → Option α}
    (h : (t.asked.filterMap answer?).getLast? = some a) (hsince : ∀ u ∈ since, u.QuietAt step) :
    lastAnswer answer? (old ++ t :: since) = some a := by
  have hnone : since.flatMap Turn.asked = [] :=
    List.flatMap_eq_nil_iff.mpr fun u hu => (hsince u hu).asked
  simp [lastAnswer, List.filterMap_append, List.getLast?_append, h, hnone]

/-- No number was submitted at the first step by a turn that is quiet there. -/
theorem submission?_of_quietAt (h : t.QuietAt .phone) : t.submission? = none := by
  unfold Turn.submission?
  split
  next raw hop =>
    have hbound : boundTo? t.operation = some (.phone, "submit a phone number") := by rw [hop]; rfl
    exact absurd rfl (h.unbound _ hbound)
  all_goals rfl

/-- No code was submitted at its step by a turn that is quiet there. -/
theorem typedCode?_of_quietAt (h : t.QuietAt .token) : t.typedCode? = none := by
  unfold Turn.typedCode?
  split
  next raw hop =>
    have hbound : boundTo? t.operation = some (.token, "submit a code") := by rw [hop]; rfl
    exact absurd rfl (h.unbound _ hbound)
  all_goals rfl

/-- The status at each step, told by the last submission or answer of a kind. -/
inductive AtRest (c : Config) (ts : List Turn) : Step → Option StatusMessage → Prop
  | silent : AtRest c ts .phone none
  | rejected (raw : String) (rejection : PhoneRejection)
      (hlast : lastOf Turn.submission? ts = some [.validate raw (.error rejection)]) :
      AtRest c ts .phone (some ⟨.warning, Message.text c.locale rejection.messageKey⟩)
  | unsent (failure : ApiFailure)
      (hlast : lastAnswer Exchange.sendAnswer? ts = some (.error failure)) :
      AtRest c ts .phone (some ⟨.danger, Message.failure c.locale failure⟩)
  | confirming : AtRest c ts .confirm none
  | sent (dispatch : SmsDispatch)
      (hlast : lastAnswer Exchange.sendAnswer? ts = some (.ok dispatch)) :
      AtRest c ts .token
        (if c.announceSent then some ⟨.info, Message.smsSent c.locale dispatch.sender⟩ else none)
  | blank (raw : String) (hlast : lastOf Turn.typedCode? ts = some raw)
      (hraw : Text.isBlankText raw = true) :
      AtRest c ts .token (some ⟨.warning, Message.text c.locale .errorCannotValidateToken⟩)
  | limited (wait : Option RetryWindow)
      (hlast : lastAnswer Exchange.verifyAnswer? ts = some (.error (.rateLimited wait))) :
      AtRest c ts .token (some ⟨.danger, Message.rateLimited c.locale none⟩)
  | refused (why : ErrorCode)
      (hlast : lastAnswer Exchange.verifyAnswer? ts = some (.error (.rejected why))) :
      AtRest c ts .token (some ⟨.danger, Message.error c.locale why⟩)
  | issued (outcome : IssuanceOutcome)
      (hlast : lastAnswer Exchange.outcome? ts = some outcome) :
      AtRest c ts .done (some ⟨outcome.status.1, Message.text c.locale outcome.status.2⟩)

/-- What a turn tells is still the last of its kind after turns that are quiet. -/
theorem atRest_of_tells {status : Option StatusMessage} (h : t.Tells c step status)
    (hsince : ∀ u ∈ since, u.QuietAt step) : AtRest c (old ++ t :: since) step status := by
  cases h with
  | rejected raw rejection hop hasked =>
      refine .rejected raw rejection (lastOf_eq ?_ fun u hu => submission?_of_quietAt (hsince u hu))
      simp [Turn.submission?, hop, hasked]
  | accepted raw phone hop hasked => exact .confirming
  | unsent front phone failure hasked =>
      refine .unsent failure (lastAnswer_eq ?_ hsince)
      simp [hasked, Exchange.sendAnswer?]
  | sent front phone dispatch hasked =>
      refine .sent dispatch (lastAnswer_eq ?_ hsince)
      simp [hasked, Exchange.sendAnswer?]
  | blank raw hop hraw hasked =>
      refine .blank raw (lastOf_eq ?_ fun u hu => typedCode?_of_quietAt (hsince u hu)) hraw
      simp [Turn.typedCode?, hop]
  | limited phone code wait hasked =>
      refine .limited wait (lastAnswer_eq ?_ hsince)
      simp [hasked, Exchange.verifyAnswer?]
  | refused phone code why hasked =>
      refine .refused why (lastAnswer_eq ?_ hsince)
      simp [hasked, Exchange.verifyAnswer?]
  | issued phone code token options outcome hasked =>
      refine .issued outcome (lastAnswer_eq ?_ hsince)
      simp [hasked, Exchange.outcome?, List.filterMap_cons]
  | wentBack hop hasked hreply => exact .silent
  | restarted hop hasked => exact .silent

end Last

theorem LastTold.atRest (h : LastTold c ts f) : AtRest c ts f.step f.status := by
  cases h with
  | nothing hstep hstatus =>
      rw [hstep, hstatus]
      exact .silent
  | turn old t since hturns htold hquiet =>
      rw [hturns]
      exact atRest_of_tells htold hquiet

/-- Between two operations the status is no text of a request that is still under way. -/
theorem AtRest.body_ne {step : Step} {m : StatusMessage} (h : AtRest c ts step (some m))
    {key : MessageKey} (hkey : key ∈ MessageKey.pending) : m.body ≠ Message.text c.locale key := by
  generalize hm : some m = status at h
  cases h with
  | silent | confirming => cases hm
  | rejected raw rejection hlast =>
      obtain rfl := Option.some.inj hm
      exact Message.text_ne_pending c.locale (by cases rejection <;> decide) hkey
  | unsent failure hlast =>
      obtain rfl := Option.some.inj hm
      exact Message.failure_ne_pending c.locale failure hkey
  | sent dispatch hlast =>
      split at hm
      · obtain rfl := Option.some.inj hm
        exact Message.smsSent_ne_pending c.locale dispatch.sender hkey
      · cases hm
  | blank raw hlast hraw =>
      obtain rfl := Option.some.inj hm
      exact Message.text_ne_pending c.locale (by decide) hkey
  | limited wait hlast =>
      obtain rfl := Option.some.inj hm
      exact Message.failure_ne_pending c.locale (.rateLimited none) hkey
  | refused why hlast =>
      obtain rfl := Option.some.inj hm
      exact Message.failure_ne_pending c.locale (.rejected why) hkey
  | issued outcome hlast =>
      obtain rfl := Option.some.inj hm
      have hsettled : outcome.status.2 ∉ MessageKey.pending := by
        cases outcome <;> simp [IssuanceOutcome.status, MessageKey.pending]
      exact Message.text_ne_pending c.locale hsettled hkey

/-- After every operation of a run the status is the one of its step for the last submission or answer
of a kind, and no text of a request under way. Every turn either tells, by its operation and the answers
that it got, the step it ends in and the status there, or has done nothing: it asked nothing, its reply
is idle unless it registers an observer, and step and status are the same as before. -/
theorem status_at_rest (s : Services σ) (c : Config) (v : σ) (ops : List Operation) :
    AtRest c (turns s ops (opened c v)) (worldAfter s ops (opened c v)).flow.step
        (worldAfter s ops (opened c v)).flow.status ∧
      (∀ m, (worldAfter s ops (opened c v)).flow.status = some m → ∀ key ∈ MessageKey.pending,
        m.body ≠ Message.text c.locale key) ∧
      ∀ t ∈ turns s ops (opened c v), t.Tells c t.after.step t.after.status ∨
        (t.QuietAt t.before.step ∧ t.after.step = t.before.step ∧
          t.after.status = t.before.status) := by
  have hlast := (consistent_induction (c := c) (P := LastTold c) (.nothing rfl rfl)
    (fun ts f op xs reply g hf h hpath => h.path hf hpath) s v ops).2
  refine ⟨hlast.atRest, ?_, ?_⟩
  · intro m hstatus key hkey
    have hrest := hlast.atRest
    rw [hstatus] at hrest
    exact hrest.body_ne hkey
  · intro t ht
    obtain ⟨⟨asked, hf⟩, hpath⟩ := path_of_mem_turns ht
    exact told_or_quiet hf hpath

/-- A code refused by the rate limit is still told after an operation that is out of step. -/
theorem status_at_rest_limited :
    turn (.scripted .standard) (.openLink "#!verify:+31612345678:ABC")
        (opened {} ⟨none, [], [.error (.rateLimited none)], []⟩) ∈
      turns (.scripted .standard) [.openLink "#!verify:+31612345678:ABC", .confirm]
        (opened {} ⟨none, [], [.error (.rateLimited none)], []⟩) ∧
    MessageKey.verifyingToken ∈ MessageKey.pending ∧
    (worldAfter (.scripted .standard) [.openLink "#!verify:+31612345678:ABC", .confirm]
        (opened {} ⟨none, [], [.error (.rateLimited none)], []⟩)).flow.status =
      some ⟨.danger, "Please try again in a moment."⟩ ∧
    "Please try again in a moment." ≠ Message.text .en .verifyingToken ∧
    (turn (.scripted .standard) (.openLink "#!verify:+31612345678:ABC")
        (opened {} ⟨none, [], [.error (.rateLimited none)], []⟩)).Tells {} .token
      (some ⟨.danger, "Please try again in a moment."⟩) := by
  obtain ⟨-, hpending, hturns⟩ := status_at_rest (.scripted .standard) {}
    ⟨none, [], [.error (.rateLimited none)], []⟩ [.openLink "#!verify:+31612345678:ABC", .confirm]
  have hmem := turn_mem_turns (.scripted .standard) [] [.confirm]
    (.openLink "#!verify:+31612345678:ABC") (opened {} ⟨none, [], [.error (.rateLimited none)], []⟩)
  refine ⟨hmem, by decide, rfl, hpending _ rfl _ (by decide), ?_⟩
  rcases hturns _ hmem with htells | ⟨hquiet, -, -⟩
  · exact htells
  · cases hquiet.asked

end Flow

end PhoneVerification
