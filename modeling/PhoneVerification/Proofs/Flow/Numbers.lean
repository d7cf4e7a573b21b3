import PhoneVerification.Flow.Script
import PhoneVerification.Proofs.Flow.Consistency

/-!
# Which number is asked about

A code is only ever sent to the number that was validated last, and only ever tried for the number
of the code in use: the last one that was sent, or the one of the last link. The number of the flow
is overwritten by typed numbers and by links and survives going back, so the story of a run is kept
next to it: what the flow holds at the confirmation and at the code is told from the story.
-/

namespace PhoneVerification

/-- A moment of a run: an operation begins, or a question is answered. -/
inductive Moment
  | begins (op : Operation)
  | asked (x : Exchange)

namespace Moment

/-- The answer of the validator, if a number was given to it. -/
def validation? : Moment → Option (Except PhoneRejection PhoneNumber)
  | asked (.validate _ answer) => some answer
  | _ => none

/-- The number for which a code is in use from this moment on: it was sent, or a link brought it. -/
def codeFor? : Moment → Option PhoneNumber
  | asked (.send phone _ (.ok _)) => some phone
  | begins (.openLink text) =>
    (VerifyLink.parse? text).map fun link => .unchecked link.phone
  | _ => none

/-- The code in use for a number stays in use: nothing is asked but whether a code of the number is
right, which it is not, and no operation gives up the number. -/
def keeps (phone : PhoneNumber) : Moment → Prop
  | asked (.verify p _ (.error _)) => p = phone
  | asked _ => False
  | begins (.openLink text) => VerifyLink.parse? text = none
  | begins .back | begins .restart => False
  | begins (.submitPhone _) | begins .confirm | begins (.submitCode _) | begins (.observe _) => True

end Moment

/-- The moments of a turn. -/
def Turn.moments (t : Turn) : List Moment :=
  .begins t.operation :: t.asked.map .asked

/-- What happened in a run, in its order. -/
def story (ts : List Turn) : List Moment :=
  ts.flatMap Turn.moments

/-- What the validator said about the last number that it was given. -/
def lastValidation (ms : List Moment) : Option (Except PhoneRejection PhoneNumber) :=
  (ms.filterMap Moment.validation?).getLast?

/-- The number of the last code that was sent or brought by a link. -/
def lastCodeFor (ms : List Moment) : Option PhoneNumber :=
  (ms.filterMap Moment.codeFor?).getLast?

/-- A code for this number is in use after these moments. -/
def CodeInUse (phone : PhoneNumber) (ms : List Moment) : Prop :=
  ∃ old origin since, ms = old ++ origin :: since ∧ origin.codeFor? = some phone ∧
    ∀ m ∈ since, m.keeps phone

namespace CodeInUse

variable {phone : PhoneNumber} {ms : List Moment}

theorem of_origin (ms : List Moment) {m : Moment} (h : m.codeFor? = some phone) :
    CodeInUse phone (ms ++ [m]) :=
  ⟨ms, m, [], rfl, h, by simp⟩

theorem append (h : CodeInUse phone ms) {ns : List Moment} (hns : ∀ m ∈ ns, m.keeps phone) :
    CodeInUse phone (ms ++ ns) := by
  obtain ⟨old, origin, since, rfl, horigin, hsince⟩ := h
  refine ⟨old, origin, since ++ ns, by simp, horigin, ?_⟩
  intro m hm
  rcases List.mem_append.mp hm with hm | hm
  · exact hsince m hm
  · exact hns m hm

theorem codeFor?_of_keeps {m : Moment} (h : m.keeps phone) : m.codeFor? = none := by
  cases m with
  | begins op =>
      cases op with
      | openLink text =>
          have hlink : VerifyLink.parse? text = none := h
          simp [Moment.codeFor?, hlink]
      | _ => rfl
  | asked x =>
      cases x with
      | send p l answer => exact h.elim
      | _ => rfl

/-- The code in use is the last one that was sent or brought by a link. -/
theorem lastCodeFor_eq (h : CodeInUse phone ms) : lastCodeFor ms = some phone := by
  obtain ⟨old, origin, since, rfl, horigin, hsince⟩ := h
  have hnone : since.filterMap Moment.codeFor? = [] :=
    List.filterMap_eq_nil_iff.mpr fun m hm => codeFor?_of_keeps (hsince m hm)
  simp [lastCodeFor, List.filterMap_append, horigin, hnone]

end CodeInUse

/-- What has to have happened before a moment: a code is sent to the number that was validated last,
and tried for the number of the code in use. -/
def Justified (before : List Moment) : Moment → Prop
  | .asked (.send phone _ _) => lastValidation before = some (.ok phone)
  | .asked (.verify phone _ _) => lastCodeFor before = some phone ∧ CodeInUse phone before
  | .asked (.validate _ _) | .asked (.issue _ _ _) | .begins _ => True

/-- With a confirmation step, codes are sent by the confirmation alone, to the number it shows. -/
def Turn.SendsConfirmed (t : Turn) : Prop :=
  ∀ phone locale answer, Exchange.send phone locale answer ∈ t.asked →
    t.operation = .confirm ∧ t.before.phone = some phone ∧
      t.before.view.confirmNumber = some phone.e164

namespace Flow

variable {σ : Type}

/-- What the story of a run tells about the number of the flow. -/
structure Numbered (ms : List Moment) (f : Flow) : Prop where
  justified : Each Justified ms
  confirm : f.step = .confirm →
    ∃ phone, f.phone = some phone ∧ lastValidation ms = some (.ok phone)
  token : f.step = .token → ∃ phone, f.phone = some phone ∧ CodeInUse phone ms

theorem story_append (ts : List Turn) (t : Turn) : story (ts ++ [t]) = story ts ++ t.moments := by
  simp [story]

theorem lastValidation_append (ms : List Moment) (raw : String)
    (answer : Except PhoneRejection PhoneNumber) :
    lastValidation (ms ++ [.asked (.validate raw answer)]) = some answer := by
  simp [lastValidation, List.filterMap_append, Moment.validation?]

theorem lastValidation_append_begins (ms : List Moment) (op : Operation) :
    lastValidation (ms ++ [.begins op]) = lastValidation ms := by
  simp [lastValidation, List.filterMap_append, Moment.validation?]

theorem keeps_of_boundTo {op : Operation} {bound : Step × String} (h : boundTo? op = some bound)
    (phone : PhoneNumber) : (Moment.begins op).keeps phone := by
  cases op with
  | submitPhone raw => trivial
  | confirm => trivial
  | submitCode raw => trivial
  | openLink text => cases h
  | back => cases h
  | restart => cases h
  | observe name => cases h

namespace Numbered

variable {ms : List Moment} {f g : Flow} {xs : List Exchange} {phone : PhoneNumber} {raw : String}

theorem start (c : Config) : Numbered [] (start c) where
  justified := .nil
  confirm h := by cases h
  token h := by cases h

/-- The begin of any operation is justified. -/
theorem justified_begins (h : Numbered ms f) (op : Operation) :
    Each Justified (ms ++ [.begins op]) :=
  h.justified.append (.singleton trivial)

/-- An operation that asks nothing and keeps the number and the step. -/
theorem begins (h : Numbered ms f) {op : Operation}
    (hkeeps : ∀ phone, (Moment.begins op).keeps phone) (hstep : g.step = f.step)
    (hphone : g.phone = f.phone) : Numbered (ms ++ [.begins op]) g where
  justified := h.justified_begins op
  confirm := by
    rw [hstep, hphone, lastValidation_append_begins]
    exact h.confirm
  token := by
    rw [hstep, hphone]
    intro htoken
    obtain ⟨phone, hsome, huse⟩ := h.token htoken
    exact ⟨phone, hsome, huse.append (by simpa using hkeeps phone)⟩

/-- At the first and at the last step no number is held to be asked about. -/
theorem of_step (h : Each Justified ms) (hstep : g.step = .phone ∨ g.step = .done) :
    Numbered ms g where
  justified := h
  confirm := by
    intro hconfirm
    rcases hstep with hstep | hstep
    · cases hstep.symm.trans hconfirm
    · cases hstep.symm.trans hconfirm
  token := by
    intro htoken
    rcases hstep with hstep | hstep
    · cases hstep.symm.trans htoken
    · cases hstep.symm.trans htoken

/-- Sending a code to the number that was validated last. -/
theorem sends (h : Each Justified ms) (hphone : f.phone = some phone)
    (hlast : lastValidation ms = some (.ok phone)) (hsends : Sends f phone xs g) :
    Numbered (ms ++ xs.map .asked) g := by
  cases hsends with
  | sent dispatch =>
      exact {
        justified := h.append (.singleton (by simpa [Justified] using hlast))
        confirm := fun hstep => by cases hstep
        token := fun _ => ⟨phone, hphone, .of_origin ms rfl⟩ }
  | unsent failure =>
      refine of_step (h.append (.singleton ?_)) (.inl rfl)
      simpa [Justified] using hlast

/-- Trying a code for the number of the code in use. -/
theorem verifies (h : Each Justified ms) (hstep : f.step = .token) (hphone : f.phone = some phone)
    (huse : CodeInUse phone ms) (hverifies : Verifies f phone raw xs g) :
    Numbered (ms ++ xs.map .asked) g := by
  have hjustified : ∀ answer,
      Justified ms (.asked (.verify phone (.normalize raw) answer)) :=
    fun _ => ⟨huse.lastCodeFor_eq, huse⟩
  cases hverifies with
  | refused failure =>
      exact {
        justified := h.append (.singleton (by simpa using hjustified (.error failure)))
        confirm := fun hconfirm => by cases hstep.symm.trans hconfirm
        token := fun _ => ⟨phone, hphone, huse.append (by simp [Moment.keeps])⟩ }
  | issued token outcome =>
      refine of_step (h.append (.cons ?_ (.singleton trivial))) (.inr rfl)
      simpa using hjustified (.ok token)

/-- Every turn keeps what the story tells. -/
theorem path {c : Config} {asked : List Exchange} {op : Operation} {reply : Reply}
    (h : Numbered ms f) (hf : Consistent c asked f) (hpath : Path f op xs reply g) :
    Numbered (ms ++ .begins op :: xs.map .asked) g := by
  have hbegins := h.justified_begins op
  rw [List.append_cons]
  cases hpath with
  | outOfStep hbound hstep =>
      rw [List.map_nil, List.append_nil]
      exact h.begins (keeps_of_boundTo hbound) rfl rfl
  | numberless action hbound hstep hne hphone =>
      rw [List.map_nil, List.append_nil]
      exact h.begins (keeps_of_boundTo hbound) rfl rfl
  | numberWarned hstep raw rejection =>
      exact of_step (hbegins.append (.singleton trivial)) (.inl hstep)
  | numberKept hstep hconfirm raw phone =>
      exact {
        justified := hbegins.append (.singleton trivial)
        confirm := fun _ => ⟨phone, rfl, lastValidation_append _ raw _⟩
        token := fun hstep => by cases hstep }
  | numberSent hstep hconfirm raw phone hsends =>
      rw [List.map_cons, List.append_cons]
      exact sends (f := f.numbered raw phone) (hbegins.append (.singleton trivial)) rfl
        (lastValidation_append _ raw _) hsends
  | @confirmed _ _ phone hstep hphone hsends =>
      obtain ⟨p, hp, hlast⟩ := h.confirm hstep
      obtain rfl : p = phone := Option.some.inj (hp.symm.trans hphone)
      exact sends hbegins hphone ((lastValidation_append_begins ms _).trans hlast) hsends
  | blankWarned hstep hphone hraw =>
      rw [List.map_nil, List.append_nil]
      exact h.begins (fun _ => trivial) rfl rfl
  | @codeTried _ _ phone hstep hphone _ _ hverifies =>
      obtain ⟨p, hp, huse⟩ := h.token hstep
      obtain rfl : p = phone := Option.some.inj (hp.symm.trans hphone)
      refine verifies hbegins hstep hphone (huse.append ?_) hverifies
      simp [Moment.keeps]
  | linkIgnored hlink =>
      rw [List.map_nil, List.append_nil]
      exact h.begins (fun _ => hlink) rfl rfl
  | linkFollowed hlink hverifies =>
      -- the operation itself is where the code comes from
      refine verifies hbegins rfl rfl (.of_origin ms ?_) hverifies
      simp [Moment.codeFor?, hlink]
  | wentBack hback =>
      obtain rfl := hf.eq_phone_of_back hback
      rw [List.map_nil, List.append_nil]
      exact of_step hbegins (.inl rfl)
  | stayed hback =>
      -- nothing would give up the number, so this cannot happen where one is held
      rw [List.map_nil, List.append_nil]
      refine of_step hbegins ?_
      cases hstep : f.step with
      | phone => exact .inl rfl
      | confirm => exact absurd (hf.back_eq_navigate (.inl hstep)) (hback _)
      | token => exact absurd (hf.back_eq_navigate (.inr hstep)) (hback _)
      | done => exact .inr rfl
  | restarted =>
      rw [List.map_nil, List.append_nil]
      exact of_step hbegins (.inl rfl)
  | observed name =>
      rw [List.map_nil, List.append_nil]
      exact h.begins (fun _ => trivial) rfl rfl

end Numbered

theorem send_not_mem_verifies {f g : Flow} {xs : List Exchange} {p phone : PhoneNumber}
    {raw : String} {locale : Locale} {answer : Except ApiFailure SmsDispatch}
    (h : Verifies f p raw xs g) : Exchange.send phone locale answer ∉ xs := by
  cases h with
  | refused failure => simp
  | issued token outcome => simp

theorem eq_of_send_mem_sends {f g : Flow} {xs : List Exchange} {p phone : PhoneNumber}
    {locale : Locale} {answer : Except ApiFailure SmsDispatch} (h : Sends f p xs g)
    (hmem : Exchange.send phone locale answer ∈ xs) : phone = p := by
  cases h with
  | sent dispatch =>
      simp only [List.mem_singleton, Exchange.send.injEq] at hmem
      exact hmem.1
  | unsent failure =>
      simp only [List.mem_singleton, Exchange.send.injEq] at hmem
      exact hmem.1

/-- With a confirmation step, a turn sends a code only when it confirms the number of the flow. -/
theorem eq_confirm_of_send {f g : Flow} {op : Operation} {xs : List Exchange} {reply : Reply}
    {phone : PhoneNumber} {locale : Locale} {answer : Except ApiFailure SmsDispatch}
    (hconfirm : f.config.confirmStep = true) (hpath : Path f op xs reply g)
    (hmem : Exchange.send phone locale answer ∈ xs) : op = .confirm ∧ f.phone = some phone := by
  cases hpath with
  | numberSent hstep hskip raw p hsends => exact absurd hconfirm (by simp [hskip])
  | confirmed hstep hphone hsends =>
      obtain rfl := eq_of_send_mem_sends hsends hmem
      exact ⟨rfl, hphone⟩
  | codeTried hstep hphone hraw hverifies => exact absurd hmem (send_not_mem_verifies hverifies)
  | linkFollowed hlink hverifies => exact absurd hmem (send_not_mem_verifies hverifies)
  | _ => simp at hmem

/-- Every question of a run about a number is justified by the story before it. -/
theorem numbers_of_turns (s : Services σ) (c : Config) (v : σ) (ops : List Operation) :
    Each Justified (story (turns s ops (opened c v))) ∧
      (c.confirmStep = true → ∀ t ∈ turns s ops (opened c v), t.SendsConfirmed) := by
  constructor
  · have h := consistent_induction (c := c) (P := fun ts f => Numbered (story ts) f)
      (Numbered.start c) ?_ s v ops
    · exact h.2.justified
    · intro ts f op xs reply g hf hnumbered hpath
      rw [story_append]
      exact hnumbered.path hf hpath
  · intro hconfirm t ht phone locale answer hmem
    obtain ⟨⟨asked, hf⟩, hpath⟩ := path_of_mem_turns ht
    obtain ⟨hop, hphone⟩ := eq_confirm_of_send (hf.config ▸ hconfirm) hpath hmem
    exact ⟨hop, hphone, by simp [view, hphone]⟩

/-- The confirmation of a second number, after no code could be sent to the first. -/
def secondConfirmed : Turn :=
  turn (.scripted .standard) .confirm (worldAfter (.scripted .standard)
    [.submitPhone "0612345678", .confirm, .submitPhone "0687654321"]
    (opened {} { sends := [.error (.rejected .internal)] }))

/-- The turns of a run in which it is followed by a code. -/
def secondNumberTurns : List Turn :=
  turns (.scripted .standard)
    [.submitPhone "0612345678", .confirm, .submitPhone "0687654321", .confirm, .submitCode "1"]
    (opened {} { sends := [.error (.rejected .internal)] })

/-- The story of that run, up to the code. -/
def secondNumberStory : List Moment :=
  [.begins (.submitPhone "0612345678"),
    .asked (.validate "0612345678" (.ok ⟨"+31612345678", some "NL"⟩)), .begins .confirm,
    .asked (.send ⟨"+31612345678", some "NL"⟩ .en (.error (.rejected .internal))),
    .begins (.submitPhone "0687654321"),
    .asked (.validate "0687654321" (.ok ⟨"+31687654321", some "NL"⟩)), .begins .confirm,
    .asked (.send ⟨"+31687654321", some "NL"⟩ .en (.ok ⟨none⟩)), .begins (.submitCode "1")]

/-- After no code could be sent to a first number, only the second one is asked about. -/
theorem numbers_of_second_number :
    (({} : Config).confirmStep = true ∧ secondConfirmed ∈ secondNumberTurns ∧
        secondConfirmed.SendsConfirmed) ∧
      story secondNumberTurns = secondNumberStory ++
        [.asked (.verify ⟨"+31687654321", some "NL"⟩ ⟨"1"⟩ (.ok ⟨"jwt"⟩)),
          .asked (.issue ⟨"jwt"⟩ ⟨"https://irma.example.org", .en⟩ .success)] ∧
      Justified secondNumberStory
        (.asked (.verify ⟨"+31687654321", some "NL"⟩ ⟨"1"⟩ (.ok ⟨"jwt"⟩))) := by
  have hstory : story secondNumberTurns = secondNumberStory ++
      [.asked (.verify ⟨"+31687654321", some "NL"⟩ ⟨"1"⟩ (.ok ⟨"jwt"⟩)),
        .asked (.issue ⟨"jwt"⟩ ⟨"https://irma.example.org", .en⟩ .success)] := rfl
  have hmem : secondConfirmed ∈ secondNumberTurns :=
    turn_mem_turns _ [.submitPhone "0612345678", .confirm, .submitPhone "0687654321"]
      [.submitCode "1"] _ _
  obtain ⟨hjustified, hsends⟩ := numbers_of_turns (.scripted .standard) {}
    { sends := [.error (.rejected .internal)] }
    [.submitPhone "0612345678", .confirm, .submitPhone "0687654321", .confirm, .submitCode "1"]
  exact ⟨⟨rfl, hmem, hsends rfl _ hmem⟩, hstory, hjustified _ _ _ hstory⟩

end Flow

end PhoneVerification
