import PhoneVerification.Flow.Script
import PhoneVerification.Proofs.Flow.Consistency

/-!
# Accepted codes are handed over once

What one operation calls has one of four shapes (`HandsOver`). Over a run the shapes are put one
behind the other, so an issuance is called exactly for the codes that are accepted, with their
tokens, and no call is made again unless an operation asks for it.
-/

namespace PhoneVerification

namespace Exchange

/-- Whether the verification service or the issuance is called, and not the validator. -/
def isCall : Exchange → Bool
  | .send _ _ _ | .verify _ _ _ | .issue _ _ _ => true
  | .validate _ _ => false

/-- Whether a code was accepted. -/
def isVerified : Exchange → Bool
  | .verify _ _ (.ok _) => true
  | .verify _ _ (.error _) | .validate _ _ | .send _ _ _ | .issue _ _ _ => false

/-- Whether a credential was asked for. -/
def isIssue : Exchange → Bool
  | .issue _ _ _ => true
  | .validate _ _ | .send _ _ _ | .verify _ _ _ => false

end Exchange

/-- The calls of a turn. -/
def Turn.calls (t : Turn) : List Exchange :=
  t.asked.filter Exchange.isCall

/-- The numbers that a turn has validated. -/
def Turn.validations (t : Turn) : List Exchange :=
  t.asked.filter fun x => !x.isCall

/-- The calls that one operation makes, if it leaves the flow `g`. -/
inductive HandsOver (c : Config) (g : Flow) : List Exchange → Prop
  | nothing : HandsOver c g []
  | sent (phone : PhoneNumber) (answer : Except ApiFailure SmsDispatch) :
      HandsOver c g [.send phone c.locale answer]
  | refused (phone : PhoneNumber) (code : VerificationCode) (failure : ApiFailure) :
      HandsOver c g [.verify phone code (.error failure)]
  | issued (phone : PhoneNumber) (code : VerificationCode) (token : SessionToken)
      (outcome : IssuanceOutcome) (hstep : g.step = .done) (hattempt : g.attempt = .verified)
      (hstatus : g.status = some ⟨outcome.status.1, Message.text c.locale outcome.status.2⟩) :
      HandsOver c g [.verify phone code (.ok token),
        .issue token ⟨c.issuanceServer, c.locale⟩ outcome]

/-- An issuance gets the token of the code that was accepted immediately before it. -/
def IssuedAfter (c : Config) (before : List Exchange) : Exchange → Prop
  | .issue token options _ => options = ⟨c.issuanceServer, c.locale⟩ ∧
      ∃ phone code, before.getLast? = some (.verify phone code (.ok token))
  | .validate _ _ | .send _ _ _ | .verify _ _ _ => True

namespace HandsOver

variable {c : Config} {f g : Flow} {xs : List Exchange}

/-- Every credential of one operation is asked for with the token of an accepted code. -/
theorem countP_eq (h : HandsOver c g xs) :
    xs.countP Exchange.isIssue = xs.countP Exchange.isVerified := by
  cases h with
  | nothing => rfl
  | sent phone answer => rfl
  | refused phone code failure => rfl
  | issued phone code token outcome hstep hattempt hstatus => rfl

theorem issuedAfter (h : HandsOver c g xs) (before : List Exchange) :
    Each (fun pre x => IssuedAfter c (before ++ pre) x) xs := by
  cases h with
  | nothing => exact .nil
  | sent phone answer => exact .singleton trivial
  | refused phone code failure => exact .singleton trivial
  | issued phone code token outcome hstep hattempt hstatus =>
      refine .cons trivial (.singleton ⟨rfl, phone, code, ?_⟩)
      simp

end HandsOver

namespace Flow

variable {σ : Type} {c : Config} {f g : Flow} {xs : List Exchange} {phone : PhoneNumber}

theorem handsOver_of_sends (hconfig : f.config = c) (h : Sends f phone xs g) :
    HandsOver c g xs ∧ ∀ x ∈ xs, x.isCall = true := by
  subst hconfig
  cases h with
  | sent dispatch => exact ⟨.sent phone (.ok dispatch), by simp [Exchange.isCall]⟩
  | unsent failure => exact ⟨.sent phone (.error failure), by simp [Exchange.isCall]⟩

theorem handsOver_of_verifies {raw : String} (hconfig : f.config = c)
    (h : Verifies f phone raw xs g) : HandsOver c g xs ∧ ∀ x ∈ xs, x.isCall = true := by
  subst hconfig
  cases h with
  | refused failure => exact ⟨.refused phone (.normalize raw) failure, by simp [Exchange.isCall]⟩
  | issued token outcome =>
      exact ⟨.issued phone (.normalize raw) token outcome rfl rfl rfl, by simp [Exchange.isCall]⟩

/-- The questions of a path are at most one validation and then the calls of one of the shapes. -/
theorem exists_calls_of_path {op : Operation} {reply : Reply} (hconfig : f.config = c)
    (hpath : Path f op xs reply g) :
    ∃ front calls, xs = front ++ calls ∧ front.length ≤ 1 ∧ (∀ x ∈ front, x.isCall = false) ∧
      (∀ x ∈ calls, x.isCall = true) ∧ HandsOver c g calls := by
  cases hpath with
  | numberWarned hstep raw rejection =>
      exact ⟨[.validate raw (.error rejection)], [], rfl, le_refl _, by simp [Exchange.isCall],
        by simp, .nothing⟩
  | numberKept hstep hconfirm raw phone =>
      exact ⟨[.validate raw (.ok phone)], [], rfl, le_refl _, by simp [Exchange.isCall],
        by simp, .nothing⟩
  | @numberSent calls _ hstep hconfirm raw phone hsends =>
      obtain ⟨hshape, hcalls⟩ := handsOver_of_sends (f := f.numbered raw phone) hconfig hsends
      exact ⟨[.validate raw (.ok phone)], calls, rfl, le_refl _, by simp [Exchange.isCall],
        hcalls, hshape⟩
  | confirmed hstep hphone hsends =>
      obtain ⟨hshape, hcalls⟩ := handsOver_of_sends hconfig hsends
      exact ⟨[], xs, rfl, Nat.zero_le _, by simp, hcalls, hshape⟩
  | codeTried hstep hphone hraw hverifies =>
      obtain ⟨hshape, hcalls⟩ := handsOver_of_verifies hconfig hverifies
      exact ⟨[], xs, rfl, Nat.zero_le _, by simp, hcalls, hshape⟩
  | @linkFollowed _ _ _ link hlink hverifies =>
      obtain ⟨hshape, hcalls⟩ := handsOver_of_verifies (f := f.resumed link) hconfig hverifies
      exact ⟨[], xs, rfl, Nat.zero_le _, by simp, hcalls, hshape⟩
  | _ => exact ⟨[], [], rfl, Nat.zero_le _, by simp, by simp, .nothing⟩

/-- A turn calls in one of the four shapes, after at most one validation. -/
theorem handsOver_of_path {t : Turn} (hconfig : t.before.config = c)
    (hpath : Path t.before t.operation t.asked t.reply t.after) :
    HandsOver c t.after t.calls ∧ t.validations.length ≤ 1 := by
  obtain ⟨front, calls, hasked, hlength, hfront, hcalls, hshape⟩ :=
    exists_calls_of_path hconfig hpath
  have hkept : t.calls = calls := by
    rw [Turn.calls, hasked, List.filter_append, List.filter_eq_nil_iff.mpr (by simpa using hfront),
      List.filter_eq_self.mpr hcalls, List.nil_append]
  have hrest : t.validations = front := by
    rw [Turn.validations, hasked, List.filter_append,
      List.filter_eq_self.mpr (by simpa using hfront),
      List.filter_eq_nil_iff.mpr (by simpa using hcalls), List.append_nil]
  rw [hkept, hrest]
  exact ⟨hshape, hlength⟩

/-- The calls of a run, in their order. -/
def calls (s : Services σ) (ops : List Operation) (w : World σ) : List Exchange :=
  (Event.exchanges ((performAll s ops).run w).events).filter Exchange.isCall

theorem calls_eq_flatMap (s : Services σ) (ops : List Operation) (w : World σ) :
    calls s ops w = (turns s ops w).flatMap Turn.calls := by
  rw [calls, ← flatMap_asked_turns, List.filter_flatMap]
  rfl

theorem countP_flatMap_calls {ts : List Turn} (h : ∀ t ∈ ts, HandsOver c t.after t.calls) :
    (ts.flatMap Turn.calls).countP Exchange.isIssue =
      (ts.flatMap Turn.calls).countP Exchange.isVerified := by
  induction ts with
  | nil => rfl
  | cons t ts ih =>
      rw [List.flatMap_cons, List.countP_append, List.countP_append,
        (h t List.mem_cons_self).countP_eq, ih fun u hu => h u (List.mem_cons_of_mem t hu)]

theorem issuedAfter_flatMap_calls {ts : List Turn} (h : ∀ t ∈ ts, HandsOver c t.after t.calls) :
    Each (IssuedAfter c) (ts.flatMap Turn.calls) := by
  induction ts using List.reverseRecOn with
  | nil => exact .nil
  | append_singleton ts t ih =>
      rw [List.flatMap_append, List.flatMap_singleton]
      refine (ih fun u hu => h u (List.mem_append_left _ hu)).append ?_
      exact (h t (by simp)).issuedAfter _

/-- Every turn calls in one of the four shapes. Hence over a run credentials are asked for exactly
as often as codes are accepted, each time with the token that was accepted just before. -/
theorem handoff_of_turns (s : Services σ) (c : Config) (v : σ) (ops : List Operation) :
    (∀ t ∈ turns s ops (opened c v), HandsOver c t.after t.calls ∧ t.validations.length ≤ 1) ∧
      Each (IssuedAfter c) (calls s ops (opened c v)) ∧
      (calls s ops (opened c v)).countP Exchange.isIssue =
        (calls s ops (opened c v)).countP Exchange.isVerified := by
  have hturns : ∀ t ∈ turns s ops (opened c v),
      HandsOver c t.after t.calls ∧ t.validations.length ≤ 1 := by
    intro t ht
    obtain ⟨⟨asked, hf⟩, hpath⟩ := path_of_mem_turns ht
    exact handsOver_of_path hf.config hpath
  have hshape : ∀ t ∈ turns s ops (opened c v), HandsOver c t.after t.calls :=
    fun t ht => (hturns t ht).1
  rw [calls_eq_flatMap]
  exact ⟨hturns, issuedAfter_flatMap_calls hshape, countP_flatMap_calls hshape⟩

/-- The turn of a code that is accepted after another one was refused. -/
def acceptedTurn : Turn :=
  turn (.scripted .standard) (.submitCode "2") (worldAfter (.scripted .standard)
    [.submitPhone "0612345678", .confirm, .submitCode "1"]
    (opened {} { verifies := [.error (.rejected .internal)] }))

/-- The calls of that run, up to the issuance. -/
def acceptedCalls : List Exchange :=
  [.send ⟨"+31612345678", some "NL"⟩ .en (.ok ⟨none⟩),
    .verify ⟨"+31612345678", some "NL"⟩ ⟨"1"⟩ (.error (.rejected .internal)),
    .verify ⟨"+31612345678", some "NL"⟩ ⟨"2"⟩ (.ok ⟨"jwt"⟩)]

/-- A code is accepted after another one was refused, and its token is handed over. -/
theorem handoff_of_second_code :
    (acceptedTurn ∈ turns (.scripted .standard)
          [.submitPhone "0612345678", .confirm, .submitCode "1", .submitCode "2"]
          (opened {} { verifies := [.error (.rejected .internal)] }) ∧
        HandsOver {} acceptedTurn.after acceptedTurn.calls) ∧
      calls (.scripted .standard)
          [.submitPhone "0612345678", .confirm, .submitCode "1", .submitCode "2"]
          (opened {} { verifies := [.error (.rejected .internal)] }) =
        acceptedCalls ++ [.issue ⟨"jwt"⟩ ⟨"https://irma.example.org", .en⟩ .success] ∧
      IssuedAfter {} acceptedCalls
        (.issue ⟨"jwt"⟩ ⟨"https://irma.example.org", .en⟩ .success) := by
  have hcalls : calls (.scripted .standard)
      [.submitPhone "0612345678", .confirm, .submitCode "1", .submitCode "2"]
      (opened {} { verifies := [.error (.rejected .internal)] }) =
      acceptedCalls ++ [.issue ⟨"jwt"⟩ ⟨"https://irma.example.org", .en⟩ .success] := rfl
  have hmem : acceptedTurn ∈ turns (.scripted .standard)
      [.submitPhone "0612345678", .confirm, .submitCode "1", .submitCode "2"]
      (opened {} { verifies := [.error (.rejected .internal)] }) :=
    turn_mem_turns _ [.submitPhone "0612345678", .confirm, .submitCode "1"] [] _ _
  obtain ⟨hshape, hissued, -⟩ := handoff_of_turns (.scripted .standard) {}
    { verifies := [.error (.rejected .internal)] }
    [.submitPhone "0612345678", .confirm, .submitCode "1", .submitCode "2"]
  exact ⟨⟨hmem, (hshape _ hmem).1⟩, hcalls, hissued _ _ [] hcalls⟩

end Flow

end PhoneVerification
