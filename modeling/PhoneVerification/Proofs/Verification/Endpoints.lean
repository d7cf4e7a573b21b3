import PhoneVerification.Proofs.Verification.PostedForms

/-!
# Answers at the two endpoints

`ReadBoth` lists how an answer is read, next to each other for the request that asks for a code and
for the one that submits it. What the status, the headers and the body are is said of the answer
alone, and in the order in which they count: an answer that did not arrive in full is an internal
error whatever its status, the status then tells success from failure, and only a failure is looked
up in the body. Both requests are tried once, so the answer that is read is the only one
(`answers_read_alike`).
-/

namespace PhoneVerification

namespace Http

variable {σ : Type}

theorem Draft.length_requests_le (d : Draft) : d.requests.length ≤ 1 := by
  unfold Draft.requests
  split
  · exact Nat.zero_le 1
  · split
    · exact Nat.le_refl 1
    · exact Nat.zero_le 1

/-- Over any network one draft is tried, and its request is handed over at most once. -/
structure TriesOnce {α : Type} (x : ∀ σ, Network σ → Action Effect σ α) (d : Draft) : Prop where
  tried : ∀ (σ : Type) (net : Network σ) (w : σ),
    Effect.deeds ((x σ net).run w).events = [.attempt d]
  handed : ∀ (σ : Type) (net : Network σ) (w : σ × List Request),
    ((x (σ × List Request) net.recording).run w).world.2 = w.2 ++ d.requests
  once : d.requests.length ≤ 1

theorem Posts.triesOnce {α : Type} {x : ∀ σ, Network σ → Action Effect σ α} {d : Draft}
    {pairs : List (String × String)} (h : Posts x d pairs) : TriesOnce x d :=
  ⟨h.tried, h.handed, d.length_requests_le⟩

end Http

namespace VerificationClient

open Http (Response)

/-- The wait that headers tell. Of several values the first counts, also if it cannot be read. -/
inductive Waits : List (String × String) → Option RetryWindow → Prop
  | told {before after : List (String × String)} {name value : String}
      (hbefore : ∀ h ∈ before, Text.sameAscii h.1 retryHeader = false)
      (hname : Text.sameAscii name retryHeader = true)
      (hreadable : ∀ c ∈ value.toList, Response.isHeaderChar c = true) :
      Waits (before ++ (name, value) :: after) (RetryWindow.ofHeader? value)
  | unreadable {before after : List (String × String)} {name value : String} {c : Char}
      (hbefore : ∀ h ∈ before, Text.sameAscii h.1 retryHeader = false)
      (hname : Text.sameAscii name retryHeader = true) (hc : c ∈ value.toList)
      (hunreadable : Response.isHeaderChar c = false) :
      Waits (before ++ (name, value) :: after) none
  | untold {headers : List (String × String)}
      (h : ∀ h ∈ headers, Text.sameAscii h.1 retryHeader = false) : Waits headers none

/-- What an answer comes to if it is given to a request for a code, and if it is given to a request
that submits one. -/
inductive ReadBoth : Except Fault Response → Except ApiFailure SmsDispatch →
    Except ApiFailure SessionToken → Prop
  | unreached (fault : Fault) :
      ReadBoth (.error fault) (.error (.rejected .internal)) (.error (.rejected .internal))
  | brokenOff {r : Response} (hbody : r.body = none) :
      ReadBoth (.ok r) (.error (.rejected .internal)) (.error (.rejected .internal))
  | carriedOut {r : Response} {bytes : List UInt8} (hbody : r.body = some bytes)
      (hstatus : 200 ≤ r.status ∧ r.status < 300) :
      ReadBoth (.ok r) (.ok (.ofBody (Text.Utf8.decodeLossy bytes)))
        (.ok ⟨Text.Utf8.decodeLossy bytes⟩)
  | refused {r : Response} {bytes : List UInt8} {code : ErrorCode} (hbody : r.body = some bytes)
      (hstatus : ¬ (200 ≤ r.status ∧ r.status < 300))
      (hcode : ErrorCode.ofBody (Text.Utf8.decodeLossy bytes) = code) (hne : code ≠ .rateLimit) :
      ReadBoth (.ok r) (.error (.rejected code)) (.error (.rejected code))
  | limited {r : Response} {bytes : List UInt8} {wait : Option RetryWindow}
      (hbody : r.body = some bytes) (hstatus : ¬ (200 ≤ r.status ∧ r.status < 300))
      (hcode : ErrorCode.ofBody (Text.Utf8.decodeLossy bytes) = .rateLimit)
      (hwait : Waits r.headers wait) :
      ReadBoth (.ok r) (.error (.rateLimited wait)) (.error (.rateLimited none))

/-- The wait that is read from a header is the one that the headers tell. -/
theorem waits_header? (r : Response) :
    Waits r.headers ((r.header? retryHeader).bind RetryWindow.ofHeader?) := by
  unfold Response.header?
  cases hfind : r.headers.find? fun h => Text.sameAscii h.1 retryHeader with
  | none =>
      refine .untold fun h hh => ?_
      simpa using List.find?_eq_none.mp hfind h hh
  | some header =>
      obtain ⟨name, value⟩ := header
      obtain ⟨hname, before, after, hheaders, hbefore⟩ := List.find?_eq_some_iff_append.mp hfind
      have hbefore' : ∀ h ∈ before, Text.sameAscii h.1 retryHeader = false := by simpa using hbefore
      rw [hheaders]
      cases hreadable : value.toList.all Response.isHeaderChar with
      | true =>
          simp only [Option.map_some, Option.filter_some, hreadable, if_true, Option.bind_some]
          exact .told hbefore' hname (List.all_eq_true.mp hreadable)
      | false =>
          obtain ⟨c, hc, hunreadable⟩ := List.all_eq_false.mp hreadable
          simp only [Option.map_some, Option.filter_some, hreadable, Bool.false_eq_true, if_false,
            Option.bind_none]
          exact .unreadable hbefore' hname hc (Bool.eq_false_iff.mpr hunreadable)

variable {σ τ : Type}

/-- What is read of an answer depends neither on the world nor on the network. -/
theorem value_readAnswer_eq (address : String) (readsRetry : Bool)
    (answer : Except Fault Response) (w : σ) (u : τ) :
    ((readAnswer address readsRetry answer).run w).value =
      ((readAnswer address readsRetry answer).run u).value := by
  have hcoupled : Action.Coupled (fun _ : Effect => ([] : List Effect))
      (fun (_ : σ) (_ : τ) => True) Eq (readAnswer address readsRetry answer)
      (readAnswer address readsRetry answer) :=
    coupled_readAnswer address readsRetry answer
  exact (hcoupled w u trivial).1

/-- What comes of a posted form is what is read of its answer. -/
theorem value_postForm (net : Http.Network σ) (address : String)
    (pairs : List (String × String)) (readsRetry : Bool) (w : σ) :
    ((postForm net address pairs readsRetry).run w).value =
      ((readAnswer address readsRetry
        ((net.exchange (draft address pairs)).run w).value).run w).value := by
  rw [postForm, Action.run_bind]
  exact value_readAnswer_eq _ _ _ _ _

theorem value_sendCode (client : VerificationClient) (net : Http.Network σ)
    (phone : PhoneNumber) (locale : Locale) (w : σ) :
    ((client.sendCode net phone locale).run w).value =
      ((readAnswer client.sendUrl true
        ((net.exchange (client.sendDraft phone locale)).run w).value).run w).value.map
          SmsDispatch.ofBody := by
  rw [sendDraft, ← value_postForm]
  simp only [sendCode, Action.run_bind]
  split
  next failure hread => simp [hread, Except.map]
  next body hread => simp [hread, Except.map]

theorem value_verifyCode (client : VerificationClient) (net : Http.Network σ)
    (phone : PhoneNumber) (code : VerificationCode) (w : σ) :
    ((client.verifyCode net phone code).run w).value =
      ((readAnswer client.verifyUrl false
        ((net.exchange (client.verifyDraft phone code)).run w).value).run w).value.map
          SessionToken.mk := by
  rw [verifyDraft, ← value_postForm]
  simp only [verifyCode, Action.run_bind]
  split
  next failure hread => simp [hread, Except.map]
  next body hread => simp [hread, Except.map]

/-- An answer that arrived in full is read by its status, and as the failure of its body if it tells
one. -/
theorem value_readAnswer_ok (address : String) (readsRetry : Bool) {r : Response}
    {bytes : List UInt8} (hbody : r.body = some bytes) (w : σ) :
    ((readAnswer address readsRetry (.ok r)).run w).value =
      if 200 ≤ r.status ∧ r.status < 300 then .ok (Text.Utf8.decodeLossy bytes)
      else .error (.ofCode (ErrorCode.ofBody (Text.Utf8.decodeLossy bytes))
        (if readsRetry then r.header? retryHeader else none)) := by
  have htext : r.text? = some (Text.Utf8.decodeLossy bytes) := by
    rw [Response.text?, hbody, Option.map_some]
  have hsuccess : r.isSuccess = true ↔ 200 ≤ r.status ∧ r.status < 300 := by
    simp [Response.isSuccess]
  simp only [readAnswer, htext, hsuccess, ← ApiFailure.decode_eq_ofCode]
  split
  · rfl
  · rfl

/-- The two ways of reading an answer are those of the list. -/
theorem readBoth_readAnswer (address address' : String) (answer : Except Fault Response) (w : σ)
    (u : τ) :
    ReadBoth answer (((readAnswer address true answer).run w).value.map SmsDispatch.ofBody)
      (((readAnswer address' false answer).run u).value.map SessionToken.mk) := by
  cases answer with
  | error fault => exact .unreached fault
  | ok r =>
      cases hbody : r.body with
      | none =>
          have htext : r.text? = none := by rw [Response.text?, hbody, Option.map_none]
          simp only [readAnswer, htext]
          exact .brokenOff hbody
      | some bytes =>
          rw [value_readAnswer_ok _ _ hbody, value_readAnswer_ok _ _ hbody]
          by_cases hstatus : 200 ≤ r.status ∧ r.status < 300
          · rw [if_pos hstatus, if_pos hstatus]
            exact .carriedOut hbody hstatus
          · rw [if_neg hstatus, if_neg hstatus]
            by_cases hcode : ErrorCode.ofBody (Text.Utf8.decodeLossy bytes) = .rateLimit
            · rw [hcode]
              exact .limited hbody hstatus hcode (waits_header? r)
            · simp only [ApiFailure.ofCode, hcode, if_false]
              exact .refused hbody hstatus rfl hcode

/-- Each of the two requests is tried once and never repeated, and both read the same answer in the
same way: how is told by `ReadBoth` from the answer alone, whatever the number, the language, the
code and the network are. -/
theorem answers_read_alike (client : VerificationClient) (phone : PhoneNumber) (locale : Locale)
    (code : VerificationCode) :
    Http.TriesOnce (fun _ net => client.sendCode net phone locale)
      (client.sendDraft phone locale) ∧
    Http.TriesOnce (fun _ net => client.verifyCode net phone code)
      (client.verifyDraft phone code) ∧
    ∀ answer, ∃ sent verified, ReadBoth answer sent verified ∧
      (∀ (σ : Type) (net : Http.Network σ) (w : σ),
        ((net.exchange (client.sendDraft phone locale)).run w).value = answer →
          ((client.sendCode net phone locale).run w).value = sent) ∧
      ∀ (σ : Type) (net : Http.Network σ) (w : σ),
        ((net.exchange (client.verifyDraft phone code)).run w).value = answer →
          ((client.verifyCode net phone code).run w).value = verified := by
  refine ⟨(posts_sendCode client phone locale).triesOnce,
    (posts_verifyCode client phone code).triesOnce, fun answer => ?_⟩
  refine ⟨_, _, readBoth_readAnswer client.sendUrl client.verifyUrl answer () (), ?_, ?_⟩
  · rintro σ net w rfl
    rw [value_sendCode, value_readAnswer_eq]
  · rintro σ net w rfl
    rw [value_verifyCode, value_readAnswer_eq]

/-- A service at some host. -/
def nearbyClient : VerificationClient :=
  ⟨"http://a/send", "http://a/verify"⟩

/-- A rate limit with two waits, the first of which counts. -/
def limitedTwice : Response :=
  ⟨429, [("retry-after", "120"), ("Retry-After", "5")],
    some (Text.Utf8.encode "error:ratelimit\n")⟩

/-- What a draft comes to if it is answered by the rate limit. -/
def limitedAnswer (d : Http.Draft) : Except Fault Response :=
  ((Http.Network.scripted.exchange d).run [.response limitedTwice]).value

/-- Who asks for a code is told to wait, who submits one is not told for how long. -/
theorem answers_read_alike_limited :
    limitedAnswer (nearbyClient.sendDraft ⟨"+31612345678", none⟩ .nl) = .ok limitedTwice ∧
      limitedAnswer (nearbyClient.verifyDraft ⟨"+31612345678", none⟩ ⟨"AB"⟩) =
        .ok limitedTwice ∧
      ReadBoth (.ok limitedTwice) (.error (.rateLimited (some ⟨120⟩)))
        (.error (.rateLimited none)) := by
  obtain ⟨-, -, hread⟩ :=
    answers_read_alike nearbyClient ⟨"+31612345678", none⟩ .nl ⟨"AB"⟩
  obtain ⟨sent, verified, hboth, hsend, hverify⟩ := hread (.ok limitedTwice)
  have hsendAnswer :
      limitedAnswer (nearbyClient.sendDraft ⟨"+31612345678", none⟩ .nl) = .ok limitedTwice := by
    decide +kernel
  have hverifyAnswer :
      limitedAnswer (nearbyClient.verifyDraft ⟨"+31612345678", none⟩ ⟨"AB"⟩) =
        .ok limitedTwice := by
    decide +kernel
  have hsent : sent = .error (.rateLimited (some ⟨120⟩)) := by
    rw [← hsend _ _ _ hsendAnswer]
    decide +kernel
  have hverified : verified = .error (.rateLimited none) := by
    rw [← hverify _ _ _ hverifyAnswer]
    decide +kernel
  rw [hsent, hverified] at hboth
  exact ⟨hsendAnswer, hverifyAnswer, hboth⟩

end VerificationClient

end PhoneVerification
