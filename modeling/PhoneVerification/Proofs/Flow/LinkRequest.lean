import PhoneVerification.Flow.Script
import PhoneVerification.Proofs.Flow.Refusal
import PhoneVerification.Proofs.Verification.LinkGrammar

/-!
# The request of a link

A link is followed if it has a number and a code that is not blank, and is ignored otherwise. Its code
is asked about at once. The code is never empty then, but the number is empty if it was nothing but
blanks: it is trimmed for the request, and not before.
-/

namespace PhoneVerification.Flow

variable {σ : Type} {f g : Flow} {xs : List Exchange}

/-- A link is followed by the request to exchange its code. -/
theorem Path.exists_verify {text : String} {link : VerifyLink} {reply : Reply}
    (hlink : VerifyLink.parse? text = some link) (hpath : Path f (.openLink text) xs reply g) :
    ∃ answer rest, xs = .verify (.unchecked link.phone) (.normalize link.code) answer :: rest := by
  cases hpath with
  | outOfStep hbound hstep => cases hbound
  | numberless action hbound hstep hne hphone => cases hbound
  | linkIgnored hnone => cases hlink.symm.trans hnone
  | linkFollowed hsome hverifies =>
      obtain rfl := Option.some.inj (hlink.symm.trans hsome)
      exact hverifies.exists_eq_cons

/-- The blanks behind a code do not matter for its request. -/
theorem normalize_of_dropTail {code code' : String}
    (h : code'.toList = Text.dropTail Text.isBlank code.toList) :
    VerificationCode.normalize code' = .normalize code := by
  rw [VerificationCode.normalize, VerificationCode.normalize, Text.trim, Text.trim, h,
    Text.strip_dropTail]

/-- A link is followed exactly if it has a number and a code that is not blank. The request carries its
code, which is not empty, and its number, which is empty exactly if nothing but blanks is in it. Without
one of them the link is ignored: nothing is asked, and everything stays as it was. -/
theorem link_requests (s : Services σ) (w : World σ) (text : String) :
    let o := (perform s (.openLink text)).run w
    (o.value = .linkOpened true → ∃ phone code, VerifyLink.Carries text phone code ∧ phone ≠ "" ∧
      Text.isBlankText code = false) ∧
    ∀ phone code, VerifyLink.Carries text phone code →
      (phone ≠ "" → Text.isBlankText code = false → o.value = .linkOpened true ∧
        (∃ answer rest, Event.exchanges o.events =
          .verify (.unchecked phone) (.normalize code) answer :: rest) ∧
        (VerificationCode.normalize code).text ≠ "" ∧
        ((PhoneNumber.unchecked phone).e164 = "" ↔ ∀ c ∈ phone.toList, Text.isBlank c = true)) ∧
      (phone = "" ∨ Text.isBlankText code = true → o.value = .linkOpened false ∧ o.world = w ∧
        ∀ e ∈ o.events, e.isRecord = true) := by
  intro o
  have hvalue : o.value = .linkOpened (VerifyLink.parse? text).isSome :=
    (path_turn s (.openLink text) w).eq_linkOpened
  refine ⟨?_, fun phone code hcarries => ⟨?_, ?_⟩⟩
  · intro hopened
    rw [hvalue, Reply.linkOpened.injEq, Option.isSome_iff_exists] at hopened
    obtain ⟨link, hlink⟩ := hopened
    obtain ⟨code, hcarries⟩ := VerifyLink.exists_carries hlink
    exact ⟨link.phone, code, hcarries⟩
  · intro hphone hcode
    obtain ⟨link, hlink⟩ := hcarries.exists_parse? hphone hcode
    obtain ⟨rfl, htail⟩ := hcarries.parts_of_parse? hlink
    obtain ⟨answer, rest, hasked⟩ := (path_turn s (.openLink text) w).exists_verify hlink
    rw [normalize_of_dropTail htail] at hasked
    have hempty := VerificationCode.isEmpty_normalize code
    rw [hcode] at hempty
    refine ⟨by rw [hvalue, hlink]; rfl, ⟨answer, rest, hasked⟩, ?_, ?_⟩
    · intro hnil
      rw [VerificationCode.isEmpty, hnil] at hempty
      cases hempty
    · rw [← Text.isBlankText_eq_true_iff, Text.isBlankText, String.isEmpty_iff]
      rfl
  · intro hempty
    have hignored : o.value = .linkOpened false := by
      rw [hvalue, hcarries.parse?_eq_none hempty]
      rfl
    exact ⟨hignored, world_eq_of_isIdle s (.openLink text) w (congrArg Reply.isIdle hignored)⟩

/-- The number of a link with blanks around its parts is asked about without them. -/
theorem link_requests_trimmed :
    (VerifyLink.Carries "https://sms.example/#\t!verify: 12:ab \n" " 12" "ab \n" ∧ " 12" ≠ "" ∧
      Text.isBlankText "ab \n" = false) ∧
    ((perform (.scripted .standard) (.openLink "https://sms.example/#\t!verify: 12:ab \n")).run
      (opened {} {})).value = .linkOpened true ∧
    (∃ answer rest, Event.exchanges ((perform (.scripted .standard)
        (.openLink "https://sms.example/#\t!verify: 12:ab \n")).run (opened {} {})).events =
      .verify ⟨"12", none⟩ ⟨"AB"⟩ answer :: rest) := by
  have hcarries : VerifyLink.Carries "https://sms.example/#\t!verify: 12:ab \n" " 12" "ab \n" :=
    ⟨⟨['\t'], List.all_eq_true.mp (by decide), by decide⟩, by decide, by decide⟩
  obtain ⟨-, hlinks⟩ := link_requests (.scripted .standard) (opened {} {})
    "https://sms.example/#\t!verify: 12:ab \n"
  have hphone : " 12" ≠ "" := by decide
  have hcode : Text.isBlankText "ab \n" = false := by decide
  obtain ⟨hopened, hasked, -, -⟩ := (hlinks _ _ hcarries).1 hphone hcode
  exact ⟨⟨hcarries, hphone, hcode⟩, hopened, hasked⟩

/-- A number of nothing but blanks is asked about as an empty one. -/
theorem link_requests_without_number :
    VerifyLink.Carries "#!verify: :1" " " "1" ∧
    ((perform (.scripted .standard) (.openLink "#!verify: :1")).run (opened {} {})).value =
      .linkOpened true ∧
    Event.exchanges ((perform (.scripted .standard) (.openLink "#!verify: :1")).run
        (opened {} {})).events =
      [.verify ⟨"", none⟩ ⟨"1"⟩ (.ok ⟨"jwt"⟩),
        .issue ⟨"jwt"⟩ ⟨"https://irma.example.org", .en⟩ .success] :=
  ⟨⟨⟨[], by simp, by decide⟩, by decide, by decide⟩, rfl, rfl⟩

end PhoneVerification.Flow
