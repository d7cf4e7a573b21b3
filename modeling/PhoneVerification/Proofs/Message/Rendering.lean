import PhoneVerification.Message.Render
import PhoneVerification.Proofs.Message.Template
import PhoneVerification.Proofs.Text.Digits

/-!
# Rendered messages

A message is its template with the mark of the gap replaced. No mark is left in what a failed request is
answered by, and nothing is lost: the text for a rate limit tells the number and the unit of the wait,
and the text after a message was sent tells the sender as the service named it (`renders_without_loss`).
-/

namespace PhoneVerification

/-- The key for exactly one of a unit. -/
def WaitUnit.one : WaitUnit → MessageKey
  | seconds => .second
  | minutes => .minute
  | hours => .hour

/-- The key for any other number of a unit. -/
def WaitUnit.many : WaitUnit → MessageKey
  | seconds => .seconds
  | minutes => .minutes
  | hours => .hours

/-- A rate limit is never told as a mere refusal. -/
theorem ApiFailure.decode_ne_rejected (body : String) (header : Option String) :
    decode body header ≠ .rejected .rateLimit := by
  unfold decode
  cases ErrorCode.ofBody body <;> simp

namespace MessageKey

theorem gap?_errorRatelimit : errorRatelimit.gap? = some .time :=
  rfl

theorem gap?_smsSentFrom : smsSentFrom.gap? = some .number :=
  rfl

end MessageKey

namespace Message

open MessageKey MessageTable

variable (l : Locale) {k : MessageKey} {gap : Gap} {value : String} {n : UInt64} {w w' : RetryWindow}
  {body x : String}

/-! ## Texts without marks -/

/-- A key with a gap has a template with this gap. -/
theorem exists_template (h : k.gap? = some gap) : ∃ before after,
    template l k = .gapped before gap after ∧ '%' ∉ before.toList ∧ '%' ∉ after.toList := by
  obtain ⟨before, after, htemplate⟩ :=
    Template.eq_gapped_of_gap? ((gap?_template l k).trans h)
  have hunmarked := unmarked_template l k
  rw [htemplate] at hunmarked
  exact ⟨before, after, htemplate, hunmarked⟩

theorem not_mem_text (h : k.gap? = none) : '%' ∉ (text l k).toList := by
  have hunmarked := unmarked_template l k
  have hgap := (gap?_template l k).trans h
  unfold text
  cases htemplate : template l k with
  | plain s =>
      rw [htemplate] at hunmarked
      exact hunmarked
  | gapped before gap after =>
      rw [htemplate] at hgap
      cases hgap

theorem not_mem_fill (h : k.gap? = some gap) (hvalue : '%' ∉ value.toList) :
    '%' ∉ ((template l k).fill gap value).toList := by
  obtain ⟨before, after, htemplate, hbefore, hafter⟩ := exists_template l h
  rw [htemplate, Template.fill_gapped, String.toList_append, String.toList_append]
  simp only [List.mem_append, hbefore, hvalue, hafter, or_self, not_false_eq_true]

/-- To fill the gap of a key is to replace its mark. -/
theorem fill_eq_replace (h : k.gap? = some gap) (value : String) :
    (template l k).fill gap value = Text.replace gap.mark value (text l k) := by
  obtain ⟨before, after, htemplate, hunmarked⟩ := exists_template l h
  rw [text, htemplate, Template.replace_raw hunmarked]

/-- The value in a gap is told by the text. -/
theorem eq_of_fill_eq {value' : String} (h : k.gap? = some gap)
    (heq : (template l k).fill gap value = (template l k).fill gap value') : value = value' := by
  obtain ⟨before, after, htemplate, -⟩ := exists_template l h
  rw [htemplate] at heq
  exact Template.fill_injective heq

/-! ## Waits -/

theorem waitKey_eq (n : UInt64) (unit : WaitUnit) :
    waitKey n unit = if n = 1 then unit.one else unit.many := by
  cases unit <;> rfl

theorem gap?_waitKey (n : UInt64) (unit : WaitUnit) : (waitKey n unit).gap? = some .count := by
  rw [waitKey_eq]
  cases unit <;> split <;> rfl

/-- The words for one number of different units are different. -/
theorem unit_eq_of_template {unit unit' : WaitUnit}
    (h : template l (waitKey n unit) = template l (waitKey n unit')) : unit = unit' := by
  have hone : template l unit.one = template l unit'.one → unit = unit' := by
    cases l <;> cases unit <;> cases unit' <;> decide
  have hmany : template l unit.many = template l unit'.many → unit = unit' := by
    cases l <;> cases unit <;> cases unit' <;> decide
  rw [waitKey_eq, waitKey_eq] at h
  split at h
  · exact hone h
  · exact hmany h

/-- A wait is written as the digits of its number and a word for its unit. -/
theorem exists_word (w : RetryWindow) : ∃ word : String,
    template l (waitKey w.scaled.1 w.scaled.2) = .gapped "" .count word ∧
      (∀ c ∈ word.toList.head?, Text.isAsciiDigit c = false) ∧
      (waitTime l w).toList = Nat.toDigits 10 w.scaled.1.toNat ++ word.toList := by
  have hword : ∀ (n : UInt64) (unit : WaitUnit), ∃ word : String,
      template l (waitKey n unit) = .gapped "" .count word ∧ word.toList.head? = some ' ' := by
    intro n unit
    rw [waitKey_eq]
    cases l <;> cases unit <;> split <;> exact ⟨_, rfl, rfl⟩
  obtain ⟨word, htemplate, hspace⟩ := hword w.scaled.1 w.scaled.2
  refine ⟨word, htemplate, ?_, ?_⟩
  · intro c hc
    obtain rfl : ' ' = c := Option.some.inj (hspace.symm.trans hc)
    rfl
  · have hwait : waitTime l w = (template l (waitKey w.scaled.1 w.scaled.2)).fill .count
        (toString w.scaled.1.toNat) := rfl
    rw [hwait, htemplate, Template.fill_gapped, Nat.toString_eq_ofList_toDigits]
    simp

/-- A wait is told by its text: the number ends where the word begins. -/
theorem scaled_eq_of_waitTime (h : waitTime l w = waitTime l w') : w.scaled = w'.scaled := by
  obtain ⟨word, htemplate, hword, hwait⟩ := exists_word l w
  obtain ⟨word', htemplate', hword', hwait'⟩ := exists_word l w'
  have hchars : Nat.toDigits 10 w.scaled.1.toNat ++ word.toList =
      Nat.toDigits 10 w'.scaled.1.toNat ++ word'.toList := by
    rw [← hwait, ← hwait', h]
  obtain ⟨hnumber, hsame⟩ := Text.toDigits_append_inj hword hword' hchars
  have hvalue : w.scaled.1 = w'.scaled.1 := UInt64.toNat_inj.mp hnumber
  obtain rfl : word = word' := String.toList_injective hsame
  rw [← htemplate', hvalue] at htemplate
  exact Prod.ext hvalue (unit_eq_of_template l htemplate)

theorem not_mem_waitTime (w : RetryWindow) : '%' ∉ (waitTime l w).toList := by
  refine not_mem_fill l (gap?_waitKey _ _) ?_
  rw [Nat.toString_eq_ofList_toDigits, String.toList_ofList]
  intro hmem
  cases Text.isAsciiDigit_of_mem_toDigits _ hmem

/-- The text without a wait does not begin with a digit, as every wait does. -/
theorem waitTime_ne_retryLater (w : RetryWindow) : waitTime l w ≠ text l .retryLater := by
  intro h
  obtain ⟨word, -, -, hwait⟩ := exists_word l w
  have hne : Nat.toDigits 10 w.scaled.1.toNat ≠ [] := Nat.toDigits_ne_nil
  obtain ⟨d, digits, hdigits⟩ := List.exists_cons_of_ne_nil hne
  have hdigit : Text.isAsciiDigit d = true :=
    Text.isAsciiDigit_of_mem_toDigits d (by rw [hdigits]; exact List.mem_cons_self)
  rw [h, hdigits] at hwait
  have hfirst : ∀ c ∈ (text l .retryLater).toList.head?, Text.isAsciiDigit c = false := by
    intro c hc
    cases l with
    | en =>
        obtain rfl : 'a' = c := Option.some.inj hc
        rfl
    | nl =>
        obtain rfl : 'e' = c := Option.some.inj hc
        rfl
  rw [hwait] at hfirst
  rw [hfirst d rfl] at hdigit
  cases hdigit

/-! ## Rate limits -/

theorem not_mem_rateLimited (window : Option RetryWindow) :
    '%' ∉ (rateLimited l window).toList := by
  refine not_mem_fill l gap?_errorRatelimit ?_
  cases window with
  | none => exact not_mem_text l rfl
  | some w => exact not_mem_waitTime l w

/-- Of a wait its number and its unit are told, and nothing else. -/
theorem rateLimited_eq_iff :
    rateLimited l (some w) = rateLimited l (some w') ↔ w.scaled = w'.scaled := by
  constructor
  · intro h
    exact scaled_eq_of_waitTime l (eq_of_fill_eq l gap?_errorRatelimit h)
  · intro h
    rw [rateLimited, rateLimited, waitTime, waitTime, h]

theorem rateLimited_ne_none (w : RetryWindow) : rateLimited l (some w) ≠ rateLimited l none := by
  intro h
  exact waitTime_ne_retryLater l w (eq_of_fill_eq l gap?_errorRatelimit h)

/-- The texts for the number of the wait and for the wait are put in the place of their marks. -/
theorem rateLimited_eq_replace (w : RetryWindow) : rateLimited l (some w) =
    Text.replace "%time%" (Text.replace "%n%" (toString w.scaled.1.toNat)
      (text l (if w.scaled.1 = 1 then w.scaled.2.one else w.scaled.2.many)))
      (text l .errorRatelimit) := by
  rw [← waitKey_eq]
  calc rateLimited l (some w)
      = (template l .errorRatelimit).fill .time (waitTime l w) := rfl
    _ = Text.replace "%time%" (waitTime l w) (text l .errorRatelimit) :=
        fill_eq_replace l gap?_errorRatelimit _
    _ = Text.replace "%time%" (Text.replace "%n%" (toString w.scaled.1.toNat)
          (text l (waitKey w.scaled.1 w.scaled.2))) (text l .errorRatelimit) :=
        congrArg (Text.replace "%time%" · _) (fill_eq_replace l (gap?_waitKey _ _) _)

/-- No mark is left in what a failed request is answered by. -/
theorem not_mem_failure (body : String) (header : Option String) :
    '%' ∉ (failure l (.decode body header)).toList := by
  unfold ApiFailure.decode
  cases ErrorCode.ofBody body with
  | rateLimit => exact not_mem_rateLimited l _
  | _ => exact not_mem_text l rfl

/-! ## Senders -/

/-- The body says `OK:` and then who sends the message, with blanks around each. -/
def NamesSender (body sender : String) : Prop :=
  sender ≠ "" ∧ ∃ rest, Text.trim body = "OK:" ++ rest ∧ Text.trim rest = sender

theorem sender_ofBody_eq_some_iff :
    (SmsDispatch.ofBody body).sender = some x ↔ NamesSender body x := by
  simp only [SmsDispatch.ofBody, SmsDispatch.mark, Option.filter_eq_some_iff,
    Option.map_eq_some_iff, Text.after?_eq_some_iff, NamesSender]
  rw [and_comm]
  exact and_congr_left' (by simp)

/-- The text with a sender and the one without begin differently. -/
theorem smsSent_some_ne (sender : String) : smsSent l (some sender) ≠ smsSent l none := by
  cases l with
  | en => exact Template.fill_ne (by decide +kernel) sender
  | nl => exact Template.fill_ne (by decide +kernel) sender

theorem smsSent_ofBody_eq_none_iff :
    smsSent l (SmsDispatch.ofBody body).sender = smsSent l none ↔ ¬ ∃ x, NamesSender body x := by
  constructor
  · rintro h ⟨x, hx⟩
    rw [sender_ofBody_eq_some_iff.mpr hx] at h
    exact smsSent_some_ne l x h
  · intro h
    have hnone : (SmsDispatch.ofBody body).sender = none := by
      rw [Option.eq_none_iff_forall_ne_some]
      intro x hx
      exact h ⟨x, sender_ofBody_eq_some_iff.mp hx⟩
    rw [hnone]

theorem smsSent_ofBody_eq_some_iff :
    smsSent l (SmsDispatch.ofBody body).sender = smsSent l (some x) ↔ NamesSender body x := by
  rw [← sender_ofBody_eq_some_iff]
  cases (SmsDispatch.ofBody body).sender with
  | none => simp [(smsSent_some_ne l x).symm]
  | some sender =>
      constructor
      · intro h
        exact congrArg some (eq_of_fill_eq l gap?_smsSentFrom h)
      · intro h
        rw [h]

/-- Messages are rendered without a mark left in them, and without a loss. What a failed request is
answered by has no percent sign, as the template for a rate limit is never shown as it stands. The text
for a rate limit is the template with the number of the wait and its unit filled in, in the singular for
exactly one. It tells both of them, and it is never the text without a wait. The text after a message was
sent names the sender exactly if the service did, character for character. -/
theorem renders_without_loss (l : Locale) :
    (∀ body header, '%' ∉ (failure l (.decode body header)).toList ∧
      ApiFailure.decode body header ≠ .rejected .rateLimit) ∧
    '%' ∈ (failure l (.rejected .rateLimit)).toList ∧
    (∀ w w', rateLimited l (some w) = rateLimited l (some w') ↔ w.scaled = w'.scaled) ∧
    (∀ w, rateLimited l (some w) ≠ rateLimited l none ∧ rateLimited l (some w) =
      Text.replace "%time%" (Text.replace "%n%" (toString w.scaled.1.toNat)
        (text l (if w.scaled.1 = 1 then w.scaled.2.one else w.scaled.2.many)))
        (text l .errorRatelimit)) ∧
    ∃ before after, text l .smsSentFrom = before ++ "%number%" ++ after ∧
      '%' ∉ before.toList ∧ '%' ∉ after.toList ∧
      ∀ body, (∀ x, smsSent l (SmsDispatch.ofBody body).sender = before ++ x ++ after ↔
          NamesSender body x) ∧
        (smsSent l (SmsDispatch.ofBody body).sender = text l .smsSent ↔
          ¬ ∃ x, NamesSender body x) := by
  refine ⟨?_, ?_, fun w w' => rateLimited_eq_iff l, ?_, ?_⟩
  · intro body header
    exact ⟨not_mem_failure l body header, ApiFailure.decode_ne_rejected body header⟩
  · cases l <;> decide +kernel
  · intro w
    exact ⟨rateLimited_ne_none l w, rateLimited_eq_replace l w⟩
  · obtain ⟨before, after, htemplate, hbefore, hafter⟩ := exists_template l gap?_smsSentFrom
    have hraw : text l .smsSentFrom = before ++ "%number%" ++ after := by
      rw [text, htemplate]
      rfl
    have hsome : ∀ x, smsSent l (some x) = before ++ x ++ after := by
      intro x
      rw [smsSent, htemplate, Template.fill_gapped]
    refine ⟨before, after, hraw, hbefore, hafter, fun body => ⟨?_, smsSent_ofBody_eq_none_iff l⟩⟩
    intro x
    rw [← hsome]
    exact smsSent_ofBody_eq_some_iff l

/-- A sender that looks like a mark is shown as it is. -/
example : smsSent .en (SmsDispatch.ofBody " OK: %number% ").sender =
    "Code has been sent! You will receive a message from number %number%." := by
  decide +kernel

end Message

end PhoneVerification
