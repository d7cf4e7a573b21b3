import PhoneVerification.Proofs.Flow.FreshAttempt

/-!
# A code is the same however it is typed

Blanks around a code and the case of its letters are gone once it is normalized, and a normalized code
stays as it is. Only a text of nothing but blanks has an empty code, so that at the code the service is
asked exactly once about every other text, and never about such a one.
-/

namespace PhoneVerification

namespace VerificationCode

/-- Neither blanks around a text nor the case of its letters make a difference to its code. -/
theorem normalize_eq_of_sameAscii {before after t u : String}
    (hbefore : ∀ x ∈ before.toList, Text.isBlank x = true)
    (hafter : ∀ x ∈ after.toList, Text.isBlank x = true) (h : Text.sameAscii t u = true) :
    normalize (before ++ u ++ after) = normalize t := by
  rw [normalize, normalize, Text.trim_append hbefore hafter, Text.uppercase_trim_of_sameAscii h]

/-- A normalized code is normalized to itself. -/
theorem normalize_text (raw : String) : normalize (normalize raw).text = normalize raw := by
  have htrim : Text.trim (Text.trim raw) = Text.trim raw := by
    rw [← String.toList_inj, Text.toList_trim, Text.toList_trim, Text.strip_strip]
  rw [normalize, normalize, Text.trim_uppercase htrim, Text.uppercase_uppercase]

theorem isEmpty_normalize_iff {raw : String} :
    (normalize raw).isEmpty = true ↔ ∀ x ∈ raw.toList, Text.isBlank x = true := by
  rw [isEmpty_normalize, Text.isBlankText_eq_true_iff]

end VerificationCode

namespace Flow

variable {σ : Type} {f g : Flow} {xs : List Exchange} {reply : Reply} {raw : String}

/-- An exchange of a code asks about it once, whatever the answer is. -/
theorem Verifies.countP_isVerify {phone : PhoneNumber} (h : Verifies f phone raw xs g) :
    xs.countP Exchange.isVerify = 1 := by
  cases h with
  | refused failure => rfl
  | issued token outcome => rfl

/-- At the code a text of nothing but blanks is not asked about. -/
theorem Path.eq_nil_of_blank (hpath : Path f (.submitCode raw) xs reply g)
    (hraw : Text.isBlankText raw = true) : xs = [] := by
  cases hpath with
  | codeTried hstep hphone hblank hverifies => cases hraw.symm.trans hblank
  | _ => rfl

/-- At the code every other text is asked about once, for the number of the flow. -/
theorem Path.countP_isVerify {c : Config} {asked : List Exchange} (h : Consistent c asked f)
    (hstep : f.step = .token) (hpath : Path f (.submitCode raw) xs reply g)
    (hraw : Text.isBlankText raw = false) :
    xs.countP Exchange.isVerify = 1 ∧ ∃ phone answer, f.phone = some phone ∧
      .verify phone (.normalize raw) answer ∈ xs := by
  cases hpath with
  | outOfStep hbound hout => cases hbound; exact absurd hstep hout
  | numberless action hbound hat hne hphone =>
      have hsome := h.phone (hat ▸ hne)
      simp [hphone] at hsome
  | blankWarned hat hphone hblank => cases hraw.symm.trans hblank
  | @codeTried _ _ phone hat hphone _ hblank hverifies =>
      obtain ⟨answer, rest, hasked⟩ := hverifies.exists_eq_cons
      exact ⟨hverifies.countP_isVerify, phone, answer, hphone, by simp [hasked]⟩

/-- However a code is typed, in small letters or capitals, with or without blanks around it, it is the
same code, and a normalized code stays as it is. The code is empty if and only if nothing but blanks
was typed: wherever a flow stands at the code, the service is then not asked, and it is asked exactly
once about every other text. -/
theorem code_however_typed (s : Services σ) (c : Config) :
    (∀ before t u after : String, (∀ x ∈ before.toList, Text.isBlank x = true) →
      (∀ x ∈ after.toList, Text.isBlank x = true) → Text.sameAscii t u = true →
      VerificationCode.normalize (before ++ u ++ after) = .normalize t) ∧
    (∀ raw, VerificationCode.normalize (VerificationCode.normalize raw).text = .normalize raw) ∧
    (∀ raw, (VerificationCode.normalize raw).isEmpty = true ↔
      ∀ x ∈ raw.toList, Text.isBlank x = true) ∧
    ∀ w, Reached s c w → w.flow.step = .token → ∀ raw,
      let asked := Event.exchanges ((perform s (.submitCode raw)).run w).events
      ((∃ x ∈ raw.toList, Text.isBlank x = false) → asked.countP Exchange.isVerify = 1 ∧
        ∃ phone answer, w.flow.phone = some phone ∧
          .verify phone (.normalize raw) answer ∈ asked) ∧
      ((∀ x ∈ raw.toList, Text.isBlank x = true) → asked = []) := by
  refine ⟨fun before t u after hbefore hafter => ?_, VerificationCode.normalize_text,
    fun raw => VerificationCode.isEmpty_normalize_iff, fun w hw hstep raw => ?_⟩
  · exact VerificationCode.normalize_eq_of_sameAscii hbefore hafter
  · obtain ⟨asked, hf⟩ := hw.consistent
    have hpath := path_turn s (.submitCode raw) w
    refine ⟨fun hletter => ?_, fun hblank => ?_⟩
    · refine hpath.countP_isVerify hf hstep ?_
      obtain ⟨x, hx, hletter⟩ := hletter
      rw [← Bool.not_eq_true, Text.isBlankText_eq_true_iff]
      intro hall
      exact Bool.false_ne_true (hletter.symm.trans (hall x hx))
    · exact hpath.eq_nil_of_blank (Text.isBlankText_eq_true_iff.mpr hblank)

/-- A code with a letter of two capitals, typed between blanks and in capitals, after another code was
refused. -/
theorem code_however_typed_in_capitals :
    ((∀ x ∈ "\t".toList, Text.isBlank x = true) ∧ (∀ x ∈ "\u3000\n".toList, Text.isBlank x = true) ∧
      Text.sameAscii "maß-1" "MAß-1" = true ∧
      VerificationCode.normalize ("\t" ++ "MAß-1" ++ "\u3000\n") = .normalize "maß-1") ∧
    (Reached (.scripted .standard) { confirmStep := false } refusedOnce ∧
      refusedOnce.flow.step = .token ∧
      (Event.exchanges ((perform (.scripted .standard) (.submitCode " maß-1")).run
        refusedOnce).events).countP Exchange.isVerify = 1 ∧
      Event.exchanges ((perform (.scripted .standard) (.submitCode " \u3000")).run
        refusedOnce).events = []) := by
  have hreached : Reached (.scripted .standard) { confirmStep := false } refusedOnce :=
    reached_scriptedAfter _ _
  have hstep : refusedOnce.flow.step = .token := by decide +kernel
  have hbefore : ∀ x ∈ "\t".toList, Text.isBlank x = true := List.all_eq_true.mp (by decide)
  have hafter : ∀ x ∈ "\u3000\n".toList, Text.isBlank x = true := List.all_eq_true.mp (by decide)
  have hsame : Text.sameAscii "maß-1" "MAß-1" = true := by decide +kernel
  obtain ⟨hcode, -, -, hasked⟩ :=
    code_however_typed (.scripted .standard) { confirmStep := false }
  obtain ⟨honce, -⟩ := hasked _ hreached hstep " maß-1"
  obtain ⟨-, hnever⟩ := hasked _ hreached hstep " \u3000"
  refine ⟨⟨hbefore, hafter, hsame, hcode _ _ _ _ hbefore hafter hsame⟩, hreached, hstep, ?_, ?_⟩
  · exact (honce ⟨'m', by decide, by decide⟩).1
  · exact hnever (List.all_eq_true.mp (by decide))

end Flow

end PhoneVerification
