import PhoneVerification.Proofs.Text.Mark
import PhoneVerification.Proofs.Text.Strip
import PhoneVerification.Proofs.Verification.Answers

/-!
# Names of errors

The codes of the service and the keys of the messages are named independently. What follows the mark
in an error body is a code exactly if the whole body is a key (`ofName?_mark_append`), so a body can
be read as the key of its own message. A failure that is put in words again is read as it was.
-/

namespace PhoneVerification

namespace ErrorCode

/-- The message of a code has the name of the code behind the mark. -/
theorem name_messageKey (code : ErrorCode) :
    Named.name code.messageKey = mark ++ Named.name code := by
  cases code with
  | _ => rfl

/-- Every key that has the mark is the key of a code. -/
theorem exists_messageKey_eq {key : MessageKey} (h : mark.toList <+: (Named.name key).toList) :
    ∃ code : ErrorCode, code.messageKey = key := by
  have hall : ∀ key ∈ (Named.all : List MessageKey),
      mark.toList <+: (Named.name key).toList →
        key ∈ (Named.all : List ErrorCode).map messageKey := by
    decide +kernel
  obtain ⟨code, -, hcode⟩ := List.mem_map.mp (hall key (Named.mem_all key) h)
  exact ⟨code, hcode⟩

/-- Behind the mark, the names of the keys are the names of the codes. -/
theorem ofName?_mark_append (rest : String) :
    (Named.ofName? (mark ++ rest) : Option MessageKey) =
      (Named.ofName? rest : Option ErrorCode).map messageKey := by
  ext key
  rw [Named.ofName?_eq_some_iff, Option.map_eq_some_iff]
  constructor
  · intro hkey
    have hmark : mark.toList <+: (Named.name key).toList := by
      rw [← hkey, String.toList_append]
      exact List.prefix_append _ _
    obtain ⟨code, rfl⟩ := exists_messageKey_eq hmark
    rw [name_messageKey, String.append_right_inj] at hkey
    exact ⟨code, Named.ofName?_eq_some_iff.mpr hkey, rfl⟩
  · rintro ⟨code, hcode, rfl⟩
    rw [name_messageKey, Named.ofName?_eq_some_iff.mp hcode]

/-- The message for a body is the one whose key the body is, if it has the mark and is a key. -/
theorem messageKey_ofBody (body : String) :
    (ofBody body).messageKey =
      if mark.toList <+: (Text.trim body).toList then
        (Named.ofName? (Text.trim body)).getD .errorInternal
      else .errorInternal := by
  simp only [ofBody, ← Text.isSome_after?_iff]
  cases hrest : Text.after? mark (Text.trim body) with
  | none => rfl
  | some rest =>
      rw [Text.after?_eq_some_iff.mp hrest, ofName?_mark_append, Option.bind_some,
        if_pos Option.isSome_some]
      cases (Named.ofName? rest : Option ErrorCode) with
      | none => rfl
      | some code => rfl

/-- No blank stands in the name of an error, so trimming leaves its body as it is. -/
theorem isBlank_of_mem_name (code : ErrorCode) :
    ∀ c ∈ (mark ++ Named.name code).toList, Text.isBlank c = false := by
  have hall : (mark ++ Named.name code).toList.all (fun c => !Text.isBlank c) = true := by
    cases code with
    | _ => rfl
  intro c hc
  simpa using List.all_eq_true.mp hall c hc

/-- A code behind the mark is read back. -/
theorem ofBody_mark_append (code : ErrorCode) : ofBody (mark ++ Named.name code) = code := by
  have hafter : Text.after? mark (mark ++ Named.name code) = some (Named.name code) :=
    Text.after?_eq_some_iff.mpr rfl
  rw [ofBody, Text.trim_eq_self (isBlank_of_mem_name code), hafter, Option.bind_some,
    Named.ofName?_name, Option.getD_some]

/-- Blanks around a body do not matter. -/
theorem ofBody_append {before after : String} (hbefore : ∀ c ∈ before.toList, Text.isBlank c = true)
    (hafter : ∀ c ∈ after.toList, Text.isBlank c = true) (body : String) :
    ofBody (before ++ body ++ after) = ofBody body := by
  rw [ofBody, ofBody, Text.trim_append hbefore hafter]

end ErrorCode

namespace ApiFailure

theorem code_ofCode (code : ErrorCode) (wait : Option String) : (ofCode code wait).code = code := by
  unfold ofCode
  split
  next hcode => rw [hcode, ApiFailure.code]
  next => rfl

theorem code_decode (body : String) (wait : Option String) :
    (decode body wait).code = ErrorCode.ofBody body := by
  rw [decode_eq_ofCode, code_ofCode]

/-- A failure in words is read with its own code, and with whatever wait comes with it. -/
theorem decode_text (failure : ApiFailure) (wait : Option String) :
    decode failure.text wait = ofCode failure.code wait := by
  rw [decode_eq_ofCode, text, ErrorCode.ofBody_mark_append]

/-- A failure that was decoded is decoded from its words with the wait it came with. -/
theorem decode_text_decode (body : String) (wait : Option String) :
    decode (decode body wait).text wait = decode body wait := by
  rw [decode_text, code_decode, ← decode_eq_ofCode]

end ApiFailure

/-- Blanks around a header do not matter. -/
theorem RetryWindow.ofHeader?_append {before after : String}
    (hbefore : ∀ c ∈ before.toList, Text.isBlank c = true)
    (hafter : ∀ c ∈ after.toList, Text.isBlank c = true) (header : String) :
    ofHeader? (before ++ header ++ after) = ofHeader? header := by
  rw [ofHeader?, ofHeader?, Text.trim_append hbefore hafter]

namespace ErrorCode

/-- The codes and the keys of their messages are one scheme of names. The message for a body is the
one that the body without its blanks names, if it has the mark of an error and names one, and the
one for an internal error otherwise. Blanks around a body or a header do not matter. A failure that
was decoded has the same code when its words are decoded again, and is the same failure if they come
with the same header. -/
theorem names_one_scheme :
    (∀ body, (ofBody body).messageKey =
      if mark.toList <+: (Text.trim body).toList then
        (Named.ofName? (Text.trim body)).getD .errorInternal
      else .errorInternal) ∧
    (∀ before after : String, (∀ c ∈ before.toList, Text.isBlank c = true) →
      (∀ c ∈ after.toList, Text.isBlank c = true) → ∀ body header : String,
        ofBody (before ++ body ++ after) = ofBody body ∧
        (∀ wait, ApiFailure.decode (before ++ body ++ after) wait = .decode body wait) ∧
        ApiFailure.decode body (some (before ++ header ++ after)) =
          .decode body (some header)) ∧
    ∀ body wait, (∀ wait',
        (ApiFailure.decode (ApiFailure.decode body wait).text wait').code =
          (ApiFailure.decode body wait).code) ∧
      ApiFailure.decode (ApiFailure.decode body wait).text wait = .decode body wait := by
  refine ⟨messageKey_ofBody, ?_, ?_⟩
  · intro before after hbefore hafter body header
    refine ⟨ofBody_append hbefore hafter body, fun wait => ?_, ?_⟩
    · rw [ApiFailure.decode, ApiFailure.decode, ofBody_append hbefore hafter]
    · rw [ApiFailure.decode, ApiFailure.decode, Option.bind_some, Option.bind_some,
        RetryWindow.ofHeader?_append hbefore hafter]
  · intro body wait
    refine ⟨fun wait' => ?_, ApiFailure.decode_text_decode body wait⟩
    rw [ApiFailure.decode_text, ApiFailure.code_ofCode]

/-- A rate limit between blanks, with a wait between blanks. -/
theorem names_one_scheme_between_blanks :
    (∀ c ∈ "\u3000\n".toList, Text.isBlank c = true) ∧ (∀ c ∈ "\t".toList, Text.isBlank c = true) ∧
      ofBody ("\u3000\n" ++ "error:ratelimit" ++ "\t") = ofBody "error:ratelimit" ∧
      (∀ wait, ApiFailure.decode ("\u3000\n" ++ "error:ratelimit" ++ "\t") wait =
        .decode "error:ratelimit" wait) ∧
      ApiFailure.decode "error:ratelimit" (some ("\u3000\n" ++ "60" ++ "\t")) =
        .rateLimited (some ⟨60⟩) := by
  obtain ⟨-, hblanks, -⟩ := names_one_scheme
  have hbefore : ∀ c ∈ "\u3000\n".toList, Text.isBlank c = true :=
    List.all_eq_true.mp (by decide)
  have hafter : ∀ c ∈ "\t".toList, Text.isBlank c = true := List.all_eq_true.mp (by decide)
  obtain ⟨hbody, hdecode, hheader⟩ :=
    hblanks "\u3000\n" "\t" hbefore hafter "error:ratelimit" "60"
  have hwait : ApiFailure.decode "error:ratelimit" (some "60") = .rateLimited (some ⟨60⟩) := by
    decide +kernel
  exact ⟨hbefore, hafter, hbody, hdecode, hheader.trans hwait⟩

end ErrorCode

end PhoneVerification
