import PhoneVerification.Proofs.Verification.LinkCode

/-!
# The grammar of verification links

A link is read from its fragment, with the blanks around it dropped: `!verify`, a number and a code,
with a colon before each of the two and none in them (`parse?_eq_some_iff`). The blanks inside of the
fragment stay, so a number that is nothing but blanks is read as it is.
-/

namespace PhoneVerification.VerifyLink

variable {text : String} {link : VerifyLink} {phone code : String}

/-- The parts of a text that is split have no separator in them. -/
theorem not_mem_of_mem_splitOn {x : Char} {s part : List Char} (h : part ∈ s.splitOn x) :
    x ∉ part := by
  induction hlength : s.length using Nat.strong_induction_on generalizing s with
  | _ n ih =>
      by_cases hx : x ∈ s
      · obtain ⟨first, rest, rfl, hfirst⟩ := List.eq_append_cons_of_mem hx
        rw [List.splitOn_append_cons_self_of_not_mem hfirst, List.mem_cons] at h
        rcases h with rfl | h
        · exact hfirst
        · refine ih rest.length ?_ h rfl
          rw [← hlength]
          simp
          omega
      · rw [List.splitOn_eq_singleton hx, List.mem_singleton] at h
        rwa [h]

/-- What a stripped fragment says: the kind, a number and a code, each behind a colon. -/
structure Says (s : List Char) (link : VerifyLink) : Prop where
  eq : s = kind ++ ':' :: (link.phone.toList ++ ':' :: link.code.toList)
  phone_ne_nil : link.phone.toList ≠ []
  code_ne_nil : link.code.toList ≠ []
  phone_colon : ':' ∉ link.phone.toList
  code_colon : ':' ∉ link.code.toList

theorem splitOn_parts {phone code : List Char} (hphone : ':' ∉ phone) (hcode : ':' ∉ code) :
    (kind ++ ':' :: (phone ++ ':' :: code)).splitOn ':' = [kind, phone, code] := by
  have hkind : ':' ∉ kind := by decide
  rw [List.splitOn_append_cons_self_of_not_mem hkind,
    List.splitOn_append_cons_self_of_not_mem hphone, List.splitOn_eq_singleton hcode]

/-- A link is read exactly from what says it. -/
theorem parse?_eq_some_iff :
    parse? text = some link ↔ Says (Text.strip Text.isBlank (fragment text.toList)) link := by
  constructor
  · intro h
    obtain ⟨hfragment, hphone, hcode⟩ := fragment_of_parse? h
    unfold parse? at h
    split at h
    next k phone code hsplit =>
      split at h
      next hparts =>
        obtain rfl := Option.some.inj h
        have hcolon : ∀ part ∈ [k, phone, code], ':' ∉ part := by
          intro part hpart
          rw [← hsplit] at hpart
          exact not_mem_of_mem_splitOn hpart
        refine ⟨hfragment, hphone, hcode, ?_, ?_⟩
        · rw [String.toList_ofList]
          exact hcolon phone (by simp)
        · rw [String.toList_ofList]
          exact hcolon code (by simp)
      next => cases h
    next => cases h
  · intro h
    have hphone : link.phone.toList.isEmpty = false := List.isEmpty_eq_false_iff.mpr h.phone_ne_nil
    have hcode : link.code.toList.isEmpty = false := List.isEmpty_eq_false_iff.mpr h.code_ne_nil
    rw [parse?, h.eq, splitOn_parts h.phone_colon h.code_colon]
    simp only [beq_self_eq_true, hphone, hcode, Bool.not_false, Bool.and_self, if_true,
      String.ofList_toList]

/-- A text that ends in the fragment of a link, with blanks before it and perhaps behind its code. -/
structure Carries (text phone code : String) : Prop where
  fragment : ∃ before, (∀ c ∈ before, Text.isBlank c = true) ∧
    fragment text.toList = before ++ (kind ++ ':' :: (phone.toList ++ ':' :: code.toList))
  phone_colon : ':' ∉ phone.toList
  code_colon : ':' ∉ code.toList

namespace Carries

/-- What is left of the fragment: blanks are dropped before the kind and behind the code only. -/
theorem strip_fragment (h : Carries text phone code) :
    Text.strip Text.isBlank (VerifyLink.fragment text.toList) =
      kind ++ ':' :: (phone.toList ++ ':' :: Text.dropTail Text.isBlank code.toList) := by
  obtain ⟨before, hbefore, hfragment⟩ := h.fragment
  have hcolon : Text.isBlank ':' = false := rfl
  have hkind : kind = '!' :: "verify".toList := rfl
  calc Text.strip Text.isBlank (VerifyLink.fragment text.toList)
      = Text.strip Text.isBlank (kind ++ ':' :: (phone.toList ++ ':' :: code.toList)) := by
        rw [hfragment, ← List.append_nil (before ++ _)]
        exact Text.strip_append hbefore (by simp)
    _ = Text.dropTail Text.isBlank (kind ++ ':' :: (phone.toList ++ ':' :: code.toList)) := by
        rw [hkind]
        exact Text.strip_cons rfl
    _ = kind ++ ':' :: (phone.toList ++ ':' :: Text.dropTail Text.isBlank code.toList) := by
        rw [Text.dropTail_append_cons hcolon, Text.dropTail_append_cons hcolon]

/-- A link is read with its number as it is, and its code without the blanks behind it. -/
theorem parts_of_parse? (h : Carries text phone code) (hparse : parse? text = some link) :
    link.phone = phone ∧ link.code.toList = Text.dropTail Text.isBlank code.toList := by
  have hsaid := parse?_eq_some_iff.mp hparse
  have hcolon : ':' ∉ Text.dropTail Text.isBlank code.toList :=
    fun hmem => h.code_colon (Text.mem_of_mem_dropTail hmem)
  have hsplit := congrArg (List.splitOn ':') (hsaid.eq.symm.trans h.strip_fragment)
  rw [splitOn_parts hsaid.phone_colon hsaid.code_colon, splitOn_parts h.phone_colon hcolon] at hsplit
  obtain ⟨-, hphone, hcode⟩ : kind = kind ∧ link.phone.toList = phone.toList ∧
      link.code.toList = Text.dropTail Text.isBlank code.toList := by
    simpa using hsplit
  exact ⟨String.toList_injective hphone, hcode⟩

/-- Without a number, or with a code of nothing but blanks, it is no link. -/
theorem parse?_eq_none (h : Carries text phone code)
    (hempty : phone = "" ∨ Text.isBlankText code = true) : parse? text = none := by
  rw [Option.eq_none_iff_forall_ne_some]
  intro link hparse
  have hsaid := parse?_eq_some_iff.mp hparse
  obtain ⟨hphone, hcode⟩ := h.parts_of_parse? hparse
  rcases hempty with rfl | hblank
  · apply hsaid.phone_ne_nil
    rw [hphone]
    rfl
  · apply hsaid.code_ne_nil
    rw [hcode, Text.dropTail_eq_nil_iff]
    exact Text.isBlankText_eq_true_iff.mp hblank

/-- Otherwise it is one. -/
theorem exists_parse? (h : Carries text phone code) (hphone : phone ≠ "")
    (hcode : Text.isBlankText code = false) : ∃ link, parse? text = some link := by
  refine ⟨⟨phone, String.ofList (Text.dropTail Text.isBlank code.toList)⟩,
    parse?_eq_some_iff.mpr ⟨?_, ?_, ?_, h.phone_colon, ?_⟩⟩
  · rw [h.strip_fragment, String.toList_ofList]
  · simpa using hphone
  · rw [String.toList_ofList, ne_eq, Text.dropTail_eq_nil_iff, ← Text.isBlankText_eq_true_iff, hcode]
    exact Bool.false_ne_true
  · rw [String.toList_ofList]
    exact fun hmem => h.code_colon (Text.mem_of_mem_dropTail hmem)

end Carries

/-- Every link carries a number and a code that is not blank. -/
theorem exists_carries (h : parse? text = some link) :
    ∃ code, Carries text link.phone code ∧ link.phone ≠ "" ∧ Text.isBlankText code = false := by
  have hsaid := parse?_eq_some_iff.mp h
  obtain ⟨before, after, hbefore, hafter, hfragment⟩ :=
    Text.exists_strip Text.isBlank (fragment text.toList)
  refine ⟨String.ofList (link.code.toList ++ after), ⟨⟨before, hbefore, ?_⟩, hsaid.phone_colon, ?_⟩,
    ?_, ?_⟩
  · rw [hfragment, hsaid.eq]
    simp
  · rw [String.toList_ofList, List.mem_append, not_or]
    refine ⟨hsaid.code_colon, fun hmem => ?_⟩
    cases hafter ':' hmem
  · have hphone := hsaid.phone_ne_nil
    simpa using hphone
  · have hcode := isBlankText_code h
    rw [← Bool.not_eq_true, Text.isBlankText_eq_true_iff] at hcode ⊢
    intro hall
    apply hcode
    intro c hc
    apply hall
    rw [String.toList_ofList]
    exact List.mem_append_left _ hc

end PhoneVerification.VerifyLink
