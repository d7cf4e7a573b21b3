import PhoneVerification.Message.Table
import PhoneVerification.Proofs.Text.Mark

/-!
# The gaps of the templates

Which gap the template of a key has is the same in every language (`gap?_template`), and no percent sign
is in a template but those of its mark (`unmarked_template`). So to fill a gap is to replace its mark
(`replace_raw`), and no mark is left after that.
-/

namespace PhoneVerification

/-- The gap in the templates of a key. -/
def MessageKey.gap? : MessageKey → Option Gap
  | .second | .seconds | .minute | .minutes | .hour | .hours => some .count
  | .errorRatelimit => some .time
  | .smsSentFrom => some .number
  | _ => none

namespace Template

/-- The gap of a template. -/
def gap? : Template → Option Gap
  | plain _ => none
  | gapped _ gap _ => some gap

/-- No percent sign is in what a template says around its gap. -/
def Unmarked : Template → Prop
  | plain text => '%' ∉ text.toList
  | gapped before _ after => '%' ∉ before.toList ∧ '%' ∉ after.toList

variable {before after value value' : String} {gap : Gap}

theorem eq_gapped_of_gap? {t : Template} (h : t.gap? = some gap) :
    ∃ before after, t = gapped before gap after := by
  cases t with
  | plain text => cases h
  | gapped before g after =>
      obtain rfl : g = gap := Option.some.inj h
      exact ⟨before, after, rfl⟩

/-- A value is told by the text that it is filled in. -/
theorem fill_injective
    (h : (gapped before gap after).fill gap value = (gapped before gap after).fill gap value') :
    value = value' := by
  simpa using h

/-- A text that does not begin like a template is none of its texts. -/
theorem fill_ne {s : String} (h : ¬ before.toList <+: s.toList) (value : String) :
    (gapped before gap after).fill gap value ≠ s := by
  rintro rfl
  apply h
  rw [fill_gapped, String.append_assoc, String.toList_append]
  exact List.prefix_append _ _

/-- To fill the gap of a template is to replace its mark. -/
theorem replace_raw (hunmarked : (gapped before gap after).Unmarked) (value : String) :
    Text.replace gap.mark value (gapped before gap after).raw =
      (gapped before gap after).fill gap value := by
  obtain ⟨mark, hmark⟩ : ∃ mark, gap.mark.toList = '%' :: mark := by
    cases gap <;> exact ⟨_, rfl⟩
  obtain ⟨hbefore, hafter⟩ := hunmarked
  rw [Text.replace, raw, fill_gapped, hmark]
  apply String.toList_injective
  rw [String.toList_ofList, String.toList_append, String.toList_append, String.toList_append,
    String.toList_append, hmark, List.append_assoc, Text.replaceFrom_append hbefore,
    Text.replaceFrom_mark, Text.replaceFrom_eq_self hafter, List.append_assoc]

end Template

namespace MessageTable

/-- The gap of a template does not depend on the language. -/
theorem gap?_template (l : Locale) (k : MessageKey) : (template l k).gap? = k.gap? := by
  cases l <;> cases k <;> rfl

/-- The percent signs of a template are those of its mark. -/
theorem unmarked_template (l : Locale) (k : MessageKey) : (template l k).Unmarked := by
  cases l <;> cases k <;> simp only [template, english, dutch, Template.Unmarked]
  -- the characters of a literal are at hand, and need not be read from its bytes
  all_goals and_intros <;> rw [String.toList_ofList] <;> decide +kernel

end MessageTable

end PhoneVerification
