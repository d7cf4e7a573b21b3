import PhoneVerification.Proofs.Verification.LinkGrammar

/-!
# Spellings of a verification link

A link is read from what a text has behind its first `#`, or from the whole text if it has none
(`Behind`), so nothing that is before the `#` matters. Conversely a link may be written behind any
address, as a bare fragment, or without the `#` (`Spelling`), and is read from each of these as it is.
-/

namespace PhoneVerification.VerifyLink

variable {s before rest : List Char} {link : VerifyLink} {text : String}

/-- What a text has behind its first `#`, or all of it if it has none. -/
inductive Behind : List Char → List Char → Prop
  | hash {before : List Char} (rest : List Char) (h : '#' ∉ before) :
      Behind (before ++ '#' :: rest) rest
  | whole {s : List Char} (h : '#' ∉ s) : Behind s s

theorem fragment_append (rest : List Char) (h : '#' ∉ before) :
    fragment (before ++ '#' :: rest) = rest := by
  have hbefore : ∀ c ∈ before, (c != '#') = true := by
    intro c hc
    rw [bne_iff_ne]
    rintro rfl
    exact h hc
  rw [fragment, List.dropWhile_append_of_pos hbefore]
  rfl

theorem fragment_eq_self (h : '#' ∉ s) : fragment s = s := by
  have hs : s.dropWhile (· != '#') = [] := by
    rw [List.dropWhile_eq_nil_iff]
    intro c hc
    rw [bne_iff_ne]
    rintro rfl
    exact h hc
  rw [fragment, hs]

/-- The fragment of a text is what it has behind its first `#`. -/
theorem fragment_eq_iff : fragment s = rest ↔ Behind s rest := by
  constructor
  · rintro rfl
    by_cases h : '#' ∈ s
    · obtain ⟨before, after, rfl, hbefore⟩ := List.eq_append_cons_of_mem h
      rw [fragment_append after hbefore]
      exact .hash after hbefore
    · rw [fragment_eq_self h]
      exact .whole h
  · intro h
    cases h with
    | hash rest h => exact fragment_append rest h
    | whole h => exact fragment_eq_self h

/-- Nothing before the first `#` counts. -/
theorem behind_append {address : String} (h : '#' ∉ address.toList) (rest : String) :
    Behind (address ++ "#" ++ rest).toList rest.toList := by
  rw [String.toList_append, String.toList_append, List.append_assoc]
  exact .hash _ h

/-- A link without its `#`. -/
def written (link : VerifyLink) : String :=
  "!verify:" ++ link.phone ++ ":" ++ link.code

theorem toList_written (link : VerifyLink) :
    link.written.toList = kind ++ ':' :: (link.phone.toList ++ ':' :: link.code.toList) := by
  have hstart : "!verify:".toList = kind ++ [':'] := rfl
  have hcolon : ":".toList = [':'] := rfl
  rw [written, String.toList_append, String.toList_append, String.toList_append, hstart, hcolon]
  simp only [List.append_assoc, List.cons_append, List.nil_append]

/-- A link that can be written and read again. -/
structure Writable (link : VerifyLink) : Prop where
  phone_ne : link.phone ≠ ""
  code_ne : link.code ≠ ""
  phone_plain : ':' ∉ link.phone.toList ∧ '#' ∉ link.phone.toList
  code_plain : ':' ∉ link.code.toList ∧ '#' ∉ link.code.toList
  code_end : ∀ c ∈ link.code.toList.getLast?, Text.isBlank c = false

/-- The ways to write a link: behind an address, as a fragment, and without the `#`. -/
inductive Spelling (link : VerifyLink) : String → Prop
  | address {address : String} (h : '#' ∉ address.toList) :
      Spelling link (address ++ "#" ++ link.written)
  | fragment : Spelling link ("#" ++ link.written)
  | bare : Spelling link link.written

namespace Writable

theorem says_written (h : link.Writable) : Says link.written.toList link where
  eq := link.toList_written
  phone_ne_nil := by simpa using h.phone_ne
  code_ne_nil := by simpa using h.code_ne
  phone_colon := h.phone_plain.1
  code_colon := h.code_plain.1

theorem not_mem_written (h : link.Writable) : '#' ∉ link.written.toList := by
  have hkind : '#' ∉ kind := by decide
  rw [toList_written]
  simp [hkind, h.phone_plain.2, h.code_plain.2]

/-- No blank is at an end of what is written. -/
theorem stripped_written (h : link.Writable) :
    Text.Stripped Text.isBlank link.written.toList link.written.toList := by
  refine ⟨⟨[], [], by simp, by simp, by simp⟩, ?_, ?_⟩
  · intro c hc
    rw [toList_written] at hc
    obtain rfl : '!' = c := Option.some.inj hc
    rfl
  · intro c hc
    apply h.code_end
    have hne : link.code.toList ≠ [] := by simpa using h.code_ne
    have hend : link.written.toList.getLast? = link.code.toList.getLast? := by
      rw [toList_written, List.append_cons, ← List.append_assoc, List.append_cons,
        List.getLast?_append_of_ne_nil _ hne]
    rwa [hend] at hc

/-- Every spelling of a link has behind its first `#` what is written. -/
theorem behind_spelling (h : link.Writable) (hspelling : Spelling link text) :
    Behind text.toList link.written.toList := by
  cases hspelling with
  | address haddress => exact behind_append haddress _
  | fragment =>
      rw [String.toList_append]
      exact @Behind.hash [] _ List.not_mem_nil
  | bare => exact .whole h.not_mem_written

end Writable

/-- A link is read exactly from its grammar. -/
theorem parse?_eq_some_iff_behind : parse? text = some link ↔ ∃ rest inner,
    Behind text.toList rest ∧ Text.Stripped Text.isBlank rest inner ∧ Says inner link := by
  rw [parse?_eq_some_iff]
  constructor
  · intro h
    exact ⟨_, _, fragment_eq_iff.mp rfl, Text.stripped_strip _ _, h⟩
  · rintro ⟨rest, inner, hbehind, hstripped, hsaid⟩
    rwa [fragment_eq_iff.mpr hbehind, Text.strip_eq_iff.mpr hstripped]

/-- Only what is behind the first `#` is read. -/
theorem parse?_of_behind {text' : String} (h : Behind text.toList rest)
    (h' : Behind text'.toList rest) : parse? text = parse? text' := by
  rw [parse?, parse?, fragment_eq_iff.mpr h, fragment_eq_iff.mpr h']

/-- A link is read exactly if what is behind the first `#`, or the whole text without one, is
`!verify:`, a number, a colon and a code with nothing but blanks around them, where neither of the two is
empty or has a colon. So nothing before the first `#` matters, and a link that ends in no blank is read
from all its spellings. -/
theorem reads_exactly_grammar :
    (∀ text link, parse? text = some link ↔ ∃ rest inner,
      Behind text.toList rest ∧ Text.Stripped Text.isBlank rest inner ∧ Says inner link) ∧
    (∀ address address' rest : String, '#' ∉ address.toList → '#' ∉ address'.toList →
      parse? (address ++ "#" ++ rest) = parse? (address' ++ "#" ++ rest)) ∧
    (∀ link, Writable link → ∀ text, Spelling link text → parse? text = some link) := by
  refine ⟨fun text link => parse?_eq_some_iff_behind, ?_, ?_⟩
  · intro address address' rest h h'
    exact parse?_of_behind (behind_append h rest) (behind_append h' rest)
  · intro link h text hspelling
    exact parse?_eq_some_iff_behind.mpr
      ⟨_, _, h.behind_spelling hspelling, h.stripped_written, h.says_written⟩

/-- A link on a page whose address has colons, and with blanks inside of its number and its code. -/
theorem reads_exactly_grammar_on_page :
    (Writable ⟨" 31 6", "a\tB"⟩ ∧
      Spelling ⟨" 31 6", "a\tB"⟩ "https://sms.example:80/!verify:1:2#!verify: 31 6:a\tB" ∧
      parse? "https://sms.example:80/!verify:1:2#!verify: 31 6:a\tB" = some ⟨" 31 6", "a\tB"⟩) ∧
    ('#' ∉ "https://sms.example:80/!verify:1:2".toList ∧ '#' ∉ "".toList ∧
      parse? ("https://sms.example:80/!verify:1:2" ++ "#" ++ "!verify: 31 6:a\tB") =
        parse? ("" ++ "#" ++ "!verify: 31 6:a\tB")) := by
  obtain ⟨-, hbefore, hspellings⟩ := reads_exactly_grammar
  have hwritable : Writable ⟨" 31 6", "a\tB"⟩ := by
    refine ⟨by decide, by decide, by decide, by decide, ?_⟩
    intro c hc
    obtain rfl : 'B' = c := Option.some.inj hc
    rfl
  have haddress : '#' ∉ "https://sms.example:80/!verify:1:2".toList := by decide
  have hempty : '#' ∉ "".toList := by decide
  have hspelling : Spelling ⟨" 31 6", "a\tB"⟩
      "https://sms.example:80/!verify:1:2#!verify: 31 6:a\tB" := .address haddress
  exact ⟨⟨hwritable, hspelling, hspellings _ hwritable _ hspelling⟩, haddress, hempty,
    hbefore _ _ _ haddress hempty⟩

end PhoneVerification.VerifyLink
