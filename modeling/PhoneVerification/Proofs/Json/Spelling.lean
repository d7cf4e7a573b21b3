import PhoneVerification.Proofs.Json.NumberLiteral
import PhoneVerification.Proofs.Json.StringLiteral
import Mathlib.Data.List.DropRight

/-!
# Spellings of JSON values

`Spells` is the grammar of JSON: any spaces may stand between the parts of a value, and strings are
written as they are in a text or in bytes. Every spelling of a value in bytes is read as that value
(`parseBytes?_of_spells`), and so is every text, with any escapes in its strings (`parse?_of_spells`).
Both the compact and the pretty text of a well-formed value are spellings of it.
-/

namespace PhoneVerification.Json

open Text.Utf8 (octet octets)

/-- Spaces between two parts. -/
def Spaces (s : List Char) : Prop :=
  ∀ c ∈ s, isSpace c = true

theorem spaces_nil : Spaces [] := by
  simp [Spaces]

/-- A value, or what stands after the opening bracket of an array or an object. -/
inductive Part
  | value (v : Json)
  | items (vs : List Json)
  | members (ms : List (Option String × Json))

/-- The texts of a part whose strings are written as `L` says. The texts of items and members go up to
the closing bracket. -/
inductive Spells (L : Option String → List Char → Prop) : Part → List Char → Prop
  | null : Spells L (.value .null) ['n', 'u', 'l', 'l']
  | isTrue : Spells L (.value (.bool true)) ['t', 'r', 'u', 'e']
  | isFalse : Spells L (.value (.bool false)) ['f', 'a', 'l', 's', 'e']
  | number {sign whole fraction exponent : List Char}
      (h : NumberLiteral sign whole fraction exponent) :
      Spells L (.value (.number (sign ++ whole ++ fraction ++ exponent)))
        (sign ++ whole ++ fraction ++ exponent)
  | string {t : Option String} {s : List Char} (h : L t s) :
      Spells L (.value (.string t)) s
  | noItems {gap : List Char} (hgap : Spaces gap) :
      Spells L (.value (.array [])) ('[' :: (gap ++ [']']))
  | array {vs : List Json} {s : List Char} (h : Spells L (.items vs) s) :
      Spells L (.value (.array vs)) ('[' :: s)
  | noMembers {gap : List Char} (hgap : Spaces gap) :
      Spells L (.value (.object [])) ('\x7b' :: (gap ++ ['\x7d']))
  | object {ms : List (Option String × Json)} {s : List Char} (h : Spells L (.members ms) s) :
      Spells L (.value (.object ms)) ('\x7b' :: s)
  | lastItem {v : Json} {s before after : List Char} (hbefore : Spaces before)
      (h : Spells L (.value v) s) (hafter : Spaces after) :
      Spells L (.items [v]) (before ++ (s ++ (after ++ [']'])))
  | item {v : Json} {vs : List Json} {s t before after : List Char} (hbefore : Spaces before)
      (h : Spells L (.value v) s) (hafter : Spaces after) (ht : Spells L (.items vs) t) :
      Spells L (.items (v :: vs)) (before ++ (s ++ (after ++ ',' :: t)))
  | lastMember {k : Option String} {v : Json} {q s before colon between after : List Char}
      (hbefore : Spaces before) (hk : L k q) (hcolon : Spaces colon)
      (hbetween : Spaces between) (h : Spells L (.value v) s) (hafter : Spaces after) :
      Spells L (.members [(k, v)])
        (before ++ (q ++ (colon ++ ':' :: (between ++ (s ++ (after ++ ['\x7d']))))))
  | member {k : Option String} {v : Json} {ms : List (Option String × Json)}
      {q s t before colon between after : List Char}
      (hbefore : Spaces before) (hk : L k q) (hcolon : Spaces colon)
      (hbetween : Spaces between) (h : Spells L (.value v) s) (hafter : Spaces after)
      (ht : Spells L (.members ms) t) :
      Spells L (.members ((k, v) :: ms))
        (before ++ (q ++ (colon ++ ':' :: (between ++ (s ++ (after ++ ',' :: t))))))

namespace Reader

variable {n : Nat} {s gap rest : List Char}

theorem skip_gap (hgap : Spaces gap) (s : List Char) : skip (gap ++ s) = skip s :=
  List.dropWhile_append_of_pos hgap

theorem skip_cons {c : Char} (hc : isSpace c = false) (s : List Char) : skip (c :: s) = c :: s :=
  List.dropWhile_cons_of_neg (Bool.eq_false_iff.mp hc)

theorem skip_gap_cons {c : Char} (hgap : Spaces gap) (hc : isSpace c = false) (s : List Char) :
    skip (gap ++ c :: s) = c :: s := by
  rw [skip_gap hgap, skip_cons hc]

theorem skip_skip (s : List Char) : skip (skip s) = skip s :=
  List.dropWhile_idempotent isSpace s

theorem value?_skip (n : Nat) (s : List Char) : value? n (skip s) = value? n s := by
  cases n with
  | zero => simp only [value?]
  | succ n => simp only [value?, skip_skip]

theorem items?_skip (n : Nat) (s : List Char) : items? n (skip s) = items? n s := by
  cases n with
  | zero => simp only [items?]
  | succ n => simp only [items?, value?_skip]

theorem members?_skip (n : Nat) (s : List Char) : members? n (skip s) = members? n s := by
  cases n with
  | zero => simp only [members?]
  | succ n => simp only [members?, skip_skip]

theorem value?_gap (hgap : Spaces gap) (n : Nat) (s : List Char) :
    value? n (gap ++ s) = value? n s := by
  rw [← value?_skip, skip_gap hgap, value?_skip]

theorem value?_null (n : Nat) (rest : List Char) :
    value? (n + 1) (['n', 'u', 'l', 'l'] ++ rest) = some (.null, rest) := by
  rfl

theorem value?_true (n : Nat) (rest : List Char) :
    value? (n + 1) (['t', 'r', 'u', 'e'] ++ rest) = some (.bool true, rest) := by
  rfl

theorem value?_false (n : Nat) (rest : List Char) :
    value? (n + 1) (['f', 'a', 'l', 's', 'e'] ++ rest) = some (.bool false, rest) := by
  rfl

theorem value?_string (n : Nat) (s : List Char) :
    value? (n + 1) ('"' :: s) = (string? s).map fun r => (.string r.1, r.2) := by
  rfl

theorem value?_noItems (n : Nat) (hgap : Spaces gap) (rest : List Char) :
    value? (n + 1) ('[' :: (gap ++ ([']'] ++ rest))) = some (.array [], rest) := by
  have hskip : skip (gap ++ ([']'] ++ rest)) = ']' :: rest :=
    skip_gap_cons hgap (by decide) rest
  rw [value?, skip_cons (by decide)]
  simp only [hskip]

theorem value?_noMembers (n : Nat) (hgap : Spaces gap) (rest : List Char) :
    value? (n + 1) ('\x7b' :: (gap ++ (['\x7d'] ++ rest))) = some (.object [], rest) := by
  have hskip : skip (gap ++ (['\x7d'] ++ rest)) = '\x7d' :: rest :=
    skip_gap_cons hgap (by decide) rest
  rw [value?, skip_cons (by decide)]
  simp only [hskip]

theorem value?_array (n : Nat) (h : ∀ t, skip s ≠ ']' :: t) :
    value? (n + 1) ('[' :: s) = (items? n s).map fun r => (.array r.1, r.2) := by
  have hskip : skip ('[' :: s) = '[' :: s := skip_cons (by decide) s
  rw [← items?_skip n s]
  simp only [value?, hskip]

theorem value?_object (n : Nat) (h : ∀ t, skip s ≠ '\x7d' :: t) :
    value? (n + 1) ('\x7b' :: s) = (members? n s).map fun r => (.object r.1, r.2) := by
  have hskip : skip ('\x7b' :: s) = '\x7b' :: s := skip_cons (by decide) s
  rw [← members?_skip n s]
  simp only [value?, hskip]

theorem ne_of_startsNumber {c d : Char} (hc : c = '-' ∨ Text.isAsciiDigit c = true)
    (hminus : d ≠ '-') (hdigit : Text.isAsciiDigit d = false) : c ≠ d := by
  rintro rfl
  rcases hc with rfl | hc
  · exact hminus rfl
  · exact Bool.eq_false_iff.mp hdigit hc

theorem isSpace_of_startsNumber {c : Char} (hc : c = '-' ∨ Text.isAsciiDigit c = true) :
    isSpace c = false := by
  simp only [isSpace, Bool.or_eq_false_iff, beq_eq_false_iff_ne]
  refine ⟨⟨⟨?_, ?_⟩, ?_⟩, ?_⟩
  all_goals exact ne_of_startsNumber hc (by decide) (by decide)

theorem value?_number (n : Nat) {c : Char} (hc : c = '-' ∨ Text.isAsciiDigit c = true) :
    value? (n + 1) (c :: s) = (number? (c :: s)).map fun r => (.number r.1, r.2) := by
  rw [value?, skip_cons (isSpace_of_startsNumber hc)]
  split
  case h_7 => rfl
  all_goals
    rename_i hs
    exact absurd (List.cons.inj hs).1 (ne_of_startsNumber hc (by decide) (by decide))

/-- The first character after spaces is no closing bracket. -/
def Opens (s : List Char) : Prop :=
  ∀ rest, ∃ c t, skip (s ++ rest) = c :: t ∧ c ≠ ']' ∧ c ≠ '\x7d'

theorem Opens.after (hgap : Spaces gap) (h : Opens s) (t : List Char) : Opens (gap ++ (s ++ t)) := by
  intro rest
  rw [List.append_assoc, skip_gap hgap, List.append_assoc]
  exact h _

theorem opens_cons {c : Char} (s : List Char) (hspace : isSpace c = false)
    (hc : c ≠ ']' ∧ c ≠ '\x7d') : Opens (c :: s) :=
  fun rest => ⟨c, s ++ rest, skip_cons hspace _, hc⟩

theorem opens_of_octetLiteral {k : Option String} (h : OctetLiteral k s) : Opens s := by
  obtain ⟨body, rfl, -⟩ := h.string?
  exact opens_cons body (by decide) (by decide)

/-- Every part starts with a character that closes nothing. -/
theorem opens_of_spells {p : Part} (h : Spells OctetLiteral p s) : Opens s := by
  induction h with
  | null => exact opens_cons _ (by decide) (by decide)
  | isTrue => exact opens_cons _ (by decide) (by decide)
  | isFalse => exact opens_cons _ (by decide) (by decide)
  | number h =>
      obtain ⟨c, s, hs, hc⟩ := h.exists_eq_cons
      rw [hs]
      exact opens_cons s (isSpace_of_startsNumber hc)
        ⟨ne_of_startsNumber hc (by decide) (by decide),
          ne_of_startsNumber hc (by decide) (by decide)⟩
  | string h => exact opens_of_octetLiteral h
  | noItems hgap => exact opens_cons _ (by decide) (by decide)
  | array h => exact opens_cons _ (by decide) (by decide)
  | noMembers hgap => exact opens_cons _ (by decide) (by decide)
  | object h => exact opens_cons _ (by decide) (by decide)
  | lastItem hbefore _ _ ih => exact ih.after hbefore _
  | item hbefore _ _ _ ih => exact ih.after hbefore _
  | lastMember hbefore hk => exact (opens_of_octetLiteral hk).after hbefore _
  | member hbefore hk => exact (opens_of_octetLiteral hk).after hbefore _

/-- That a part is read up to its end. The length of its text bounds the number of calls. -/
def Reads : Part → List Char → Prop
  | .value v, s =>
    ∀ n rest, s.length ≤ n → Ended rest → value? (n + 1) (s ++ rest) = some (v, rest)
  | .items vs, s => ∀ n rest, s.length ≤ n → items? (n + 1) (s ++ rest) = some (vs, rest)
  | .members ms, s => ∀ n rest, s.length ≤ n → members? (n + 1) (s ++ rest) = some (ms, rest)

theorem ended_gap (hgap : Spaces gap) {c : Char} (hc : c = ',' ∨ c = ']' ∨ c = '\x7d')
    (rest : List Char) : Ended (gap ++ c :: rest) := by
  intro d hd
  cases gap with
  | nil =>
      obtain rfl : c = d := by simpa using hd
      exact .inr hc
  | cons e gap =>
      obtain rfl : e = d := by simpa using hd
      exact .inl (hgap e List.mem_cons_self)

/-- A value is read with the spaces around it, up to the mark after it. -/
theorem value?_between {v : Json} {before after : List Char} {c : Char} (hs : Reads (.value v) s)
    (hbefore : Spaces before) (hafter : Spaces after) (hc : c = ',' ∨ c = ']' ∨ c = '\x7d')
    (hspace : isSpace c = false) (hn : s.length < n) (rest : List Char) :
    ∃ r, value? n (before ++ (s ++ (after ++ c :: rest))) = some (v, r) ∧ skip r = c :: rest := by
  obtain ⟨n, rfl⟩ := Nat.exists_eq_succ_of_ne_zero (Nat.ne_zero_of_lt hn)
  refine ⟨after ++ c :: rest, ?_, skip_gap_cons hafter hspace rest⟩
  rw [value?_gap hbefore]
  exact hs n _ (Nat.le_of_lt_succ hn) (ended_gap hafter hc rest)

section Members

variable {k : Option String} {before q colon r : List Char} {v : Json}

/-- The key of a member is read with the spaces around it and the colon. -/
theorem string?_key (hbefore : Spaces before) (hk : OctetLiteral k q) (hcolon : Spaces colon)
    (s : List Char) :
    ∃ body, skip (before ++ (q ++ (colon ++ ':' :: s))) = '"' :: body ∧
      string? body = some (k, colon ++ ':' :: s) ∧ skip (colon ++ ':' :: s) = ':' :: s := by
  obtain ⟨body, rfl, hread⟩ := hk.string?
  refine ⟨body ++ (colon ++ ':' :: s), ?_, hread _, skip_gap_cons hcolon (by decide) s⟩
  exact skip_gap_cons hbefore (by decide) _

theorem members?_last (hbefore : Spaces before) (hk : OctetLiteral k q) (hcolon : Spaces colon)
    (hs : value? n s = some (v, r)) (hskip : skip r = '\x7d' :: rest) :
    members? (n + 1) (before ++ (q ++ (colon ++ ':' :: s))) = some ([(k, v)], rest) := by
  obtain ⟨body, hquote, hread, hmark⟩ := string?_key hbefore hk hcolon s
  simp [members?, hquote, hread, hmark, hs, hskip]

theorem members?_more (hbefore : Spaces before) (hk : OctetLiteral k q) (hcolon : Spaces colon)
    (hs : value? n s = some (v, r)) (hskip : skip r = ',' :: rest) :
    members? (n + 1) (before ++ (q ++ (colon ++ ':' :: s))) =
      (members? n rest).map fun r => ((k, v) :: r.1, r.2) := by
  obtain ⟨body, hquote, hread, hmark⟩ := string?_key hbefore hk hcolon s
  simp [members?, hquote, hread, hmark, hs, hskip]

end Members

/-- Every spelling of a part is read as that part. -/
theorem reads_of_spells {p : Part} (h : Spells OctetLiteral p s) : Reads p s := by
  induction h with
  | null =>
      intro n rest _ _
      exact value?_null n rest
  | isTrue =>
      intro n rest _ _
      exact value?_true n rest
  | isFalse =>
      intro n rest _ _
      exact value?_false n rest
  | number h =>
      intro n rest _ hrest
      obtain ⟨c, s, hs, hc⟩ := h.exists_eq_cons
      have hread := number?_append h hrest
      simp only [← List.append_assoc, hs, List.cons_append] at hread
      rw [hs, List.cons_append, value?_number n hc, hread, Option.map_some]
  | string h =>
      intro n rest _ _
      obtain ⟨body, rfl, hread⟩ := h.string?
      rw [List.cons_append, value?_string, hread, Option.map_some]
  | noItems hgap =>
      intro n rest _ _
      rw [List.cons_append, List.append_assoc, value?_noItems n hgap]
  | @array vs s h ih =>
      intro n rest hn _
      obtain ⟨n, rfl⟩ := Nat.exists_eq_succ_of_ne_zero (Nat.ne_zero_of_lt hn)
      obtain ⟨c, t, hskip, hc, -⟩ := opens_of_spells h rest
      rw [List.cons_append, value?_array, ih n rest (Nat.le_of_succ_le_succ hn), Option.map_some]
      intro t ht
      exact hc (List.cons.inj (hskip.symm.trans ht)).1
  | noMembers hgap =>
      intro n rest _ _
      rw [List.cons_append, List.append_assoc, value?_noMembers n hgap]
  | @object ms s h ih =>
      intro n rest hn _
      obtain ⟨n, rfl⟩ := Nat.exists_eq_succ_of_ne_zero (Nat.ne_zero_of_lt hn)
      obtain ⟨c, t, hskip, -, hc⟩ := opens_of_spells h rest
      rw [List.cons_append, value?_object, ih n rest (Nat.le_of_succ_le_succ hn), Option.map_some]
      intro t ht
      exact hc (List.cons.inj (hskip.symm.trans ht)).1
  | @lastItem v s before after hbefore _ hafter ih =>
      intro n rest hn
      obtain ⟨r, hvalue, hskip⟩ := value?_between (n := n) ih hbefore hafter (.inr (.inl rfl))
        (by decide) (by simp at hn; omega) rest
      simp only [List.append_assoc, List.singleton_append]
      rw [items?, hvalue]
      simp [hskip]
  | @item v vs s t before after hbefore _ hafter _ ih iht =>
      intro n rest hn
      simp only [List.length_append, List.length_cons] at hn
      obtain ⟨n, rfl⟩ : ∃ m, n = m + 1 := ⟨n - 1, by omega⟩
      obtain ⟨r, hvalue, hskip⟩ := value?_between (n := n + 1) ih hbefore hafter (.inl rfl)
        (by decide) (by omega) (t ++ rest)
      simp only [List.append_assoc, List.cons_append]
      rw [items?, hvalue]
      simp [hskip, iht n rest (by omega)]
  | @lastMember k v q s before colon between after hbefore hk hcolon hbetween _ hafter ih =>
      intro n rest hn
      obtain ⟨r, hvalue, hskip⟩ := value?_between (n := n) ih hbetween hafter (.inr (.inr rfl))
        (by decide) (by simp at hn; omega) rest
      simp only [List.append_assoc, List.cons_append, List.nil_append]
      exact members?_last hbefore hk hcolon hvalue hskip
  | @member k v ms q s t before colon between after hbefore hk hcolon hbetween _ hafter _ ih iht =>
      intro n rest hn
      simp only [List.length_append, List.length_cons] at hn
      obtain ⟨n, rfl⟩ : ∃ m, n = m + 1 := ⟨n - 1, by omega⟩
      obtain ⟨r, hvalue, hskip⟩ := value?_between (n := n + 1) ih hbetween hafter (.inl rfl)
        (by decide) (by omega) (t ++ rest)
      simp only [List.append_assoc, List.cons_append]
      rw [members?_more hbefore hk hcolon hvalue hskip, iht n rest (by omega), Option.map_some]

end Reader

variable {before after : List Char}

/-- Bytes that spell a value, with any spaces around it, are read as that value. -/
theorem parseBytes?_of_spells {v : Json} {s : List Char} {bytes : List UInt8}
    (h : Spells OctetLiteral (.value v) s) (hbefore : Spaces before) (hafter : Spaces after)
    (hbytes : bytes.map octet = before ++ (s ++ after)) : parseBytes? bytes = some v := by
  have hended : Ended after := by
    intro c hc
    exact .inl (hafter c (List.mem_of_mem_head? hc))
  have hskip : Reader.skip after = [] := by
    simpa [Reader.skip, Spaces] using hafter
  have hlength : s.length ≤ 2 * bytes.length + 1 := by
    rw [← List.length_map (f := octet), hbytes]
    simp only [List.length_append]
    omega
  have hread := Reader.reads_of_spells h _ after hlength hended
  rw [parseBytes?, hbytes, Reader.value?_gap hbefore, hread]
  simp [hskip]

/-! ## The bytes of a text -/

theorem octets_spaces {gap : List Char} (h : Spaces gap) : octets gap = gap := by
  refine Text.Utf8.octets_eq_self fun c hc => ?_
  have hspace := h c hc
  simp only [isSpace, Bool.or_eq_true, beq_iff_eq] at hspace
  rcases hspace with ((rfl | rfl) | rfl) | rfl <;> decide

/-- The bytes of a text that spells a part spell this part. -/
theorem Spells.octets {p : Part} {s : List Char} (h : Spells StringLiteral p s) :
    Spells OctetLiteral p (octets s) := by
  induction h with
  | null => exact .null
  | isTrue => exact .isTrue
  | isFalse => exact .isFalse
  | number h =>
      rw [Text.Utf8.octets_eq_self h.ascii]
      exact .number h
  | string h => exact .string h.octets
  | noItems hgap => simpa [octets_spaces hgap] using Spells.noItems hgap
  | array _ ih => simpa using Spells.array ih
  | noMembers hgap => simpa [octets_spaces hgap] using Spells.noMembers hgap
  | object _ ih => simpa using Spells.object ih
  | lastItem hbefore _ hafter ih =>
      simpa [octets_spaces hbefore, octets_spaces hafter] using Spells.lastItem hbefore ih hafter
  | item hbefore _ hafter _ ih iht =>
      simpa [octets_spaces hbefore, octets_spaces hafter] using Spells.item hbefore ih hafter iht
  | lastMember hbefore hk hcolon hbetween _ hafter ih =>
      simpa [octets_spaces hbefore, octets_spaces hcolon, octets_spaces hbetween,
        octets_spaces hafter] using
          Spells.lastMember hbefore hk.octets hcolon hbetween ih hafter
  | member hbefore hk hcolon hbetween _ hafter _ ih iht =>
      simpa [octets_spaces hbefore, octets_spaces hcolon, octets_spaces hbetween,
        octets_spaces hafter] using
          Spells.member hbefore hk.octets hcolon hbetween ih hafter iht

/-- Every spelling of a value, with any spaces around it, is read as that value. -/
theorem parse?_of_spells {v : Json} {s : List Char} (h : Spells StringLiteral (.value v) s)
    (hbefore : Spaces before) (hafter : Spaces after) :
    parse? (String.ofList (before ++ (s ++ after))) = some v := by
  refine parseBytes?_of_spells h.octets hbefore hafter ?_
  rw [Text.Utf8.map_octet_encode, String.toList_ofList, Text.Utf8.octets_append,
    Text.Utf8.octets_append, octets_spaces hbefore, octets_spaces hafter]

/-- A text is a spelling of a value with any spaces around it. -/
def Spelled (v : Json) (text : String) : Prop :=
  ∃ before s after, Spaces before ∧ Spells StringLiteral (.value v) s ∧ Spaces after ∧
    text.toList = before ++ (s ++ after)

theorem parse?_of_spelled {v : Json} {text : String} (h : Spelled v text) : parse? text = some v := by
  obtain ⟨before, s, after, hbefore, hs, hafter, htext⟩ := h
  rw [← String.ofList_toList (s := text), htext]
  exact parse?_of_spells hs hbefore hafter

/-! ## Written values -/

/-- A value whose numbers are numbers. -/
inductive WellFormed : Json → Prop
  | null : WellFormed .null
  | bool (b : Bool) : WellFormed (.bool b)
  | number {sign whole fraction exponent : List Char}
      (h : NumberLiteral sign whole fraction exponent) :
      WellFormed (.number (sign ++ whole ++ fraction ++ exponent))
  | string (t : Option String) : WellFormed (.string t)
  | array {vs : List Json} (h : ∀ v ∈ vs, WellFormed v) : WellFormed (.array vs)
  | object {ms : List (Option String × Json)} (h : ∀ m ∈ ms, WellFormed m.2) :
      WellFormed (.object ms)

theorem wellFormed_ofNat (n : Nat) : WellFormed (.ofNat n) := by
  have h := WellFormed.number (Reader.numberLiteral_toDigits n)
  rwa [List.nil_append, List.append_nil, List.append_nil] at h

theorem wellFormed_record {members : List (String × Json)}
    (h : ∀ m ∈ members, WellFormed m.2) : WellFormed (.record members) := by
  apply WellFormed.object
  intro m hm
  obtain ⟨member, hmember, rfl⟩ := List.mem_map.mp hm
  exact h member hmember

/-- Items that are written one after the other, each after the same spaces. -/
theorem spells_items {text : Json → List Char} {more : List Json → List Char}
    (hbefore : Spaces before) (hafter : Spaces after) (hlast : more [] = after ++ [']'])
    (hmore : ∀ v vs, more (v :: vs) = ',' :: (before ++ text v ++ more vs)) (v : Json)
    (vs : List Json) (h : ∀ u ∈ v :: vs, Spells StringLiteral (.value u) (text u)) :
    Spells StringLiteral (.items (v :: vs)) (before ++ text v ++ more vs) := by
  induction vs generalizing v with
  | nil =>
      rw [hlast, List.append_assoc]
      exact .lastItem hbefore (h v List.mem_cons_self) hafter
  | cons u vs ih =>
      have htail := ih u fun w hw => h w (List.mem_cons_of_mem v hw)
      rw [hmore, List.append_assoc]
      exact .item hbefore (h v List.mem_cons_self) spaces_nil htail

/-- Members that are written one after the other, each after the same spaces. -/
theorem spells_members {between : List Char} {text : Json → List Char}
    {more : List (Option String × Json) → List Char} (hbefore : Spaces before)
    (hbetween : Spaces between) (hafter : Spaces after) (hlast : more [] = after ++ ['\x7d'])
    (hmore : ∀ k v ms, more ((k, v) :: ms) =
      ',' :: (before ++ quote k ++ ':' :: (between ++ text v) ++ more ms))
    (k : Option String) (v : Json) (ms : List (Option String × Json))
    (h : ∀ m ∈ (k, v) :: ms, Spells StringLiteral (.value m.2) (text m.2)) :
    Spells StringLiteral (.members ((k, v) :: ms))
      (before ++ quote k ++ ':' :: (between ++ text v) ++ more ms) := by
  induction ms generalizing k v with
  | nil =>
      have hk := stringLiteral_quote k
      have hv := h (k, v) List.mem_cons_self
      simpa [hlast] using Spells.lastMember hbefore hk spaces_nil hbetween hv hafter
  | cons m ms ih =>
      obtain ⟨k', v'⟩ := m
      have hk := stringLiteral_quote k
      have hv := h (k, v) List.mem_cons_self
      have htail := ih k' v' fun m hm => h m (List.mem_cons_of_mem (k, v) hm)
      simpa [hmore] using Spells.member hbefore hk spaces_nil hbetween hv spaces_nil htail

theorem spells_compactChars {v : Json} (h : WellFormed v) : Spells StringLiteral (.value v) (compactChars v) := by
  induction h with
  | null => exact .null
  | bool b =>
      cases b with
      | false => exact .isFalse
      | true => exact .isTrue
  | number h => exact .number h
  | string t => exact .string (stringLiteral_quote t)
  | @array vs h ih =>
      cases vs with
      | nil => exact .noItems spaces_nil
      | cons v vs =>
          exact .array (spells_items spaces_nil spaces_nil rfl (fun v vs => rfl) v vs ih)
  | @object ms h ih =>
      cases ms with
      | nil => exact .noMembers spaces_nil
      | cons m ms =>
          obtain ⟨k, v⟩ := m
          exact .object (spells_members spaces_nil spaces_nil spaces_nil rfl (fun k v ms => rfl)
            k v ms ih)

theorem spaces_space : Spaces [' '] := by
  simp [Spaces, isSpace]

theorem spaces_indent (depth : Nat) : Spaces (indent depth) := by
  intro c hc
  rcases List.mem_cons.mp hc with rfl | hc
  · decide
  · rw [List.eq_of_mem_replicate hc]
    decide

theorem spells_prettyChars {v : Json} (h : WellFormed v) (depth : Nat) :
    Spells StringLiteral (.value v) (prettyChars depth v) := by
  induction h generalizing depth with
  | null => exact .null
  | bool b =>
      cases b with
      | false => exact .isFalse
      | true => exact .isTrue
  | number h => exact .number h
  | string t => exact .string (stringLiteral_quote t)
  | @array vs h ih =>
      cases vs with
      | nil => exact .noItems spaces_nil
      | cons v vs =>
          exact .array (spells_items (spaces_indent (depth + 1)) (spaces_indent depth) rfl
            (fun v vs => rfl) v vs fun u hu => ih u hu (depth + 1))
  | @object ms h ih =>
      cases ms with
      | nil => exact .noMembers spaces_nil
      | cons m ms =>
          obtain ⟨k, v⟩ := m
          exact .object (spells_members (spaces_indent (depth + 1)) spaces_space
            (spaces_indent depth) rfl (fun k v ms => rfl) k v ms fun m hm => ih m hm (depth + 1))

/-- A well-formed value is read back from its compact text. -/
theorem parse?_compact {v : Json} (h : WellFormed v) : parse? v.compact = some v := by
  have hread := parse?_of_spells (spells_compactChars h) spaces_nil spaces_nil
  rwa [List.nil_append, List.append_nil] at hread

/-- A well-formed value is read back from its pretty text, also with spaces after it. -/
theorem parse?_pretty {v : Json} (h : WellFormed v) (hafter : Spaces after) :
    parse? (v.pretty ++ String.ofList after) = some v := by
  have hread := parse?_of_spells (spells_prettyChars h 0) spaces_nil hafter
  rwa [List.nil_append, String.ofList_append] at hread

end PhoneVerification.Json
