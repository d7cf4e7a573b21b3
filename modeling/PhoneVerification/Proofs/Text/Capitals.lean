import PhoneVerification.Proofs.Text.Letters
import PhoneVerification.Proofs.Text.Strip
import PhoneVerification.Text.Uppercase

/-!
# Capital letters are their own capitals

The images of a table of runs lie apart from what the table is asked about: no capital form has a
capital form other than itself, and none has a blank. So a text in capitals stays as it is when it is
put in capitals again, and nothing comes off its ends that was not blank before. The case of the
letters A to Z makes no difference to the capital form.
-/

namespace PhoneVerification.Text

namespace Run

variable {r : Run} {n : Nat}

/-- Whether the images of a run all lie before a span or all behind it. -/
def avoids (r : Run) (s : Span) : Bool :=
  Nat.blt s.last r.image || Nat.blt (r.image + (r.last - r.first)) s.first

/-- Whether the members of a run lie apart from the images of another, told by the ends of both or by
the remainders. -/
def isApartFrom (q r : Run) : Bool :=
  r.avoids ⟨q.first, q.last⟩ ||
    ((r.first == r.last || r.step % q.step == 0) && r.image % q.step != q.first % q.step)

theorem imageOf_bounds (hn : r.contains n = true) :
    r.image ≤ r.imageOf n ∧ r.imageOf n ≤ r.image + (r.last - r.first) := by
  simp only [contains, Bool.and_eq_true, decide_eq_true_eq] at hn
  simp only [imageOf]
  omega

theorem imageOf_lt_or_lt {s : Span} (h : r.avoids s = true) (hn : r.contains n = true) :
    r.imageOf n < s.first ∨ s.last < r.imageOf n := by
  have hbounds := imageOf_bounds hn
  simp only [avoids, Bool.or_eq_true, Nat.blt_eq] at h
  omega

theorem contains_imageOf_of_avoids {s : Span} (h : r.avoids s = true) (hn : r.contains n = true) :
    s.contains (r.imageOf n) = false := by
  have hout := imageOf_lt_or_lt h hn
  simp only [Span.contains, Bool.and_eq_false_iff, decide_eq_false_iff_not]
  omega

/-- The images of a run keep its distances. -/
theorem imageOf_mod {m : Nat} (hn : r.contains n = true)
    (hm : r.first = r.last ∨ r.step % m = 0) : r.imageOf n % m = r.image % m := by
  simp only [contains, Bool.and_eq_true, decide_eq_true_eq, beq_iff_eq] at hn
  have hdvd : m ∣ n - r.first := by
    rcases hm with hsingle | hstep
    · have hzero : n - r.first = 0 := by omega
      rw [hzero]
      exact Nat.dvd_zero m
    · exact Nat.dvd_trans (Nat.dvd_of_mod_eq_zero hstep) (Nat.dvd_of_mod_eq_zero hn.2)
  obtain ⟨k, hk⟩ := hdvd
  rw [imageOf, hk, Nat.add_mul_mod_self_left]

theorem contains_imageOf_of_isApartFrom {q : Run} (h : q.isApartFrom r = true)
    (hn : r.contains n = true) : q.contains (r.imageOf n) = false := by
  rw [isApartFrom, Bool.or_eq_true] at h
  rcases h with h | h
  · have hout := contains_imageOf_of_avoids h hn
    simp only [Span.contains] at hout
    simp [contains, hout]
  · simp only [Bool.and_eq_true, Bool.or_eq_true, beq_iff_eq, bne_iff_ne] at h
    obtain ⟨hstep, hne⟩ := h
    rw [← Bool.not_eq_true]
    intro hmem
    simp only [contains, Bool.and_eq_true, decide_eq_true_eq, beq_iff_eq] at hmem
    obtain ⟨⟨hfirst, -⟩, hmod⟩ := hmem
    apply hne
    rw [← imageOf_mod hn hstep, ← Nat.sub_add_cancel hfirst, Nat.add_mod, hmod, Nat.zero_add,
      Nat.mod_mod]

end Run

/-- The blanks as spans. -/
def blanks : List Span :=
  [⟨0x09, 0x0D⟩, ⟨0x20, 0x20⟩, ⟨0x85, 0x85⟩, ⟨0xA0, 0xA0⟩, ⟨0x1680, 0x1680⟩, ⟨0x2000, 0x200A⟩,
    ⟨0x2028, 0x2028⟩, ⟨0x2029, 0x2029⟩, ⟨0x202F, 0x202F⟩, ⟨0x205F, 0x205F⟩, ⟨0x3000, 0x3000⟩]

theorem isBlank_eq_any (c : Char) : isBlank c = blanks.any fun s => s.contains c.toNat := by
  have hsingle : ∀ n : Nat, (decide (n ≤ c.toNat) && decide (c.toNat ≤ n)) = (c.toNat == n) := by
    intro n
    rw [Bool.eq_iff_iff, Bool.and_eq_true, decide_eq_true_eq, decide_eq_true_eq, beq_iff_eq]
    omega
  simp only [blanks, List.any_cons, List.any_nil, Span.contains, hsingle, isBlank, Bool.or_assoc,
    Bool.or_false]

/-- The numbers of no character. -/
def surrogates : Span := ⟨0xD800, 0xDFFF⟩

/-- Whether the images of a run are characters that are not blank and for which the tables have no
other capital form. -/
def Run.isSettled (r : Run) : Bool :=
  (CaseTable.singles.all fun q => q.isApartFrom r) &&
    (CaseTable.expansions.all fun e => r.avoids ⟨e.1, e.1⟩) && (blanks.all fun s => r.avoids s) &&
      r.avoids surrogates && Nat.blt (r.image + (r.last - r.first)) 0x110000

/-- A single character as the run that has itself as its image. -/
def Run.single (n : Nat) : Run := ⟨n, n, 1, n⟩

theorem singles_settled : CaseTable.singles.all Run.isSettled = true := by
  decide +kernel

theorem expansions_settled :
    (CaseTable.expansions.all fun e => e.2.all fun n => (Run.single n).isSettled) = true := by
  decide +kernel

/-- The tables say nothing about the image of a settled run, and it is not blank. -/
theorem capitals_imageOf {r : Run} {n : Nat} (h : r.isSettled = true) (hn : r.contains n = true) :
    capitals (Char.ofNat (r.imageOf n)) = [Char.ofNat (r.imageOf n)] ∧
      isBlank (Char.ofNat (r.imageOf n)) = false := by
  simp only [Run.isSettled, Bool.and_eq_true, List.all_eq_true, Nat.blt_eq] at h
  obtain ⟨⟨⟨⟨hapart, hexpansions⟩, hblanks⟩, hsurrogates⟩, hbound⟩ := h
  have hvalue : (Char.ofNat (r.imageOf n)).toNat = r.imageOf n := by
    have hout := Run.imageOf_lt_or_lt hsurrogates hn
    have hbounds := Run.imageOf_bounds hn
    have hvalid : (r.imageOf n).isValidChar := by
      simp only [surrogates] at hout
      simp only [Nat.isValidChar]
      omega
    rw [Char.ofNat, dif_pos hvalid]
    rfl
  constructor
  · have hsingle : singleCapital? (r.imageOf n) = none := by
      rw [singleCapital?, Option.map_eq_none_iff, List.find?_eq_none]
      intro q hq
      rw [Run.contains_imageOf_of_isApartFrom (hapart q hq) hn]
      exact Bool.false_ne_true
    have hexpansion : (CaseTable.expansions.find? fun e => e.1 == r.imageOf n) = none := by
      rw [List.find?_eq_none]
      intro e he hkey
      have hout := Run.contains_imageOf_of_avoids (hexpansions e he) hn
      simp [Span.contains, beq_iff_eq.mp hkey] at hout
    rw [capitals, hvalue, hexpansion, hsingle]
  · rw [isBlank_eq_any, hvalue, List.any_eq_false]
    intro s hs
    rw [Run.contains_imageOf_of_avoids (hblanks s hs) hn]
    exact Bool.false_ne_true

/-- A character is its own capital form, or its capital form has only letters that are their own and
are not blank. -/
theorem capitals_eq_self_or (c : Char) :
    capitals c = [c] ∨ ∀ d ∈ capitals c, capitals d = [d] ∧ isBlank d = false := by
  cases hexpansion : CaseTable.expansions.find? fun e => e.1 == c.toNat with
  | some e =>
      right
      intro d hd
      rw [capitals, hexpansion] at hd
      obtain ⟨n, hn, rfl⟩ := List.mem_map.mp hd
      have hall := List.all_eq_true.mp expansions_settled e (List.mem_of_find?_eq_some hexpansion)
      have hsettled := List.all_eq_true.mp hall n hn
      have hself : (Run.single n).contains n = true := by simp [Run.contains, Run.single]
      simpa [Run.imageOf, Run.single] using capitals_imageOf hsettled hself
  | none =>
      cases hsingle : CaseTable.singles.find? fun r => r.contains c.toNat with
      | some r =>
          right
          intro d hd
          rw [capitals, hexpansion, singleCapital?, hsingle] at hd
          rw [List.mem_singleton.mp hd]
          have hsettled := List.all_eq_true.mp singles_settled r (List.mem_of_find?_eq_some hsingle)
          have hmem := List.find?_some hsingle
          exact capitals_imageOf hsettled hmem
      | none =>
          left
          rw [capitals, hexpansion, singleCapital?, hsingle]
          rfl

theorem capitals_of_mem_capitals {c d : Char} (h : d ∈ capitals c) : capitals d = [d] := by
  rcases capitals_eq_self_or c with hself | hall
  · rw [hself, List.mem_singleton] at h
    rw [h, hself]
  · exact (hall d h).1

theorem isBlank_of_mem_capitals {c d : Char} (hc : isBlank c = false) (h : d ∈ capitals c) :
    isBlank d = false := by
  rcases capitals_eq_self_or c with hself | hall
  · rw [hself, List.mem_singleton] at h
    rw [h, hc]
  · exact (hall d h).2

/-- No entry of the table of expansions is empty. -/
theorem expansions_ne_nil : ∀ e ∈ CaseTable.expansions, e.2 ≠ [] := by
  decide

theorem capitals_ne_nil (c : Char) : capitals c ≠ [] := by
  unfold capitals
  split
  next e h =>
    rw [ne_eq, List.map_eq_nil_iff]
    exact expansions_ne_nil e (List.mem_of_find?_eq_some h)
  next =>
    split
    · exact List.cons_ne_nil _ _
    · exact List.cons_ne_nil _ _

theorem uppercase_isEmpty (s : String) : (uppercase s).isEmpty = s.isEmpty := by
  rw [Bool.eq_iff_iff, String.isEmpty_iff, String.isEmpty_iff, ← String.toList_eq_nil_iff,
    ← String.toList_eq_nil_iff, toList_uppercase, List.flatMap_eq_nil_iff]
  constructor
  · intro h
    exact List.eq_nil_iff_forall_not_mem.mpr fun c hc => capitals_ne_nil c (h c hc)
  · intro h
    simp [h]

/-- A text in capitals stays as it is. -/
theorem uppercase_uppercase (s : String) : uppercase (uppercase s) = uppercase s := by
  rw [← String.toList_inj, toList_uppercase, toList_uppercase, List.flatMap_assoc]
  refine List.flatMap_congr fun c _ => ?_
  calc (capitals c).flatMap capitals
      = (capitals c).flatMap fun d => [d] :=
        List.flatMap_congr fun d hd => capitals_of_mem_capitals hd
    _ = capitals c := List.flatMap_singleton' _

/-- Capital letters come off the ends of a text only if blanks came off before. -/
theorem trim_uppercase {s : String} (h : trim s = s) : trim (uppercase s) = uppercase s := by
  rw [← String.toList_inj, toList_trim, toList_uppercase]
  rw [← String.toList_inj, toList_trim] at h
  obtain ⟨-, hhead, hlast⟩ := strip_eq_iff.mp h
  apply strip_eq_self_of_ends
  · intro d hd
    cases hs : s.toList with
    | nil => simp [hs] at hd
    | cons c rest =>
        rw [hs] at hd hhead
        rw [List.flatMap_cons, List.head?_append_of_ne_nil _ (capitals_ne_nil c)] at hd
        exact isBlank_of_mem_capitals (hhead c rfl) (List.mem_of_mem_head? hd)
  · intro d hd
    rcases List.eq_nil_or_concat s.toList with hs | ⟨front, c, hs⟩
    · simp [hs] at hd
    · rw [List.concat_eq_append] at hs
      rw [hs, List.flatMap_append, List.flatMap_singleton,
        List.getLast?_append_of_ne_nil _ (capitals_ne_nil c)] at hd
      rw [hs, List.getLast?_concat] at hlast
      exact isBlank_of_mem_capitals (hlast c rfl) (List.mem_of_getLast? hd)

/-! ## The case of the letters A to Z -/

/-- A letter in small form has the same capital. -/
theorem capitals_lowerAscii (c : Char) : capitals (lowerAscii c) = capitals c :=
  same_lowerAscii (by decide +kernel) c

theorem isBlank_lowerAscii (c : Char) : isBlank (lowerAscii c) = isBlank c :=
  same_lowerAscii (by decide) c

theorem uppercase_lowerAsciiText (s : String) : uppercase (lowerAsciiText s) = uppercase s := by
  rw [lowerAsciiText, ← String.toList_inj, toList_uppercase, toList_uppercase, String.toList_ofList,
    List.flatMap_map]
  exact List.flatMap_congr fun c _ => capitals_lowerAscii c

theorem trim_lowerAsciiText (s : String) : trim (lowerAsciiText s) = lowerAsciiText (trim s) := by
  rw [← String.toList_inj, toList_trim, lowerAsciiText, lowerAsciiText, String.toList_ofList,
    String.toList_ofList, toList_trim, strip_map isBlank_lowerAscii]

/-- The case of the letters makes no difference to the trimmed text in capitals. -/
theorem uppercase_trim_of_sameAscii {s t : String} (h : sameAscii s t = true) :
    uppercase (trim s) = uppercase (trim t) := by
  have hsmall : lowerAsciiText s = lowerAsciiText t := beq_iff_eq.mp h
  calc uppercase (trim s)
      = uppercase (trim (lowerAsciiText s)) := by
        rw [trim_lowerAsciiText, uppercase_lowerAsciiText]
    _ = uppercase (trim (lowerAsciiText t)) := by rw [hsmall]
    _ = uppercase (trim t) := by rw [trim_lowerAsciiText, uppercase_lowerAsciiText]

end PhoneVerification.Text
