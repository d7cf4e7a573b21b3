import PhoneVerification.Proofs.Reading
import PhoneVerification.Text.Utf8
import Mathlib.Tactic.IntervalCases

/-!
# Reading the bytes of a text

The bytes of a character are read as this character, whatever follows them (`pieces_char`). A first
byte announces how many bytes follow, and each of these adds six bits to what was announced. Hence the
bytes of a text are read as this text.
-/

namespace PhoneVerification.Text.Utf8

/-! ## What a first byte announces -/

theorem lead?_two {d : Nat} (hlow : 2 ≤ d) (hhigh : d < 32) :
    lead? (d + 0xC0) = some ⟨d, 1, 0x80, 0xBF⟩ := by
  have hrange : (0xC2 ≤ d + 0xC0 && d + 0xC0 ≤ 0xDF) = true := by
    simp only [Bool.and_eq_true, decide_eq_true_eq]
    omega
  rw [lead?, if_pos hrange, Nat.add_sub_cancel]

/-- Of three bytes, the first range leaves out what fits into two and the surrogates. -/
theorem lead?_three {d : Nat} (h : d < 16) :
    lead? (d + 0xE0) =
      some ⟨d, 2, if d = 0 then 0xA0 else 0x80, if d = 13 then 0x9F else 0xBF⟩ := by
  interval_cases d <;> rfl

/-- Of four bytes, the first range leaves out what fits into three and what is too large. -/
theorem lead?_four {d : Nat} (h : d < 5) :
    lead? (d + 0xF0) =
      some ⟨d, 3, if d = 0 then 0x90 else 0x80, if d = 4 then 0x8F else 0xBF⟩ := by
  interval_cases d <;> rfl

/-! ## Reading a character -/

/-- A byte in the range adds its six bits. -/
theorem continuation_succ {d n low high : Nat} (hd : d < 64) (hlow : low ≤ d + 0x80)
    (hhigh : d + 0x80 ≤ high) (bits : Nat) (rest : List UInt8) :
    continuation bits (n + 1) low high (UInt8.ofNat (d + 0x80) :: rest) =
      continuation (64 * bits + d) n 0x80 0xBF rest := by
  have hbyte : (UInt8.ofNat (d + 0x80)).toNat = d + 0x80 :=
    UInt8.toNat_ofNat_of_lt' (by simp only [UInt8.size]; omega)
  simp only [continuation, hbyte]
  rw [if_pos (by simp [hlow, hhigh]), Nat.add_sub_cancel]

theorem pieces_of_lead {b bits n low high : Nat} (hlow : 0x80 ≤ b) (hhigh : b < 0x100)
    (hl : lead? b = some ⟨bits, n, low, high⟩) (rest : List UInt8) :
    pieces (UInt8.ofNat b :: rest) =
      (continuation bits n low high rest).1 :: pieces (continuation bits n low high rest).2 := by
  have hbyte : (UInt8.ofNat b).toNat = b := UInt8.toNat_ofNat_of_lt' hhigh
  rw [pieces, hbyte, if_neg (Nat.not_lt.mpr hlow), hl]

theorem pieces_one {d : Nat} (hd : d < 0x80) (rest : List UInt8) :
    pieces (UInt8.ofNat d :: rest) = some (Char.ofNat d) :: pieces rest := by
  have hbyte : (UInt8.ofNat d).toNat = d :=
    UInt8.toNat_ofNat_of_lt' (by simp only [UInt8.size]; omega)
  rw [pieces, hbyte, if_pos hd]

theorem pieces_two {d e : Nat} (hlow : 2 ≤ d) (hd : d < 32) (he : e < 64) (rest : List UInt8) :
    pieces (UInt8.ofNat (d + 0xC0) :: UInt8.ofNat (e + 0x80) :: rest) =
      some (Char.ofNat (64 * d + e)) :: pieces rest := by
  rw [pieces_of_lead (by omega) (by omega) (lead?_two hlow hd),
    continuation_succ he (by omega) (by omega), continuation]

theorem pieces_three {d e k : Nat} (hlow : d = 0 → 32 ≤ e) (hsurrogate : d = 13 → e < 32)
    (hd : d < 16) (he : e < 64) (hk : k < 64) (rest : List UInt8) :
    pieces (UInt8.ofNat (d + 0xE0) :: UInt8.ofNat (e + 0x80) :: UInt8.ofNat (k + 0x80) :: rest) =
      some (Char.ofNat (64 * (64 * d + e) + k)) :: pieces rest := by
  have hfirst : (if d = 0 then 0xA0 else 0x80) ≤ e + 0x80 := by
    split <;> omega
  have hlast : e + 0x80 ≤ if d = 13 then 0x9F else 0xBF := by
    split <;> omega
  rw [pieces_of_lead (by omega) (by omega) (lead?_three hd), continuation_succ he hfirst hlast,
    continuation_succ hk (by omega) (by omega), continuation]

theorem pieces_four {d e k m : Nat} (hlow : d = 0 → 16 ≤ e) (hhigh : d = 4 → e < 16)
    (hd : d < 5) (he : e < 64) (hk : k < 64) (hm : m < 64) (rest : List UInt8) :
    pieces (UInt8.ofNat (d + 0xF0) :: UInt8.ofNat (e + 0x80) :: UInt8.ofNat (k + 0x80) ::
        UInt8.ofNat (m + 0x80) :: rest) =
      some (Char.ofNat (64 * (64 * (64 * d + e) + k) + m)) :: pieces rest := by
  have hfirst : (if d = 0 then 0x90 else 0x80) ≤ e + 0x80 := by
    split <;> omega
  have hlast : e + 0x80 ≤ if d = 4 then 0x8F else 0xBF := by
    split <;> omega
  rw [pieces_of_lead (by omega) (by omega) (lead?_four hd), continuation_succ he hfirst hlast,
    continuation_succ hk (by omega) (by omega), continuation_succ hm (by omega) (by omega),
    continuation]

/-- The bytes of a character are read as this character, and nothing else is read of what follows. -/
theorem pieces_char (c : Char) (rest : List UInt8) :
    pieces (String.utf8EncodeChar c ++ rest) = some c :: pieces rest := by
  have hc : Char.ofNat c.val.toNat = c := Char.ofNat_toNat c
  have hvalid : c.val.toNat < 0xD800 ∨ 0xDFFF < c.val.toNat ∧ c.val.toNat < 0x110000 := c.valid
  rw [String.utf8EncodeChar.eq_1]
  generalize c.val.toNat = v at hc hvalid
  split
  next hone => rw [List.singleton_append, pieces_one (by omega), hc]
  next hone =>
    split
    next htwo =>
      have hbits : 64 * (v / 64 % 32) + v % 64 = v := by omega
      have h := pieces_two (d := v / 64 % 32) (e := v % 64) (by omega) (by omega) (by omega) rest
      rwa [hbits, hc] at h
    next htwo =>
      split
      next hthree =>
        have hbits : 64 * (64 * (v / 4096 % 16) + v / 64 % 64) + v % 64 = v := by omega
        have h := pieces_three (d := v / 4096 % 16) (e := v / 64 % 64) (k := v % 64) (by omega)
          (by omega) (by omega) (by omega) (by omega) rest
        rwa [hbits, hc] at h
      next hthree =>
        have hbits :
            64 * (64 * (64 * (v / 262144 % 8) + v / 4096 % 64) + v / 64 % 64) + v % 64 = v := by
          omega
        have h := pieces_four (d := v / 262144 % 8) (e := v / 4096 % 64) (k := v / 64 % 64)
          (m := v % 64) (by omega) (by omega) (by omega) (by omega) (by omega) (by omega) rest
        rwa [hbits, hc] at h

theorem pieces_encode (s : String) : pieces (encode s) = s.toList.map some := by
  unfold encode
  induction s.toList with
  | nil => rw [List.flatMap_nil, pieces, List.map_nil]
  | cons c cs ih => rw [List.flatMap_cons, pieces_char, ih, List.map_cons]

theorem decode?_encode (s : String) : decode? (encode s) = some s := by
  have hpieces : (s.toList.map some).mapM id = some (s.toList.map id) := by
    rw [List.mapM_map]
    exact mapM_eq_some_map fun _ _ => rfl
  rw [decode?, pieces_encode, hpieces, Option.map_some, List.map_id, String.ofList_toList]

/-- No byte of a text is a defect. -/
theorem decodeLossy_encode (s : String) : decodeLossy (encode s) = s := by
  simp [decodeLossy, pieces_encode]

end PhoneVerification.Text.Utf8
