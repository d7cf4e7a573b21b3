import PhoneVerification.RetryWindow
import Mathlib.Data.Nat.Dist

/-!
# Announced waits

A wait is announced in whole seconds, minutes or hours. What is announced is the nearest multiple of the
unit, and the larger one of two that are equally near (`NearestMultiple`). Where the unit changes, the
first wait in the larger unit is a multiple of both, so that a longer wait is never announced as a
shorter one.
-/

namespace PhoneVerification

/-- The multiple of a length that is nearest to a number, the larger one if two are equally near. -/
structure NearestMultiple (length s m : Nat) : Prop where
  dvd : length ∣ m
  nearest : ∀ m', length ∣ m' → m.dist s ≤ m'.dist s
  upward : ∀ m', length ∣ m' → m'.dist s = m.dist s → m' ≤ m

namespace NearestMultiple

variable {length s t m m' b : Nat}

/-- What is less than half a length below, or at most half a length above, is nearest. -/
theorem of_half (hdvd : length ∣ m) (habove : 2 * m ≤ 2 * s + length)
    (hbelow : 2 * s < 2 * m + length) : NearestMultiple length s m := by
  -- another multiple is a whole length away
  have hother : ∀ m', length ∣ m' → m' + length ≤ m ∨ m' = m ∨ m + length ≤ m' := by
    intro m' hdvd'
    rcases Nat.lt_trichotomy m' m with hlt | heq | hgt
    · exact .inl (Nat.not_lt.mp fun hnear =>
        Nat.not_le.mpr hlt (Nat.le_of_lt_add_of_dvd hnear hdvd hdvd'))
    · exact .inr (.inl heq)
    · exact .inr (.inr (Nat.not_lt.mp fun hnear =>
        Nat.not_le.mpr hgt (Nat.le_of_lt_add_of_dvd hnear hdvd' hdvd)))
  refine ⟨hdvd, ?_, ?_⟩
  · intro m' hdvd'
    have := hother m' hdvd'
    unfold Nat.dist
    omega
  · intro m' hdvd' hdist
    have := hother m' hdvd'
    unfold Nat.dist at hdist
    omega

/-- A multiple that is reached by the number is not missed. -/
theorem le_of_dvd_of_le (h : NearestMultiple length s m) (hdvd : length ∣ b) (hb : b ≤ s) :
    b ≤ m := by
  have := h.nearest b hdvd
  unfold Nat.dist at this
  omega

/-- A multiple that is not reached by the number is not passed. -/
theorem le_of_le_of_dvd (h : NearestMultiple length s m) (hdvd : length ∣ b) (hb : s ≤ b) :
    m ≤ b := by
  have := h.nearest b hdvd
  unfold Nat.dist at this
  omega

theorem mono (h : NearestMultiple length s m) (h' : NearestMultiple length t m') (hle : s ≤ t) :
    m ≤ m' := by
  by_contra hlt
  -- then the larger multiple is as near to the larger number, so it is the one to take
  have hs := h.nearest m' h'.dvd
  have ht := h'.nearest m h.dvd
  have hdist : m.dist t = m'.dist t := by
    unfold Nat.dist at hs ht ⊢
    omega
  exact hlt (h'.upward m h.dvd hdist)

end NearestMultiple

namespace RetryWindow

variable {w w' : RetryWindow} {value unit : UInt64}

/-- The wait that is announced, in seconds. -/
def announced (w : RetryWindow) : Nat :=
  w.scaled.1.toNat * w.scaled.2.length.toNat

/-! ## Rounding -/

/-- The quotient by at least two is far from the end of the range. -/
theorem toNat_div_add_one_lt (hunit : 2 ≤ unit.toNat) : (value / unit).toNat + 1 < UInt64.size := by
  have hvalue : value.toNat < UInt64.size := value.toNat_lt
  have hle : value.toNat / unit.toNat ≤ value.toNat / 2 := Nat.div_le_div_left hunit (by decide)
  rw [UInt64.toNat_div]
  unfold UInt64.size at hvalue ⊢
  omega

/-- No sum leaves the range, so rounding is what it is among the natural numbers. -/
theorem toNat_roundHalfUp (hunit : 2 ≤ unit.toNat) : (roundHalfUp value unit).toNat =
    if unit.toNat / 2 ≤ value.toNat % unit.toNat then value.toNat / unit.toNat + 1
    else value.toNat / unit.toNat := by
  have hsum : (value / unit + 1).toNat = value.toNat / unit.toNat + 1 := by
    rw [UInt64.toNat_add, ← UInt64.toNat_div]
    exact Nat.mod_eq_of_lt (toNat_div_add_one_lt hunit)
  have hcond : value % unit ≥ unit / 2 ↔ unit.toNat / 2 ≤ value.toNat % unit.toNat := by
    rw [ge_iff_le, UInt64.le_iff_toNat_le, UInt64.toNat_div, UInt64.toNat_mod]
    rfl
  unfold roundHalfUp
  by_cases h : value % unit ≥ unit / 2
  · rw [if_pos h, if_pos (hcond.mp h), hsum]
  · rw [if_neg h, if_neg (fun h' => h (hcond.mpr h')), UInt64.toNat_div]

/-- A quotient by an even unit is rounded to the nearest multiple. -/
theorem nearestMultiple_roundHalfUp (hunit : 2 ≤ unit.toNat) (heven : 2 ∣ unit.toNat) :
    NearestMultiple unit.toNat value.toNat ((roundHalfUp value unit).toNat * unit.toNat) := by
  have hvalue : value.toNat / unit.toNat * unit.toNat + value.toNat % unit.toNat = value.toNat :=
    Nat.div_add_mod' value.toNat unit.toNat
  have hmod : value.toNat % unit.toNat < unit.toNat := Nat.mod_lt _ (by omega)
  have hhalf : 2 * (unit.toNat / 2) = unit.toNat := Nat.mul_div_cancel' heven
  have hnext := Nat.add_one_mul (value.toNat / unit.toNat) unit.toNat
  rw [toNat_roundHalfUp hunit]
  apply NearestMultiple.of_half (Nat.dvd_mul_left _ _)
  · split <;> omega
  · split <;> omega

/-! ## Units -/

theorem unit_eq (w : RetryWindow) : w.unit =
    if w.seconds.toNat < 60 then .seconds
    else if w.seconds.toNat < 3600 then .minutes else .hours :=
  rfl

theorem scaled_eq (w : RetryWindow) : w.scaled =
    (if w.unit = .seconds then w.seconds else roundHalfUp w.seconds w.unit.length, w.unit) := by
  unfold scaled
  cases w.unit <;> rfl

theorem nearestMultiple_announced (w : RetryWindow) :
    NearestMultiple w.unit.length.toNat w.seconds.toNat w.announced := by
  rw [announced, scaled_eq]
  cases w.unit with
  | seconds =>
      apply NearestMultiple.of_half (Nat.dvd_mul_left _ _)
      · simp [WaitUnit.length]
      · simp [WaitUnit.length]
  | minutes => exact nearestMultiple_roundHalfUp (by decide) (by decide)
  | hours => exact nearestMultiple_roundHalfUp (by decide) (by decide)

/-- The unit is told by the two lengths between which a wait lies. -/
theorem unit_cases (w : RetryWindow) :
    (w.unit = .seconds ∧ w.seconds.toNat < 60) ∨
    (w.unit = .minutes ∧ 60 ≤ w.seconds.toNat ∧ w.seconds.toNat < 3600) ∨
    (w.unit = .hours ∧ 3600 ≤ w.seconds.toNat) := by
  rw [unit_eq]
  by_cases hminute : w.seconds.toNat < 60
  · rw [if_pos hminute]
    exact .inl ⟨rfl, hminute⟩
  · rw [if_neg hminute]
    by_cases hhour : w.seconds.toNat < 3600
    · rw [if_pos hhour]
      exact .inr (.inl ⟨rfl, Nat.not_lt.mp hminute, hhour⟩)
    · rw [if_neg hhour]
      exact .inr (.inr ⟨rfl, Nat.not_lt.mp hhour⟩)

/-- A larger unit is reached by the waits that are announced in it. -/
theorem length_le_of_unit_ne (h : w.unit ≠ .seconds) : w.unit.length.toNat ≤ w.seconds.toNat := by
  rcases unit_cases w with ⟨hunit, -⟩ | ⟨hunit, hminute, -⟩ | ⟨hunit, hhour⟩
  · exact absurd hunit h
  · rw [hunit]
    exact hminute
  · rw [hunit]
    exact hhour

/-- Two waits are announced in the same unit, or the unit of the longer one lies between them and is a
multiple of the other unit. -/
theorem unit_eq_or_between (hle : w.seconds.toNat ≤ w'.seconds.toNat) : w.unit = w'.unit ∨
    (w.seconds.toNat ≤ w'.unit.length.toNat ∧ w'.unit.length.toNat ≤ w'.seconds.toNat ∧
      w.unit.length.toNat ∣ w'.unit.length.toNat) := by
  have hseconds : WaitUnit.seconds.length.toNat = 1 := rfl
  have hminutes : WaitUnit.minutes.length.toNat = 60 := rfl
  have hhours : WaitUnit.hours.length.toNat = 3600 := rfl
  rcases unit_cases w with ⟨hw, hbelow⟩ | ⟨hw, hreached, hbelow⟩ | ⟨hw, hreached⟩
  · rcases unit_cases w' with ⟨hw', -⟩ | ⟨hw', hreached', -⟩ | ⟨hw', hreached'⟩
    · exact .inl (hw.trans hw'.symm)
    · rw [hw, hw', hseconds, hminutes]
      exact .inr ⟨Nat.le_of_lt hbelow, hreached', by decide⟩
    · rw [hw, hw', hseconds, hhours]
      exact .inr ⟨by omega, hreached', by decide⟩
  · rcases unit_cases w' with ⟨-, hbelow'⟩ | ⟨hw', -, -⟩ | ⟨hw', hreached'⟩
    · omega
    · exact .inl (hw.trans hw'.symm)
    · rw [hw, hw', hminutes, hhours]
      exact .inr ⟨Nat.le_of_lt hbelow, hreached', by decide⟩
  · rcases unit_cases w' with ⟨-, hbelow'⟩ | ⟨-, -, hbelow'⟩ | ⟨hw', -⟩
    · omega
    · omega
    · exact .inl (hw.trans hw'.symm)

/-- A longer wait is not announced as a shorter one. -/
theorem announced_mono (hle : w.seconds.toNat ≤ w'.seconds.toNat) :
    w.announced ≤ w'.announced := by
  have hnear := nearestMultiple_announced w
  have hnear' := nearestMultiple_announced w'
  rcases unit_eq_or_between hle with hunit | ⟨hbelow, habove, hdvd⟩
  · rw [← hunit] at hnear'
    exact hnear.mono hnear' hle
  · calc w.announced
        ≤ w'.unit.length.toNat := hnear.le_of_le_of_dvd hdvd hbelow
      _ ≤ w'.announced := hnear'.le_of_dvd_of_le (Nat.dvd_refl _) habove

/-- A wait in minutes or hours is announced as at least one of them. -/
theorem one_le_of_unit_ne (h : w.unit ≠ .seconds) : 1 ≤ w.scaled.1.toNat := by
  have hle : w.unit.length.toNat ≤ w.announced :=
    (nearestMultiple_announced w).le_of_dvd_of_le (Nat.dvd_refl _) (length_le_of_unit_ne h)
  have hpos : 0 < w.unit.length.toNat := by
    cases w.unit <;> decide
  rw [Nat.one_le_iff_ne_zero]
  intro hzero
  rw [announced, hzero, Nat.zero_mul] at hle
  exact Nat.not_le.mpr hpos hle

/-- The sum that rounding may form stays in the range. -/
theorem toNat_quotient_add_one_lt (h : w.unit ≠ .seconds) :
    (w.seconds / w.unit.length).toNat + 1 < UInt64.size := by
  have hlength : 2 ≤ w.unit.length.toNat := by
    cases hunit : w.unit with
    | seconds => exact absurd hunit h
    | minutes => decide
    | hours => decide
  exact toNat_div_add_one_lt hlength

/-- A wait is announced in seconds below a minute, in minutes below an hour, and in hours from then on,
as the nearest multiple of the unit, the larger one of two. It is at least one minute or one hour where
these are the units, and no number on the way leaves the range. A longer wait is never announced as a
shorter one. -/
theorem announced_nearest (w : RetryWindow) :
    w.scaled.2 = (if w.seconds.toNat < 60 then .seconds
      else if w.seconds.toNat < 3600 then .minutes else .hours) ∧
    NearestMultiple w.scaled.2.length.toNat w.seconds.toNat w.announced ∧
    (w.scaled.2 ≠ .seconds → 1 ≤ w.scaled.1.toNat ∧
      (w.seconds / w.scaled.2.length).toNat + 1 < UInt64.size) ∧
    ∀ w' : RetryWindow, w.seconds ≤ w'.seconds → w.announced ≤ w'.announced := by
  have hunit : w.scaled.2 = w.unit := by rw [scaled_eq]
  rw [hunit]
  refine ⟨unit_eq w, nearestMultiple_announced w, ?_, ?_⟩
  · intro hlarger
    exact ⟨one_le_of_unit_ne hlarger, toNat_quotient_add_one_lt hlarger⟩
  · intro w' hle
    exact announced_mono (UInt64.le_iff_toNat_le.mp hle)

/-- A second less than an hour is announced as sixty minutes, which is no more than one hour. -/
theorem announced_nearest_hour :
    ((⟨3599⟩ : RetryWindow).scaled = (60, .minutes) ∧
      1 ≤ (⟨3599⟩ : RetryWindow).scaled.1.toNat ∧
      ((3599 : UInt64) / WaitUnit.minutes.length).toNat + 1 < UInt64.size) ∧
    ((3599 : UInt64) ≤ 3600 ∧
      (⟨3599⟩ : RetryWindow).announced ≤ (⟨3600⟩ : RetryWindow).announced) := by
  obtain ⟨-, -, hlarger, hmono⟩ := announced_nearest ⟨3599⟩
  have hminutes : (⟨3599⟩ : RetryWindow).scaled.2 ≠ .seconds := by decide
  have hle : (3599 : UInt64) ≤ 3600 := by decide
  exact ⟨⟨rfl, hlarger hminutes⟩, hle, hmono ⟨3600⟩ hle⟩

/-- The longest wait is announced in hours. -/
example : (⟨18446744073709551615⟩ : RetryWindow).scaled = (5124095576030431, .hours) := by
  decide

end RetryWindow

end PhoneVerification
