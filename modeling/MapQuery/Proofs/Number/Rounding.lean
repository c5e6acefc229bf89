import MapQuery.Proofs.Number.Value

/-!
# Rounding

A result is computed as a mantissa, a power of two and what is known of the rest, and is then rounded to a double. How
it is given may differ; what it is rounded to depends on the number alone.

* `Given` — what a number is given as, and `Given.round_congr`: all that a number can be given as is rounded alike.
* `Rounds` — what a positive number is rounded to, with `rounds_mul` and `rounds_div` for products and quotients.
* `unpack_pack` — a mantissa of all bits is kept as it is.
-/

namespace MapQuery.Rounding

open Float.Model (Format totalExponent)
open Float.Model.UnpackedFloat
open Shortest (Parts)

/-! ### A mantissa with two more bits -/

/-- A mantissa and its two bits say how much a number is: the whole part, whether a half is added, and whether there is
more than that. -/
def Tells (em : ExtendedMantissa) (y : ℚ) : Prop :=
  ∃ rest : ℚ, y = em.mantissa + (if em.roundBit then 1 / 2 else 0) + rest ∧ 0 ≤ rest ∧ rest < 1 / 2 ∧
    (em.stickyBit = true ↔ rest ≠ 0)

/-- The number of halves. -/
def halves (em : ExtendedMantissa) : ℕ :=
  2 * em.mantissa + if em.roundBit then 1 else 0

theorem cast_halves (em : ExtendedMantissa) :
    (halves em : ℚ) = 2 * (em.mantissa + (if em.roundBit then 1 / 2 else 0)) := by
  unfold halves
  split <;> push_cast <;> ring

/-- No other mantissa and bits say the same. -/
theorem Tells.unique {em em' : ExtendedMantissa} {y : ℚ} (h : Tells em y) (h' : Tells em' y) : em = em' := by
  obtain ⟨rest, hy, hlow, hhigh, hsticky⟩ := h
  obtain ⟨rest', hy', hlow', hhigh', hsticky'⟩ := h'
  -- Two whole numbers that agree up to less than one are the same.
  have hsum : (halves em : ℚ) + 2 * rest = halves em' + 2 * rest' := by
    rw [cast_halves, cast_halves]
    linarith
  have hless : halves em < halves em' + 1 := by
    have : (halves em : ℚ) < halves em' + 1 := by linarith
    exact_mod_cast this
  have hless' : halves em' < halves em + 1 := by
    have : (halves em' : ℚ) < halves em + 1 := by linarith
    exact_mod_cast this
  have hhalves : halves em = halves em' := by omega
  have hrest : rest = rest' := by
    rw [hhalves] at hsum
    linarith
  subst hrest
  rcases em with ⟨m, r, s⟩
  rcases em' with ⟨m', r', s'⟩
  have hbit : s = s' := Bool.eq_iff_iff.mpr (hsticky.trans hsticky'.symm)
  have hround : r = r' := by
    unfold halves at hhalves
    cases r <;> cases r' <;> simp at hhalves ⊢ <;> omega
  have hmantissa : m = m' := by
    unfold halves at hhalves
    subst hround
    simpa using hhalves
  rw [hmantissa, hround, hbit]

theorem tells_exact (m : ℕ) : Tells (.ofMantissaAndAccuracy m .exact) m :=
  ⟨0, by simp [ExtendedMantissa.ofMantissaAndAccuracy], le_rfl, by norm_num,
    by simp [ExtendedMantissa.ofMantissaAndAccuracy]⟩

/-- A quotient of whole numbers, of which the whole part is given and what is left has been compared with a half. -/
theorem tells_fraction {n d : ℕ} (hd : 0 < d) :
    Tells (.ofMantissaAndAccuracy (n / d) (accuracyOfFraction (n % d) d)) (n / d) := by
  have hd' : (0 : ℚ) < d := by exact_mod_cast hd
  have hlt : n % d < d := Nat.mod_lt n hd
  have hsplit : (n : ℚ) / d = (n / d : ℕ) + (n % d : ℕ) / d := by
    have hnat : (n : ℚ) = d * (n / d : ℕ) + (n % d : ℕ) := by exact_mod_cast (Nat.div_add_mod n d).symm
    rw [eq_comm, ← sub_eq_zero]
    conv_lhs => rw [hnat]
    field_simp
    ring
  rw [hsplit]
  generalize n % d = r at hlt ⊢
  unfold accuracyOfFraction
  by_cases hzero : r = 0
  · rw [if_pos hzero, hzero]
    simpa using tells_exact (n / d)
  have hpos : (0 : ℚ) < r := by exact_mod_cast Nat.pos_of_ne_zero hzero
  rw [if_neg hzero]
  -- What is left is below a half, a half, or above it.
  rcases lt_trichotomy (2 * r) d with hless | hhalf | hmore
  · have hless' : 2 * (r : ℚ) < d := by exact_mod_cast hless
    rw [Nat.compare_eq_lt.mpr hless]
    refine ⟨r / d, by simp [ExtendedMantissa.ofMantissaAndAccuracy], by positivity, ?_, ?_⟩
    · rw [div_lt_div_iff₀ hd' two_pos]
      linarith
    · simp [ExtendedMantissa.ofMantissaAndAccuracy, hzero, hd.ne']
  · have hhalf' : 2 * (r : ℚ) = d := by exact_mod_cast hhalf
    rw [Nat.compare_eq_eq.mpr hhalf]
    refine ⟨0, ?_, le_rfl, by norm_num, by simp [ExtendedMantissa.ofMantissaAndAccuracy]⟩
    have hquotient : (r : ℚ) / d = 1 / 2 := by
      rw [div_eq_div_iff hd'.ne' two_ne_zero]
      linarith
    simp [ExtendedMantissa.ofMantissaAndAccuracy, hquotient]
  · have hmore' : (d : ℚ) < 2 * r := by exact_mod_cast hmore
    have hlt' : (r : ℚ) < d := by exact_mod_cast hlt
    rw [Nat.compare_eq_gt.mpr hmore]
    have hhalf : 1 / 2 < (r : ℚ) / d := by
      rw [div_lt_div_iff₀ two_pos hd']
      linarith
    have hone : (r : ℚ) / d < 1 := (div_lt_one hd').mpr hlt'
    refine ⟨r / d - 1 / 2, ?_, by linarith, by linarith, ?_⟩
    · simp [ExtendedMantissa.ofMantissaAndAccuracy]
    · simp only [ExtendedMantissa.ofMantissaAndAccuracy, true_iff]
      linarith

/-- Half of a number: the last bit of the mantissa becomes the half, and the half is part of what is more. -/
theorem Tells.shiftRightOne {em : ExtendedMantissa} {y : ℚ} (h : Tells em y) : Tells em.shiftRightOne (y / 2) := by
  obtain ⟨rest, hy, hlow, hhigh, hsticky⟩ := h
  have hmantissa : (em.mantissa : ℚ) = 2 * (em.mantissa / 2 : ℕ) + (em.mantissa % 2 : ℕ) := by
    exact_mod_cast (Nat.div_add_mod em.mantissa 2).symm
  have hbit : ((em.mantissa % 2 : ℕ) : ℚ) / 2 = if em.shiftRightOne.roundBit then 1 / 2 else 0 := by
    unfold ExtendedMantissa.shiftRightOne
    rcases Nat.mod_two_eq_zero_or_one em.mantissa with h | h <;> simp [h]
  refine ⟨(if em.roundBit then 1 / 2 else 0) / 2 + rest / 2, ?_, ?_, ?_, ?_⟩
  · rw [← hbit, hy]
    show _ = ((em.mantissa / 2 : ℕ) : ℚ) + _ + _
    conv_lhs => rw [hmantissa]
    ring
  · split <;> linarith
  · split <;> linarith
  · show (em.roundBit || em.stickyBit) = true ↔ _
    rw [Bool.or_eq_true, hsticky]
    cases em.roundBit with
    | false => simp
    | true =>
      simp only [true_or, if_true, true_iff]
      linarith

/-- A number divided by a power of two. The induction is on the power, one bit after the other. -/
theorem Tells.shiftRight {em : ExtendedMantissa} {y : ℚ} (h : Tells em y) (k : ℕ) : Tells (em >>> k) (y / 2 ^ k) := by
  induction k with
  | zero =>
    rw [pow_zero, div_one]
    exact h
  | succ k ih =>
    rw [pow_succ, ← div_div]
    exact ih.shiftRightOne

/-! ### Rounding to a double -/

/-- A positive number as it is given for rounding: how much of a power of two it is, where the mantissa has all bits
that a double can have, or the power is not above the least one. -/
structure Given (x : ℚ) (m : ℕ) (e : ℤ) (a : Accuracy) : Prop where
  tells : Tells (.ofMantissaAndAccuracy m a) (x / 2 ^ e)
  fine : 2 ^ 52 ≤ m ∨ e ≤ -1074

/-- The power of two of the last bit of the double next to a number. -/
def lastPlace (x : ℚ) : ℤ :=
  max (Int.log 2 x - 52) (-1074)

namespace Given

variable {x : ℚ} {m : ℕ} {e : ℤ} {a : Accuracy}

theorem mantissa_le (h : Given x m e a) : (m : ℚ) * 2 ^ e ≤ x := by
  obtain ⟨rest, hx, hlow, -, -⟩ := h.tells
  have hmantissa : (ExtendedMantissa.ofMantissaAndAccuracy m a).mantissa = m := by
    rcases a with _ | o
    · rfl
    · cases o <;> rfl
  have hround : (0 : ℚ) ≤ if (ExtendedMantissa.ofMantissaAndAccuracy m a).roundBit then 1 / 2 else 0 := by
    split <;> norm_num
  rw [hmantissa] at hx
  rw [← le_div_iff₀ (zpow_pos two_pos e), hx]
  linarith

theorem lt_mantissa (h : Given x m e a) : x < (m + 1) * 2 ^ e := by
  obtain ⟨rest, hx, -, hhigh, -⟩ := h.tells
  have hmantissa : (ExtendedMantissa.ofMantissaAndAccuracy m a).mantissa = m := by
    rcases a with _ | o
    · rfl
    · cases o <;> rfl
  have hround : (if (ExtendedMantissa.ofMantissaAndAccuracy m a).roundBit then 1 / 2 else 0 : ℚ) ≤ 1 / 2 := by
    split <;> norm_num
  rw [hmantissa] at hx
  rw [← div_lt_iff₀ (zpow_pos two_pos e), hx]
  linarith

/-- The length of the mantissa says how great the number is. -/
theorem log_eq (h : Given x m e a) (hm : m ≠ 0) : Int.log 2 x = m.log2 + e := by
  have hpower : (0 : ℚ) < 2 ^ e := zpow_pos two_pos e
  have hlow : ((2 : ℕ) : ℚ) ^ ((m.log2 : ℤ) + e) ≤ x := by
    have hbits : ((2 ^ m.log2 : ℕ) : ℚ) ≤ m := by exact_mod_cast Nat.log2_self_le hm
    refine le_trans ?_ h.mantissa_le
    rw [Nat.cast_ofNat, zpow_add₀ two_ne_zero, zpow_natCast]
    exact mul_le_mul_of_nonneg_right (by exact_mod_cast hbits) hpower.le
  have hhigh : x < ((2 : ℕ) : ℚ) ^ ((m.log2 : ℤ) + e + 1) := by
    have hbits : ((m + 1 : ℕ) : ℚ) ≤ (2 ^ (m.log2 + 1) : ℕ) := by
      exact_mod_cast Nat.succ_le_of_lt Nat.lt_log2_self
    refine h.lt_mantissa.trans_le ?_
    rw [Nat.cast_ofNat, add_right_comm, zpow_add₀ two_ne_zero]
    exact mul_le_mul_of_nonneg_right (by exact_mod_cast hbits) hpower.le
  have hpos : 0 < x := (zpow_pos (by norm_num) _).trans_le hlow
  have hbelow := (Int.zpow_le_iff_le_log one_lt_two hpos).mp hlow
  have habove := (Int.lt_zpow_iff_log_lt one_lt_two hpos).mp hhigh
  omega

/-- The place to which a number is rounded depends on the number alone, and is not below the one that it is given at. -/
theorem targetExponent_eq (h : Given x m e a) (hx : 0 < x) :
    Format.binary64.targetExponent (totalExponent m e) = lastPlace x ∧ e ≤ lastPlace x := by
  have htarget : Format.binary64.targetExponent (totalExponent m e) = max (m.log2 + 1 + e - 53) (-1074) := rfl
  rw [htarget, lastPlace]
  by_cases hm : m = 0
  · -- A number of no whole place is below all doubles.
    subst hm
    have hless : x < ((2 : ℕ) : ℚ) ^ e := by simpa using h.lt_mantissa
    have hlog := (Int.lt_zpow_iff_log_lt one_lt_two hx).mp hless
    have hfine := h.fine
    simp only [Nat.log2_zero]
    omega
  · have hlog := h.log_eq hm
    have hlong : 2 ^ 52 ≤ m → 52 ≤ m.log2 := (Nat.le_log2 hm).mpr
    have hfine := h.fine
    omega

theorem shift_eq (h : Given x m e a) (hx : 0 < x) :
    ∃ em, shiftToTargetExponent .binary64 m e a = (em, lastPlace x) ∧ Tells em (x / 2 ^ lastPlace x) := by
  obtain ⟨htarget, hle⟩ := h.targetExponent_eq hx
  obtain ⟨k, hk⟩ := Int.le.dest hle
  refine ⟨ExtendedMantissa.ofMantissaAndAccuracy m a >>> k, ?_, ?_⟩
  · unfold shiftToTargetExponent shiftToExponent
    dsimp only
    rw [htarget, ← hk, add_sub_cancel_left, Int.toNat_natCast]
  · have hsplit : x / 2 ^ lastPlace x = x / 2 ^ e / 2 ^ k := by
      rw [← hk, zpow_add₀ two_ne_zero, zpow_natCast, div_div]
    rw [hsplit]
    exact h.tells.shiftRight k

/-- Rounding depends on the number alone. -/
theorem round_congr (h : Given x m e a) (hx : 0 < x) {m' : ℕ} {e' : ℤ} {a' : Accuracy} (h' : Given x m' e' a')
    (s : Sign) :
    roundWithAccuracy .binary64 s m e a = roundWithAccuracy .binary64 s m' e' a' := by
  obtain ⟨em, hshift, htells⟩ := h.shift_eq hx
  obtain ⟨em', hshift', htells'⟩ := h'.shift_eq hx
  unfold roundWithAccuracy
  rw [hshift, hshift', htells.unique htells']

end Given

/-! ### Doubles of a given mantissa -/

/-- A mantissa of all bits goes into a double as it is: the field of the exponent stands before the bits after the
first. -/
theorem toNat_pack {m : ℕ} {e : ℤ} (hm : m.log2 = 52) (hlow : -1074 ≤ e) (hhigh : e ≤ 971) (hpos : 0 < m) :
    (Float.Model.UnpackedFloat.pack .binary64 (.finite .positive m e hpos)).toNat =
      (e + 1075).toNat * 2 ^ 52 + (m - 2 ^ 52) := by
  have hmin : 2 ^ 52 ≤ m := (Nat.le_log2 hpos.ne').mp hm.ge
  have hmax : m < 2 ^ 53 := (Nat.log2_lt hpos.ne').mp (by omega)
  have hpack : Float.Model.UnpackedFloat.pack .binary64 (.finite .positive m e hpos) =
      packComponents .binary64 .positive (BitVec.ofNat 11 (e + 1075).toNat) (BitVec.ofNat 52 m) := by
    unfold Float.Model.UnpackedFloat.pack
    have hbiased : e + ((Format.binary64.exponentBias : ℕ) : ℤ) +
        ((Format.binary64.mantissaBitsWithoutImplicit : ℕ) : ℤ) = e + 1075 := by
      show e + 1023 + 52 = e + 1075
      omega
    dsimp only
    rw [hbiased, if_neg, if_pos]
    · exact congrArg (· + 1) hm
    · show ¬ 2048 ≤ (e + 1075).toNat + 1
      omega
  rw [hpack]
  unfold packComponents
  rw [BitVec.toNat_append, BitVec.toNat_append, ← Nat.shiftLeft_add_eq_or_of_lt (BitVec.isLt _),
    ← Nat.shiftLeft_add_eq_or_of_lt (BitVec.isLt _), BitVec.toNat_ofNat, BitVec.toNat_ofNat,
    Nat.shiftLeft_eq, Nat.shiftLeft_eq]
  have hsign : (Sign.toBitVec .positive).toNat = 0 := rfl
  rw [hsign]
  show (0 * 2 ^ 11 + (e + 1075).toNat % 2 ^ 11) * 2 ^ 52 + m % 2 ^ 52 = _
  omega

theorem unpack_pack {m : ℕ} {e : ℤ} (hm : m.log2 = 52) (hlow : -1074 ≤ e) (hhigh : e ≤ 971) (hpos : 0 < m) :
    (Float.Model.pack (.finite .positive m e hpos)).unpack = .finite .positive m e hpos := by
  have hmin : 2 ^ 52 ≤ m := (Nat.le_log2 hpos.ne').mp hm.ge
  have hmax : m < 2 ^ 53 := (Nat.log2_lt hpos.ne').mp (by omega)
  have hbits := toNat_pack hm hlow hhigh hpos
  let f : Float := ⟨Float.Model.pack (.finite .positive m e hpos)⟩
  change f.toBits.toNat = _ at hbits
  have hnegative : Double.isNegative f = false := by
    rw [Double.isNegative, hbits, decide_eq_false_iff_not]
    omega
  have hmagnitude : Double.magnitude f = (e + 1075).toNat * 2 ^ 52 + (m - 2 ^ 52) := by
    rw [Double.magnitude, hbits]
    omega
  have hfinite : Double.isFinite f = true := by
    rw [Double.isFinite, hmagnitude, decide_eq_true_iff]
    omega
  have hfield : ¬ Double.magnitude f / 4503599627370496 = 0 := by omega
  have hparts : (Parts.ofFloat f).mantissa = m ∧ (Parts.ofFloat f).exponent = e := by
    unfold Parts.ofFloat
    dsimp only
    rw [if_neg hfield]
    dsimp only
    omega
  show f.toModel.unpack = _
  rw [Double.unpack_eq hfinite, dif_neg (by omega)]
  congr 1
  · rw [Double.sign, hnegative]
    rfl
  · exact hparts.1
  · exact hparts.2

/-! ### Rounding a result -/

/-- What a positive number is rounded to. -/
def Rounds (x : ℚ) (u : Float.Model.UnpackedFloat) : Prop :=
  ∃ m e a, Given x m e a ∧ u = roundWithAccuracy .binary64 .positive m e a

/-- A number is rounded to one double, in whatever way it is computed. -/
theorem Rounds.unique {x : ℚ} (hx : 0 < x) {u v : Float.Model.UnpackedFloat} (hu : Rounds x u) (hv : Rounds x v) :
    u = v := by
  obtain ⟨m, e, a, hgiven, rfl⟩ := hu
  obtain ⟨m', e', a', hgiven', rfl⟩ := hv
  exact hgiven.round_congr hx hgiven' .positive

/-- A product of parts, one of which has a mantissa of all bits. -/
theorem rounds_mul {m₁ m₂ : ℕ} {e₁ e₂ : ℤ} (h₁ : 0 < m₁) (h₂ : 0 < m₂) (hlong : 2 ^ 52 ≤ m₁) :
    Rounds (m₁ * 2 ^ e₁ * (m₂ * 2 ^ e₂)) (mul .binary64 (.finite .positive m₁ e₁ h₁) (.finite .positive m₂ e₂ h₂)) := by
  refine ⟨m₁ * m₂, e₁ + e₂, .exact, ⟨?_, .inl ?_⟩, rfl⟩
  · have hvalue : (m₁ * 2 ^ e₁ * (m₂ * 2 ^ e₂) : ℚ) / 2 ^ (e₁ + e₂) = (m₁ * m₂ : ℕ) := by
      rw [zpow_add₀ two_ne_zero, div_eq_iff (by positivity)]
      push_cast
      ring
    rw [hvalue]
    exact tells_exact _
  · exact hlong.trans (Nat.le_mul_of_pos_right _ h₂)

/-- A quotient of parts. The mantissa of the first is lengthened until the quotient has all bits, or has reached the
least place. -/
theorem rounds_div {m₁ m₂ : ℕ} {e₁ e₂ : ℤ} (h₁ : 0 < m₁) (h₂ : 0 < m₂) :
    Rounds (m₁ * 2 ^ e₁ / (m₂ * 2 ^ e₂)) (div .binary64 (.finite .positive m₁ e₁ h₁) (.finite .positive m₂ e₂ h₂)) := by
  obtain ⟨t, ht⟩ : ∃ t, t = min (e₁ - e₂)
      (Format.binary64.targetExponent (totalExponent m₁ e₁ - totalExponent m₂ e₂)) := ⟨_, rfl⟩
  obtain ⟨k, hk⟩ := Int.le.dest (ht.trans_le (min_le_left _ _))
  have hshift : (e₁ - e₂ - t).toNat = k := by omega
  refine ⟨(m₁ <<< k) / m₂, t, accuracyOfFraction ((m₁ <<< k) % m₂) m₂, ⟨?_, ?_⟩, ?_⟩
  · have hvalue : (m₁ * 2 ^ e₁ / (m₂ * 2 ^ e₂) : ℚ) / 2 ^ t = (m₁ <<< k : ℕ) / m₂ := by
      have hexponent : e₁ = t + k + e₂ := by omega
      have hdivisor : (m₂ : ℚ) ≠ 0 := by exact_mod_cast h₂.ne'
      rw [Nat.shiftLeft_eq, hexponent, zpow_add₀ two_ne_zero, zpow_add₀ two_ne_zero, zpow_natCast]
      push_cast
      field_simp
    rw [hvalue]
    exact tells_fraction h₂
  · have htarget : Format.binary64.targetExponent (totalExponent m₁ e₁ - totalExponent m₂ e₂) =
        max (m₁.log2 + 1 + e₁ - (m₂.log2 + 1 + e₂) - 53) (-1074) := rfl
    rw [htarget] at ht
    by_cases hleast : t ≤ -1074
    · exact .inr hleast
    · -- Above the least place the first mantissa is lengthened until it has 52 bits more than the second one.
      refine .inl ((Nat.le_div_iff_mul_le h₂).mpr ?_)
      rw [Nat.shiftLeft_eq]
      have hlength : 52 + (m₂.log2 + 1) ≤ m₁.log2 + k := by omega
      calc 2 ^ 52 * m₂ ≤ 2 ^ 52 * 2 ^ (m₂.log2 + 1) := Nat.mul_le_mul_left _ Nat.lt_log2_self.le
        _ = 2 ^ (52 + (m₂.log2 + 1)) := (Nat.pow_add ..).symm
        _ ≤ 2 ^ (m₁.log2 + k) := Nat.pow_le_pow_right two_pos hlength
        _ = 2 ^ m₁.log2 * 2 ^ k := Nat.pow_add ..
        _ ≤ m₁ * 2 ^ k := Nat.mul_le_mul_right _ (Nat.log2_self_le h₁.ne')
  · unfold div divCore
    dsimp only
    rw [← ht, hshift]
    rfl

end MapQuery.Rounding
