import MapQuery.Proofs.Number.Rounding

/-!
# Spellings of a number

A number has many decimals, such as `12`, `12.0` and `1.2e1`. All of them are read as one double.

* `Decimal.value` — the number that a decimal is written for.
* `rounds_ofScientific` — a decimal is computed as one product or quotient, and is rounded once.
* `Decimal.toFloat_congr` — decimals of the same number, other than zero, are the same double.
-/

namespace MapQuery

open Float.Model (Format totalExponent)
open Float.Model.UnpackedFloat
open Shortest (Parts)
open Rounding

namespace Rounding

/-! ### Numbers that are doubles -/

/-- The double is a positive number with a mantissa of all bits. -/
def Normal (f : Float) (x : ℚ) : Prop :=
  ∃ m e, ∃ h : 0 < m, f.toModel.unpack = .finite .positive m e h ∧ 2 ^ 52 ≤ m ∧ m * 2 ^ e = x

/-- A mantissa of all bits that is not beyond the places of a double is rounded to itself. -/
theorem roundWithAccuracy_exact {m : ℕ} {e : ℤ} (hm : m.log2 = 52) (hlow : -1074 ≤ e) (hpos : 0 < m) :
    roundWithAccuracy .binary64 .positive m e .exact = .finite .positive m e hpos := by
  have hshift : shiftToTargetExponent .binary64 m e .exact = (⟨m, false, false⟩, e) := by
    have htarget : Format.binary64.targetExponent (totalExponent m e) = max (m.log2 + 1 + e - 53) (-1074) := rfl
    have hsame : Format.binary64.targetExponent (totalExponent m e) = e := by omega
    unfold shiftToTargetExponent shiftToExponent
    dsimp only
    rw [hsame, sub_self]
    exact congrArg _ (add_zero e)
  unfold roundWithAccuracy
  rw [hshift]
  dsimp only [ExtendedMantissa.roundedMantissa, ExtendedMantissa.accuracy, Accuracy.roundToNearestEven]
  rw [hshift]
  exact dif_neg hpos.ne'

/-- Whole numbers of up to 53 bits are doubles. -/
theorem normal_toFloat {m : ℕ} (hpos : 0 < m) (hlt : m < 2 ^ 53) : Normal m.toUInt64.toFloat m := by
  have hlog : m.log2 < 53 := (Nat.log2_lt hpos.ne').mpr hlt
  -- The mantissa is the number, shifted until it has all bits.
  obtain ⟨k, hk⟩ := Nat.exists_eq_add_of_le (Nat.le_of_lt_succ hlog)
  have hlong : 0 < m * 2 ^ k := Nat.mul_pos hpos (Nat.two_pow_pos k)
  have hmantissa : (m * 2 ^ k).log2 = 52 := by
    have hlow := Nat.mul_le_mul_right (2 ^ k) (Nat.log2_self_le hpos.ne')
    have hhigh := Nat.mul_lt_mul_of_pos_right (Nat.lt_log2_self (n := m)) (Nat.two_pow_pos k)
    rw [← Nat.pow_add] at hlow hhigh
    exact (Nat.log2_eq_iff hlong.ne').mpr ⟨hk ▸ hlow, by rwa [add_right_comm, ← hk] at hhigh⟩
  have hword : m.toUInt64.toNat = m := UInt64.toNat_ofNat_of_lt (hlt.trans (by decide))
  have hround : ofUInt64 .binary64 m.toUInt64 = .finite .positive (m * 2 ^ k) (-k) hlong := by
    have htarget : Format.binary64.targetExponent (totalExponent m 0) = -k := by
      show max ((m.log2 : ℤ) + 1 + 0 - 53) (-1074) = -k
      omega
    have hnumber : ofUInt64 .binary64 m.toUInt64 = Float.Model.UnpackedFloat.round .binary64 .positive m 0 := by
      show Float.Model.UnpackedFloat.normalize .binary64 ((m.toUInt64.toNat : ℕ) : ℤ) 0 .positive = _
      rw [hword]
      unfold Float.Model.UnpackedFloat.normalize
      rw [Int.compare_eq_gt.mpr (by omega)]
      rfl
    rw [hnumber]
    unfold Float.Model.UnpackedFloat.round decreaseExponent
    dsimp only
    rw [htarget, sub_neg_eq_add, zero_add, Int.toNat_natCast, zero_sub, Nat.shiftLeft_eq]
    exact roundWithAccuracy_exact hmantissa (by omega) hlong
  refine ⟨m * 2 ^ k, -k, hlong, ?_, ?_, ?_⟩
  · show (Float.Model.pack (ofUInt64 .binary64 m.toUInt64)).unpack = _
    rw [hround]
    exact unpack_pack hmantissa (by omega) (by omega) hlong
  · exact (Nat.le_log2 hlong.ne').mp hmantissa.ge
  · rw [zpow_neg, zpow_natCast]
    push_cast
    field_simp

/-- The bits of a double are those of a positive whole number, with a mantissa of all bits. -/
def Holds (f : Float) (n : ℕ) : Prop :=
  Double.isFinite f = true ∧ Double.isNegative f = false ∧ Double.magnitude f ≠ 0 ∧
    2 ^ 52 ≤ (Parts.ofFloat f).mantissa ∧ -52 ≤ (Parts.ofFloat f).exponent ∧
    (Parts.ofFloat f).mantissa * 2 ^ ((Parts.ofFloat f).exponent + 52).toNat = n * 2 ^ 52

instance (f : Float) (n : ℕ) : Decidable (Holds f n) :=
  inferInstanceAs (Decidable (_ ∧ _))

theorem Holds.normal {f : Float} {n : ℕ} (h : Holds f n) : Normal f n := by
  obtain ⟨hfinite, hsign, hzero, hlong, hlow, hvalue⟩ := h
  refine ⟨(Parts.ofFloat f).mantissa, (Parts.ofFloat f).exponent, Double.mantissa_pos hzero, ?_, hlong, ?_⟩
  · rw [Double.unpack_eq hfinite, dif_neg hzero, Double.sign, hsign]
    rfl
  · obtain ⟨k, hk⟩ := Int.le.dest hlow
    rw [← hk, neg_add_cancel_comm, Int.toNat_natCast] at hvalue
    have hvalue' : ((Parts.ofFloat f).mantissa : ℚ) * 2 ^ k = n * 2 ^ 52 := by exact_mod_cast hvalue
    have hunit : (2 : ℚ) ^ 52 * 2 ^ (-52 : ℤ) = 1 := by norm_num
    rw [← hk, zpow_add₀ two_ne_zero, zpow_natCast, mul_left_comm, hvalue', mul_comm, mul_assoc, hunit, mul_one]

/-- The powers of ten that are kept as doubles are exact. -/
theorem holds_power : ∀ k : Fin 23, Holds Float.exactlyRepresentablePowersOfTen[k] (10 ^ k.val) := by
  decide +kernel

/-! ### Decimals -/

theorem length_pos (m : ℕ) : 0 < Decimal.length m :=
  Nat.length_toDigits_pos

theorem lt_pow_length (m : ℕ) : m < 10 ^ Decimal.length m :=
  (Nat.length_toDigits_le_iff (by decide) (length_pos m)).mp le_rfl

theorem pow_length_le {m : ℕ} (hm : 0 < m) : 10 ^ (Decimal.length m - 1) ≤ m := by
  by_cases hone : Decimal.length m - 1 = 0
  · rwa [hone, pow_zero]
  · have hpos := length_pos m
    refine Nat.le_of_not_lt fun h => ?_
    have hshort : Decimal.length m ≤ Decimal.length m - 1 :=
      (Nat.length_toDigits_le_iff (by decide) (Nat.pos_of_ne_zero hone)).mpr h
    omega

theorem length_le {m : ℕ} (hm : 0 < m) : Decimal.length m ≤ m.log2 + 1 := by
  have hpower : 2 ^ (Decimal.length m - 1) < 2 ^ (m.log2 + 1) :=
    calc 2 ^ (Decimal.length m - 1) ≤ 10 ^ (Decimal.length m - 1) := Nat.pow_le_pow_left (by decide) _
      _ ≤ m := pow_length_le hm
      _ < 2 ^ (m.log2 + 1) := Nat.lt_log2_self
  have hexponent := (Nat.pow_lt_pow_iff_right one_lt_two).mp hpower
  omega

/-- The place of the first digit depends on the number alone. -/
theorem log_decimal {m : ℕ} (hm : 0 < m) (e : ℤ) : Int.log 10 ((m : ℚ) * 10 ^ e) + 1 = Decimal.length m + e := by
  have hten : (0 : ℚ) < 10 ^ e := zpow_pos (by norm_num) e
  have hx : 0 < (m : ℚ) * 10 ^ e := mul_pos (by exact_mod_cast hm) hten
  have hlow : ((10 : ℕ) : ℚ) ^ (((Decimal.length m - 1 : ℕ) : ℤ) + e) ≤ m * 10 ^ e := by
    rw [Nat.cast_ofNat, zpow_add₀ (by norm_num), zpow_natCast]
    exact mul_le_mul_of_nonneg_right (by exact_mod_cast pow_length_le hm) hten.le
  have hhigh : (m : ℚ) * 10 ^ e < ((10 : ℕ) : ℚ) ^ ((Decimal.length m : ℤ) + e) := by
    rw [Nat.cast_ofNat, zpow_add₀ (by norm_num), zpow_natCast]
    exact mul_lt_mul_of_pos_right (by exact_mod_cast lt_pow_length m) hten
  have hbelow := (Int.zpow_le_iff_le_log (by decide) hx).mp hlow
  have habove := (Int.lt_zpow_iff_log_lt (by decide) hx).mp hhigh
  have hpos := length_pos m
  omega

/-- A short number with a power of ten that is a double: the product or quotient of the two doubles. -/
theorem rounds_short {m : ℕ} {e : ℤ} (hm : 0 < m) (hshort : m < 2 ^ 53) (he : e.natAbs < 23) :
    ∃ u, Rounds (m * 10 ^ e) u ∧
      (if decide (e < 0) then m.toUInt64.toFloat / Float.exactlyRepresentablePowersOfTen[(⟨e.natAbs, he⟩ : Fin 23)]
        else m.toUInt64.toFloat * Float.exactlyRepresentablePowersOfTen[(⟨e.natAbs, he⟩ : Fin 23)]) =
        ⟨Float.Model.pack u⟩ := by
  obtain ⟨m₁, e₁, h₁, hunpack₁, hlong, hvalue₁⟩ := normal_toFloat hm hshort
  obtain ⟨m₂, e₂, h₂, hunpack₂, -, hvalue₂⟩ := (holds_power ⟨e.natAbs, he⟩).normal
  push_cast at hvalue₂
  rw [← hvalue₁]
  by_cases hneg : e < 0
  · have hpower : (10 : ℚ) ^ e = ((m₂ : ℚ) * 2 ^ e₂)⁻¹ := by
      rw [hvalue₂, ← zpow_natCast, ← zpow_neg, Int.ofNat_natAbs_of_nonpos hneg.le, neg_neg]
    rw [hpower, ← div_eq_mul_inv, if_pos (decide_eq_true hneg)]
    refine ⟨_, rounds_div h₁ h₂, ?_⟩
    rw [← hunpack₁, ← hunpack₂]
    rfl
  · have hpower : (10 : ℚ) ^ e = m₂ * 2 ^ e₂ := by
      rw [hvalue₂, ← zpow_natCast, Int.natAbs_of_nonneg (not_lt.mp hneg)]
    rw [hpower, if_neg (by simpa using hneg)]
    refine ⟨_, rounds_mul h₁ h₂ hlong, ?_⟩
    rw [← hunpack₁, ← hunpack₂]
    rfl

/-- All other numbers that are neither too great nor too small for a double: the product or quotient of two numbers that
need not be doubles. -/
theorem rounds_scientific {m : ℕ} {e : ℤ} (hm : 0 < m) (hlow : -(2 ^ 11 + (m.log2 : ℤ)) ≤ e) (hhigh : e ≤ 2 ^ 11) :
    Rounds (m * 10 ^ e) (ofScientific .binary64 m e) := by
  have hlarge : ¬ e > 2 ^ Format.binary64.exponentBits := hhigh.not_gt
  have hleast : ¬ e < -(2 ^ Format.binary64.exponentBits + (m.log2 : ℤ)) := hlow.not_gt
  unfold ofScientific
  rw [dif_neg hm.ne', if_neg hlarge, if_neg hleast]
  split
  · next hnonneg =>
    have hlong : 2 ^ 52 ≤ m <<< Format.binary64.mantissaBits := by
      show 2 ^ 52 ≤ m <<< 53
      rw [Nat.shiftLeft_eq]
      omega
    have hvalue : (m : ℚ) * 10 ^ e = (m <<< Format.binary64.mantissaBits : ℕ) *
        2 ^ (-(Format.binary64.mantissaBits : ℕ) : ℤ) * ((10 ^ e.toNat : ℕ) * 2 ^ (0 : ℤ)) := by
      obtain ⟨k, rfl⟩ := Int.eq_ofNat_of_zero_le hnonneg
      rw [Nat.shiftLeft_eq, zpow_neg, Int.toNat_natCast, zpow_natCast, zpow_natCast, zpow_zero, mul_one]
      push_cast
      field_simp
    rw [hvalue]
    exact rounds_mul _ _ hlong
  · next hneg =>
    have hvalue : (m : ℚ) * 10 ^ e = m * 2 ^ (0 : ℤ) / ((10 ^ (-e).toNat : ℕ) * 2 ^ (0 : ℤ)) := by
      obtain ⟨k, hk⟩ := Int.eq_ofNat_of_zero_le (a := -e) (by omega)
      rw [hk, Int.toNat_natCast, zpow_zero, mul_one, mul_one, ← neg_neg e, hk, zpow_neg, zpow_natCast,
        div_eq_mul_inv]
      push_cast
      rfl
    rw [hvalue]
    exact rounds_div _ _

/-- A decimal that is neither too great nor too small is rounded once. -/
theorem rounds_ofScientific {m : ℕ} {e : ℤ} (hm : 0 < m) (hlow : -330 ≤ (Decimal.length m : ℤ) + e)
    (hhigh : (Decimal.length m : ℤ) + e ≤ 310) :
    ∃ u, Rounds (m * 10 ^ e) u ∧ Float.ofScientific m (e < 0) e.natAbs = ⟨Float.Model.pack u⟩ := by
  unfold Float.ofScientific
  split
  · next hsmall => exact rounds_short hm hsmall.1 (by omega)
  · have hsigned : (if decide (e < 0) then Int.negOfNat e.natAbs else Int.ofNat e.natAbs) = e := by
      by_cases hneg : e < 0
      · rw [if_pos (decide_eq_true hneg), Int.negOfNat_eq, Int.ofNat_eq_natCast]
        omega
      · rw [if_neg (by simpa using hneg), Int.ofNat_eq_natCast]
        omega
    have hpos := length_pos m
    have hlength := length_le hm
    refine ⟨ofScientific .binary64 m e, rounds_scientific hm (by omega) (by omega), ?_⟩
    dsimp only
    rw [hsigned]
    rfl

end Rounding

namespace Decimal

/-- The number that a decimal is written for. -/
def value (d : Decimal) : ℚ :=
  (if d.negative then -1 else 1) * (d.digits * 10 ^ d.exponent)

/-- A number other than zero tells the sign and the number without it. -/
theorem value_eq {d d' : Decimal} (h : value d = value d') (hzero : value d ≠ 0) :
    d.negative = d'.negative ∧ (d.digits : ℚ) * 10 ^ d.exponent = d'.digits * 10 ^ d'.exponent ∧
      0 < d.digits ∧ 0 < d'.digits := by
  have hdigits : ∀ {d : Decimal}, value d ≠ 0 → 0 < d.digits ∧ 0 < (d.digits : ℚ) * 10 ^ d.exponent := by
    intro d hd
    have hpos : 0 < d.digits := by
      refine Nat.pos_of_ne_zero fun hnone => hd ?_
      rw [value, hnone, Nat.cast_zero, zero_mul, mul_zero]
    exact ⟨hpos, mul_pos (by exact_mod_cast hpos) (zpow_pos (by norm_num) _)⟩
  obtain ⟨hpos, hx⟩ := hdigits hzero
  obtain ⟨hpos', hx'⟩ := hdigits (h ▸ hzero)
  unfold value at h
  cases hs : d.negative <;> cases hs' : d'.negative <;> simp only [hs, hs', if_true, Bool.false_eq_true, if_false] at h
  · exact ⟨rfl, by linarith, hpos, hpos'⟩
  · linarith
  · linarith
  · exact ⟨rfl, by linarith, hpos, hpos'⟩

/-- Decimals of the same number, other than zero, are read as the same double. Too great and too small numbers are told
by the place of their first digit, which depends on the number alone. -/
theorem toFloat_congr {d d' : Decimal} (h : value d = value d') (hzero : value d ≠ 0) : toFloat d = toFloat d' := by
  obtain ⟨hsign, hx, hpos, hpos'⟩ := value_eq h hzero
  have hsize : (length d.digits : ℤ) + d.exponent = length d'.digits + d'.exponent := by
    rw [← log_decimal hpos, ← log_decimal hpos', hx]
  unfold toFloat
  simp only [hsign, hsize, hpos.ne', hpos'.ne', false_or]
  by_cases hsmall : (length d'.digits : ℤ) + d'.exponent < -330
  · simp only [hsmall, if_true]
  by_cases hlarge : (length d'.digits : ℤ) + d'.exponent > 310
  · simp only [hsmall, hlarge, if_true, if_false]
  obtain ⟨u, hu, hread⟩ := rounds_ofScientific hpos (hsize ▸ not_lt.mp hsmall) (hsize ▸ not_lt.mp hlarge)
  obtain ⟨u', hu', hread'⟩ := rounds_ofScientific hpos' (not_lt.mp hsmall) (not_lt.mp hlarge)
  have hsame : u = u' := by
    refine Rounds.unique (mul_pos ?_ (zpow_pos (by norm_num) _)) hu (hx ▸ hu')
    exact_mod_cast hpos
  simp only [hsmall, hlarge, if_false, hread, hread', hsame]

end Decimal

end MapQuery
