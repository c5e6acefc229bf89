import Mathlib
import MapQuery.Number.Shortest

/-!
# The numbers that doubles stand for

A finite double is a whole number of units, the least positive double being the unit, and its bits other than the
sign count up with this number. So every order of doubles is one of rational numbers, apart from the two zeros.

* `Double.value` — the number of a finite double.
* `Double.units` — how many units the bits other than the sign stand for; `units_strictMono`.
* `Double.key_lt_iff` — the place of a double in the order, and its number.
* `Double.unpack_eq` — the parts of a double, as it is compared and computed with.
* `Double.le_iff_signedUnits` — the order of doubles, also of what is infinite or not a number.
* `Double.lt_iff`, `Double.le_iff` — finite doubles are in the order of their numbers.
-/

namespace MapQuery.Double

open Float.Model.UnpackedFloat (Sign unpackExponent unpackExponent_def unpackMantissa unpackMantissa_def unpackSign
  unpackSign_def)
open Shortest (Parts)

/-! ### The number of a double -/

/-- The number that a finite double stands for. -/
def value (f : Float) : ℚ :=
  (if isNegative f then -1 else 1) * (Parts.ofFloat f).mantissa * 2 ^ (Parts.ofFloat f).exponent

/-- The number of units that the bits other than the sign stand for. Up to twice the least normal number they count
the units themselves; from there on, each field of the exponent doubles the step. -/
def units (bits : Nat) : Nat :=
  if bits / 2 ^ 52 = 0 then bits % 2 ^ 52 else (2 ^ 52 + bits % 2 ^ 52) * 2 ^ (bits / 2 ^ 52 - 1)

/-- The least positive double. -/
def unit : ℚ :=
  2 ^ (-1074 : ℤ)

theorem unit_pos : 0 < unit :=
  zpow_pos two_pos _

/-- A double is a whole number of units. -/
theorem value_eq (f : Float) :
    value f = (if isNegative f then -1 else 1) * units (magnitude f) * unit := by
  unfold value units Parts.ofFloat
  by_cases hfield : magnitude f / 4503599627370496 = 0
  · simp [hfield, unit]
  · obtain ⟨k, hk⟩ := Nat.exists_eq_succ_of_ne_zero hfield
    have hexponent : ((k + 1 : ℕ) : ℤ) - 1075 = k + -1074 := by omega
    have hpower : (2 : ℚ) ^ ((k : ℤ) + -1074) = 2 ^ k * unit := by
      rw [zpow_add₀ two_ne_zero, zpow_natCast, unit]
    simp only [Nat.reducePow, hk, Nat.succ_eq_add_one, Nat.add_eq_zero_iff, one_ne_zero, and_false, if_false,
      Nat.add_sub_cancel, hexponent, hpower]
    push_cast
    ring

theorem units_zero : units 0 = 0 := rfl

/-- One bit more is at least one unit more. The step is taken within a field of the exponent, or from the end of one to
the beginning of the next. -/
theorem units_lt_succ (n : Nat) : units n < units (n + 1) := by
  unfold units
  by_cases hlast : n % 2 ^ 52 + 1 < 2 ^ 52
  · have hdiv : (n + 1) / 2 ^ 52 = n / 2 ^ 52 := by omega
    have hmod : (n + 1) % 2 ^ 52 = n % 2 ^ 52 + 1 := by omega
    rw [hdiv, hmod]
    split
    · exact Nat.lt_succ_self _
    · exact Nat.mul_lt_mul_of_pos_right (Nat.lt_succ_self _) (Nat.two_pow_pos _)
  · have hdiv : (n + 1) / 2 ^ 52 = n / 2 ^ 52 + 1 := by omega
    have hmod : (n + 1) % 2 ^ 52 = 0 := by omega
    have hend : n % 2 ^ 52 + 1 = 2 ^ 52 := by omega
    rw [hdiv, hmod, if_neg (Nat.succ_ne_zero _), Nat.add_sub_cancel, Nat.add_zero]
    split
    · next hzero =>
      rw [hzero]
      omega
    · next hpos =>
      obtain ⟨k, hk⟩ := Nat.exists_eq_succ_of_ne_zero hpos
      have hpower : 2 ^ (k + 1) = 2 * 2 ^ k := Nat.pow_succ'
      rw [hk, Nat.succ_sub_one, hpower, ← Nat.mul_assoc]
      exact Nat.mul_lt_mul_of_pos_right (by omega) (Nat.two_pow_pos _)

theorem units_strictMono : StrictMono units :=
  strictMono_nat_of_lt_succ units_lt_succ

theorem units_pos {n : Nat} (h : n ≠ 0) : 0 < units n :=
  units_strictMono (Nat.pos_of_ne_zero h)

theorem units_eq_zero_iff {n : Nat} : units n = 0 ↔ n = 0 :=
  units_strictMono.injective.eq_iff (b := 0)

/-! ### The order of the keys -/

/-- The number of units with its sign. -/
def signedUnits (f : Float) : ℤ :=
  if isNegative f then -units (magnitude f) else units (magnitude f)

theorem value_eq_signedUnits (f : Float) : value f = signedUnits f * unit := by
  rw [value_eq, signedUnits]
  split <;> simp

theorem value_lt_iff {f g : Float} : value f < value g ↔ signedUnits f < signedUnits g := by
  rw [value_eq_signedUnits, value_eq_signedUnits, mul_lt_mul_iff_of_pos_right unit_pos, Int.cast_lt]

theorem value_le_iff {f g : Float} : value f ≤ value g ↔ signedUnits f ≤ signedUnits g := by
  rw [← not_lt, value_lt_iff, not_lt]

/-- A double stands for zero if no bit is set other than the sign. -/
theorem value_eq_zero_iff {f : Float} : value f = 0 ↔ magnitude f = 0 := by
  rw [value_eq_signedUnits, mul_eq_zero, or_iff_left unit_pos.ne', Int.cast_eq_zero, signedUnits, ← units_eq_zero_iff]
  split <;> omega

/-- A double comes before another one in the order if its number is less, or if they are the negative and the positive
zero. -/
theorem key_lt_iff (f g : Float) :
    key f < key g ↔
      value f < value g ∨ value f = 0 ∧ value g = 0 ∧ isNegative f = true ∧ isNegative g = false := by
  have hless := units_strictMono.lt_iff_lt (a := magnitude f) (b := magnitude g)
  have hgreater := units_strictMono.lt_iff_lt (a := magnitude g) (b := magnitude f)
  have hzero := units_eq_zero_iff (n := magnitude f)
  have hzero' := units_eq_zero_iff (n := magnitude g)
  rw [value_lt_iff, value_eq_zero_iff, value_eq_zero_iff]
  unfold key signedUnits
  -- The zeros matter only where the signs differ.
  cases isNegative f <;> cases isNegative g <;>
    simp only [if_true, if_false, Bool.false_eq_true, reduceCtorEq, and_true, and_false, or_false] <;> omega

/-! ### Comparing doubles -/

/-- The sign of a double. -/
def sign (f : Float) : Sign :=
  if isNegative f then .negative else .positive

theorem toNat_unpackMantissa (f : Float) :
    (@unpackMantissa .binary64 f.toBits.toBitVec).toNat = magnitude f % 4503599627370496 := by
  rw [unpackMantissa_def, BitVec.extractLsb'_toNat, Nat.shiftRight_eq_div_pow, UInt64.toNat_toBitVec, magnitude]
  show f.toBits.toNat / 2 ^ 0 % 2 ^ 52 = _
  omega

theorem toNat_unpackExponent (f : Float) :
    (@unpackExponent .binary64 f.toBits.toBitVec).toNat = magnitude f / 4503599627370496 := by
  rw [unpackExponent_def, BitVec.extractLsb'_toNat, Nat.shiftRight_eq_div_pow, UInt64.toNat_toBitVec, magnitude]
  show f.toBits.toNat / 2 ^ 52 % 2 ^ 11 = _
  omega

theorem ofBitVec_unpackSign (f : Float) :
    Sign.ofBitVec (@unpackSign .binary64 f.toBits.toBitVec) = sign f := by
  have hsign : (@unpackSign .binary64 f.toBits.toBitVec).toNat = f.toBits.toNat / 2 ^ 63 := by
    have hlt := f.toBits.toNat_lt
    rw [unpackSign_def, BitVec.extractLsb'_toNat, Nat.shiftRight_eq_div_pow, UInt64.toNat_toBitVec]
    show f.toBits.toNat / 2 ^ 63 % 2 ^ 1 = _
    omega
  have hiff : @unpackSign .binary64 f.toBits.toBitVec = 0#1 ↔ isNegative f = false := by
    rw [← BitVec.toNat_inj, hsign, isNegative, decide_eq_false_iff_not, BitVec.toNat_ofNat]
    omega
  unfold Sign.ofBitVec sign
  by_cases h : isNegative f = false
  · rw [if_pos (hiff.mpr h), h, if_neg Bool.false_ne_true]
  · rw [if_neg (mt hiff.mp h), if_pos (Bool.not_eq_false _ ▸ h)]

theorem mantissa_pos {f : Float} (h : magnitude f ≠ 0) : 0 < (Parts.ofFloat f).mantissa := by
  unfold Parts.ofFloat
  dsimp only
  split
  · show 0 < magnitude f % 4503599627370496
    omega
  · exact Nat.add_pos_left (by decide) _

/-- Every bit of the exponent is set where a double is not finite. -/
theorem unpackExponent_eq_iff {f : Float} :
    @unpackExponent .binary64 f.toBits.toBitVec = -1#11 ↔ isFinite f = false := by
  have hall : (-1#11 : BitVec 11).toNat = 2047 := rfl
  rw [← BitVec.toNat_inj, toNat_unpackExponent, hall, isFinite, decide_eq_false_iff_not, magnitude]
  omega

/-- The parts of a finite double, as it is compared and computed with. -/
theorem unpack_eq {f : Float} (hf : isFinite f = true) :
    f.toModel.unpack =
      if h : magnitude f = 0 then .zero (sign f)
      else .finite (sign f) (Parts.ofFloat f).mantissa (Parts.ofFloat f).exponent (mantissa_pos h) := by
  have hexponent := toNat_unpackExponent f
  have hmantissa := toNat_unpackMantissa f
  have hinner : @unpackExponent .binary64 f.toBits.toBitVec ≠ -1#11 :=
    mt unpackExponent_eq_iff.mp (by simp [hf])
  have hlow : @unpackExponent .binary64 f.toBits.toBitVec = 0#11 ↔ magnitude f / 4503599627370496 = 0 := by
    rw [← hexponent, ← BitVec.toNat_inj]
    rfl
  have hzero : @unpackMantissa .binary64 f.toBits.toBitVec = 0#52 ↔ magnitude f % 4503599627370496 = 0 := by
    rw [← hmantissa, ← BitVec.toNat_inj]
    rfl
  show Float.Model.UnpackedFloat.unpack .binary64 f.toBits.toBitVec = _
  unfold Float.Model.UnpackedFloat.unpack Parts.ofFloat
  dsimp only
  rw [if_neg hinner, ofBitVec_unpackSign]
  by_cases hfield : magnitude f / 4503599627370496 = 0
  · simp only [if_pos (hlow.mpr hfield), if_pos hfield]
    by_cases hnone : magnitude f = 0
    · rw [dif_pos (hzero.mpr (by omega)), dif_pos hnone]
    · rw [dif_neg (mt hzero.mp (by omega)), dif_neg hnone]
      congr 1
      rw [hexponent, hfield]
      rfl
  · simp only [if_neg (mt hlow.mp hfield), if_neg hfield]
    have hnone : magnitude f ≠ 0 := by omega
    rw [dif_neg hnone]
    have hlead : (1#1 ++ @unpackMantissa .binary64 f.toBits.toBitVec).toNat =
        4503599627370496 + magnitude f % 4503599627370496 := by
      have hlt := (@unpackMantissa .binary64 f.toBits.toBitVec).isLt
      rw [BitVec.toNat_append, ← Nat.shiftLeft_add_eq_or_of_lt hlt, hmantissa]
      rfl
    congr 1
    rw [hexponent]
    rfl

/-- What is not finite is not a number or infinite, and then no other bits are set than those of the exponent and the
sign. -/
theorem unpack_of_not_isFinite {f : Float} (hf : isFinite f = false) :
    f.toModel.unpack = .notANumber ∨
      f.toModel.unpack = .infinity (sign f) ∧ magnitude f = 0x7ff0000000000000 := by
  have hexponent := toNat_unpackExponent f
  have hmantissa := toNat_unpackMantissa f
  have hall := unpackExponent_eq_iff.mpr hf
  show Float.Model.UnpackedFloat.unpack .binary64 f.toBits.toBitVec = _ ∨
    Float.Model.UnpackedFloat.unpack .binary64 f.toBits.toBitVec = _ ∧ _
  unfold Float.Model.UnpackedFloat.unpack
  dsimp only
  rw [if_pos hall, ofBitVec_unpackSign]
  split
  · next hzero =>
    rw [hall] at hexponent
    rw [hzero] at hmantissa
    change 2047 = _ at hexponent
    change 0 = _ at hmantissa
    exact .inr ⟨rfl, by omega⟩
  · exact .inl rfl

theorem isNaN_iff {f : Float} : f.isNaN = true ↔ f.toModel.unpack = .notANumber := by
  show f.toModel.unpack.isNaN = true ↔ _
  exact Float.Model.UnpackedFloat.isNaN_iff

/-- A comparison of whole numbers is known from its three cases. -/
theorem eq_compare {a b : ℤ} {o : Ordering} (hlt : a < b → o = .lt) (heq : a = b → o = .eq)
    (hgt : b < a → o = .gt) : o = compare a b := by
  rcases lt_trichotomy a b with h | h | h
  · rw [hlt h, Int.compare_eq_lt.mpr h]
  · rw [heq h, Int.compare_eq_eq.mpr h]
  · rw [hgt h, Int.compare_eq_gt.mpr h]

/-- Fewer bits mean a lesser exponent, or the same one and a lesser mantissa. -/
theorem parts_lt {f g : Float} (h : magnitude f < magnitude g) :
    (Parts.ofFloat f).exponent < (Parts.ofFloat g).exponent ∨
      (Parts.ofFloat f).exponent = (Parts.ofFloat g).exponent ∧
        (Parts.ofFloat f).mantissa < (Parts.ofFloat g).mantissa := by
  unfold Parts.ofFloat
  dsimp only
  split <;> split <;> dsimp only <;> omega

/-- The exponents are compared first, and then the mantissas. -/
def compareParts (f g : Float) : Ordering :=
  (compare (Parts.ofFloat f).exponent (Parts.ofFloat g).exponent).then
    (compare (Parts.ofFloat f).mantissa (Parts.ofFloat g).mantissa)

theorem compareParts_eq (f g : Float) :
    compareParts f g = compare (units (magnitude f) : ℤ) (units (magnitude g) : ℤ) := by
  unfold compareParts
  refine eq_compare (fun hlt => ?_) (fun heq => ?_) (fun hgt => ?_)
  · rw [Nat.cast_lt, units_strictMono.lt_iff_lt] at hlt
    rcases parts_lt hlt with hexponent | ⟨hexponent, hmantissa⟩
    · rw [Int.compare_eq_lt.mpr hexponent]
      rfl
    · rw [Int.compare_eq_eq.mpr hexponent, Nat.compare_eq_lt.mpr hmantissa]
      rfl
  · rw [Nat.cast_inj, units_strictMono.injective.eq_iff] at heq
    have hparts : Parts.ofFloat f = Parts.ofFloat g := by rw [Parts.ofFloat, Parts.ofFloat, heq]
    rw [hparts, Int.compare_eq_eq.mpr rfl, Nat.compare_eq_eq.mpr rfl]
    rfl
  · rw [Nat.cast_lt, units_strictMono.lt_iff_lt] at hgt
    rcases parts_lt hgt with hexponent | ⟨hexponent, hmantissa⟩
    · rw [Int.compare_eq_gt.mpr hexponent]
      rfl
    · rw [Int.compare_eq_eq.mpr hexponent.symm, Nat.compare_eq_gt.mpr hmantissa]
      rfl

/-- Two finite doubles are compared by their numbers of units. -/
theorem compare_unpack_of_isFinite {f g : Float} (hf : isFinite f = true) (hg : isFinite g = true) :
    f.toModel.unpack.compare g.toModel.unpack = some (compare (signedUnits f) (signedUnits g)) := by
  have hparts := compareParts_eq f g
  rw [unpack_eq hf, unpack_eq hg]
  unfold signedUnits sign
  by_cases hzero : magnitude f = 0 <;> by_cases hzero' : magnitude g = 0
  · simp [hzero, hzero', units_zero, Float.Model.UnpackedFloat.compare]
  · have hpos := units_pos hzero'
    cases isNegative g with
    | false =>
      have hless : (0 : ℤ) < units (magnitude g) := by omega
      simp [hzero, hzero', units_zero, Float.Model.UnpackedFloat.compare, Int.compare_eq_lt.mpr hless]
    | true =>
      have hgreater : -(units (magnitude g) : ℤ) < 0 := by omega
      simp [hzero, hzero', units_zero, Float.Model.UnpackedFloat.compare, Int.compare_eq_gt.mpr hgreater]
  · have hpos := units_pos hzero
    cases isNegative f with
    | false =>
      have hgreater : (0 : ℤ) < units (magnitude f) := by omega
      simp [hzero, hzero', units_zero, Float.Model.UnpackedFloat.compare, Int.compare_eq_gt.mpr hgreater]
    | true =>
      have hless : -(units (magnitude f) : ℤ) < 0 := by omega
      simp [hzero, hzero', units_zero, Float.Model.UnpackedFloat.compare, Int.compare_eq_lt.mpr hless]
  · have hpos := units_pos hzero
    have hpos' := units_pos hzero'
    rw [dif_neg hzero, dif_neg hzero']
    cases isNegative f <;> cases isNegative g
    · exact congrArg some hparts
    · exact congrArg some (Int.compare_eq_gt.mpr (by simp; omega)).symm
    · exact congrArg some (Int.compare_eq_lt.mpr (by simp; omega)).symm
    · have hswap : (compareParts f g).swap = compare (-(units (magnitude f) : ℤ)) (-(units (magnitude g) : ℤ)) := by
        rw [hparts, Int.compare_swap]
        exact eq_compare (fun h => Int.compare_eq_lt.mpr (by omega)) (fun h => Int.compare_eq_eq.mpr (by omega))
          (fun h => Int.compare_eq_gt.mpr (by omega))
      exact congrArg some hswap

/-- What is a number and not finite is infinite. -/
theorem infinite_of_not_isNaN {f : Float} (hnumber : f.isNaN = false) (hf : isFinite f = false) :
    f.toModel.unpack = .infinity (sign f) ∧ magnitude f = 0x7ff0000000000000 :=
  (unpack_of_not_isFinite hf).resolve_left fun hnan =>
    Bool.false_ne_true (hnumber.symm.trans (isNaN_iff.mpr hnan))

theorem units_lt_of_isFinite {f g : Float} (hf : isFinite f = true) (hg : magnitude g = 0x7ff0000000000000) :
    units (magnitude f) < units (magnitude g) := by
  refine units_strictMono ?_
  rw [hg]
  exact of_decide_eq_true hf

/-- What is finite is between what is infinite. -/
theorem compare_unpack_infinite {f g : Float} (hf : f.toModel.unpack = .infinity (sign f))
    (hfbits : magnitude f = 0x7ff0000000000000) (hg : isFinite g = true) :
    f.toModel.unpack.compare g.toModel.unpack = some (compare (signedUnits f) (signedUnits g)) ∧
      g.toModel.unpack.compare f.toModel.unpack = some (compare (signedUnits g) (signedUnits f)) := by
  have hless := units_lt_of_isFinite hg hfbits
  have hlow : -(units (magnitude f) : ℤ) < signedUnits g := by
    unfold signedUnits
    split <;> omega
  have hhigh : signedUnits g < units (magnitude f) := by
    unfold signedUnits
    split <;> omega
  rw [hf, unpack_eq hg]
  unfold sign
  rw [signedUnits.eq_def f]
  cases isNegative f with
  | true =>
    simp only [if_true, Int.compare_eq_lt.mpr hlow, Int.compare_eq_gt.mpr hlow]
    split <;> exact ⟨rfl, rfl⟩
  | false =>
    simp only [Bool.false_eq_true, if_false, Int.compare_eq_lt.mpr hhigh, Int.compare_eq_gt.mpr hhigh]
    split <;> exact ⟨rfl, rfl⟩

/-- Doubles are compared by their numbers of units, those of what is infinite being more than all others. -/
theorem compare_unpack_of_not_isNaN {f g : Float} (hf : f.isNaN = false) (hg : g.isNaN = false) :
    f.toModel.unpack.compare g.toModel.unpack = some (compare (signedUnits f) (signedUnits g)) := by
  cases hff : isFinite f <;> cases hgf : isFinite g
  · obtain ⟨hf, hfbits⟩ := infinite_of_not_isNaN hf hff
    obtain ⟨hg, hgbits⟩ := infinite_of_not_isNaN hg hgf
    have hpos : 0 < units 0x7ff0000000000000 := units_pos (by decide)
    rw [hf, hg]
    unfold signedUnits sign
    rw [hfbits, hgbits]
    generalize units 0x7ff0000000000000 = u at hpos ⊢
    have hless : -(u : ℤ) < u := by omega
    cases isNegative f <;> cases isNegative g
    · exact congrArg some (Int.compare_eq_eq.mpr rfl).symm
    · exact congrArg some (Int.compare_eq_gt.mpr hless).symm
    · exact congrArg some (Int.compare_eq_lt.mpr hless).symm
    · exact congrArg some (Int.compare_eq_eq.mpr rfl).symm
  · obtain ⟨hf, hfbits⟩ := infinite_of_not_isNaN hf hff
    exact (compare_unpack_infinite hf hfbits hgf).1
  · obtain ⟨hg, hgbits⟩ := infinite_of_not_isNaN hg hgf
    exact (compare_unpack_infinite hg hgbits hff).2
  · exact compare_unpack_of_isFinite hff hgf

/-- What is not a number cannot be compared. -/
theorem compare_unpack (f g : Float) :
    f.toModel.unpack.compare g.toModel.unpack =
      if f.isNaN = true ∨ g.isNaN = true then none else some (compare (signedUnits f) (signedUnits g)) := by
  split
  · next h =>
    rcases h with h | h
    · rw [isNaN_iff.mp h]
      rfl
    · rw [isNaN_iff.mp h]
      cases f.toModel.unpack <;> rfl
  · next h =>
    obtain ⟨hf, hg⟩ := not_or.mp h
    exact compare_unpack_of_not_isNaN (Bool.not_eq_true _ ▸ hf) (Bool.not_eq_true _ ▸ hg)

theorem not_isNaN_iff {f g : Float} :
    ¬ (f.isNaN = true ∨ g.isNaN = true) ↔ f.isNaN = false ∧ g.isNaN = false := by
  rw [not_or, Bool.not_eq_true, Bool.not_eq_true]

/-- The order of doubles is that of their numbers of units. What is not a number is not in the order. -/
theorem le_iff_signedUnits {f g : Float} :
    f ≤ g ↔ f.isNaN = false ∧ g.isNaN = false ∧ signedUnits f ≤ signedUnits g := by
  rw [← and_assoc, ← not_isNaN_iff, ← Int.isLE_compare]
  show decide ((f.toModel.unpack.compare g.toModel.unpack).any (·.isLE) = true) = true ↔ _
  rw [compare_unpack, decide_eq_true_iff]
  split
  · next h => exact iff_of_false Bool.false_ne_true fun hnot => hnot.1 h
  · next h =>
    rw [and_iff_right h]
    rfl

theorem lt_iff_signedUnits {f g : Float} :
    f < g ↔ f.isNaN = false ∧ g.isNaN = false ∧ signedUnits f < signedUnits g := by
  rw [← and_assoc, ← not_isNaN_iff, ← Int.compare_eq_lt]
  show decide ((f.toModel.unpack.compare g.toModel.unpack == some .lt) = true) = true ↔ _
  rw [compare_unpack, decide_eq_true_iff, beq_iff_eq]
  split
  · next h => exact iff_of_false nofun fun hnot => hnot.1 h
  · next h => rw [and_iff_right h, Option.some.injEq]

/-! ### Finite doubles -/

/-- A finite double is a number. -/
theorem isNaN_eq_false {f : Float} (hf : isFinite f = true) : f.isNaN = false := by
  show f.toModel.unpack.isNaN = false
  rw [unpack_eq hf]
  split <;> rfl

/-- Finite doubles are in the order of their numbers. -/
theorem lt_iff {f g : Float} (hf : isFinite f = true) (hg : isFinite g = true) : f < g ↔ value f < value g := by
  rw [lt_iff_signedUnits, value_lt_iff, and_iff_right (isNaN_eq_false hf), and_iff_right (isNaN_eq_false hg)]

theorem le_iff {f g : Float} (hf : isFinite f = true) (hg : isFinite g = true) : f ≤ g ↔ value f ≤ value g := by
  rw [le_iff_signedUnits, value_le_iff, and_iff_right (isNaN_eq_false hf), and_iff_right (isNaN_eq_false hg)]

/-- What lies between two finite doubles is finite. -/
theorem isFinite_of_between {f g h : Float} (hf : isFinite f = true) (hh : isFinite h = true) (hfg : f ≤ g)
    (hgh : g ≤ h) : isFinite g = true := by
  by_contra hg
  obtain ⟨-, hnumber, hlow⟩ := le_iff_signedUnits.mp hfg
  obtain ⟨-, -, hhigh⟩ := le_iff_signedUnits.mp hgh
  obtain ⟨-, hbits⟩ := infinite_of_not_isNaN hnumber (Bool.not_eq_true _ ▸ hg)
  have hbelow := units_lt_of_isFinite hf hbits
  have habove := units_lt_of_isFinite hh hbits
  unfold signedUnits at hlow hhigh
  split_ifs at hlow hhigh <;> omega

end MapQuery.Double
