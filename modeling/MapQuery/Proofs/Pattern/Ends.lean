import Mathlib.Data.Nat.Bitwise
import MapQuery.Pattern.Basic

/-!
# Places where an expression ends

* `Within` — a set of places in another one.
* `Expr.within_ends` — an expression that starts at more places ends at more places.
* `Expr.anchored` — an expression for the whole text; `Expr.occursIn_anchored` — it occurs where the expression takes
  the start of the text to its end.
-/

namespace MapQuery.Pattern

variable {a b a' b' : Nat} {text : List Char}

/-! ### Sets of places -/

/-- All places of one set are places of the other. -/
def Within (a b : Nat) : Prop :=
  ∀ i, a.testBit i = true → b.testBit i = true

theorem ne_zero_of_testBit {i : Nat} (h : a.testBit i = true) : a ≠ 0 := by
  rintro rfl
  rw [Nat.zero_testBit] at h
  cases h

namespace Within

theorem or (h : Within a a') (h' : Within b b') : Within (a ||| b) (a' ||| b') := by
  intro i
  rw [Nat.testBit_or, Nat.testBit_or, Bool.or_eq_true, Bool.or_eq_true]
  exact Or.imp (h i) (h' i)

theorem and_right (h : Within a b) (c : Nat) : Within (a &&& c) (b &&& c) := by
  intro i
  rw [Nat.testBit_and, Nat.testBit_and, Bool.and_eq_true, Bool.and_eq_true]
  exact And.imp_left (h i)

theorem shiftLeft (h : Within a b) (n : Nat) : Within (a <<< n) (b <<< n) := by
  intro i
  rw [Nat.testBit_shiftLeft, Nat.testBit_shiftLeft, Bool.and_eq_true, Bool.and_eq_true]
  exact And.imp_right (h _)

theorem ne_zero (h : Within a b) (ha : a ≠ 0) : b ≠ 0 := by
  obtain ⟨i, hi⟩ := Nat.exists_testBit_of_ne_zero ha
  exact ne_zero_of_testBit (h i hi)

end Within

/-! ### Repeated steps -/

/-- The end comes early only where more steps change nothing. -/
theorem stepped_eq (step : Nat → Nat) (n s : Nat) : stepped step n s = step^[n] s := by
  induction n generalizing s with
  | zero => rfl
  | succ n ih =>
    rw [stepped, Function.iterate_succ_apply]
    split
    · next hfixed =>
      rw [hfixed, Function.iterate_fixed hfixed]
    · exact ih (step s)

theorem spread_eq (step : Nat → Nat) (n s : Nat) : spread step n s = (fun s => s ||| step s)^[n] s := by
  induction n generalizing s with
  | zero => rfl
  | succ n ih =>
    rw [spread, Function.iterate_succ_apply]
    split
    · next hfixed =>
      rw [hfixed, Function.iterate_fixed hfixed]
    · exact ih (s ||| step s)

theorem Within.iterate {step : Nat → Nat} (hstep : ∀ {a b : Nat}, Within a b → Within (step a) (step b))
    (h : Within a b) (n : Nat) : Within (step^[n] a) (step^[n] b) := by
  induction n generalizing a b with
  | zero => exact h
  | succ n ih =>
    rw [Function.iterate_succ_apply, Function.iterate_succ_apply]
    exact ih (hstep h)

theorem Within.stepped {step : Nat → Nat} (hstep : ∀ {a b : Nat}, Within a b → Within (step a) (step b))
    (h : Within a b) (n : Nat) : Within (stepped step n a) (stepped step n b) := by
  rw [stepped_eq, stepped_eq]
  exact h.iterate hstep n

theorem Within.spread {step : Nat → Nat} (hstep : ∀ {a b : Nat}, Within a b → Within (step a) (step b))
    (h : Within a b) (n : Nat) : Within (spread step n a) (spread step n b) := by
  rw [spread_eq, spread_eq]
  exact h.iterate (fun h => h.or (hstep h)) n

namespace Expr

/-- An expression that starts at more places ends at more places. -/
theorem within_ends (text : List Char) (e : Expr) (h : Within a b) : Within (e.ends text a) (e.ends text b) := by
  induction e generalizing a b with
  | empty => exact h
  | set members => exact (h.and_right _).shiftLeft 1
  | look l => exact h.and_right _
  | seq first second ihFirst ihSecond => exact ihSecond (ihFirst h)
  | either first second ihFirst ihSecond => exact (ihFirst h).or (ihSecond h)
  | repeated least most body ih =>
    cases most with
    | none => exact (h.stepped ih least).spread ih _
    | some most => exact (h.stepped ih least).spread ih _
  | remembered body ih => exact ih h

/-! ### The whole text -/

/-- An expression between the two ends of the text. -/
def anchored (e : Expr) : Expr :=
  .seq (.look .textStart) (.seq e (.look .textEnd))

theorem size_anchored (e : Expr) : e.anchored.size = e.size + 2 * stateSize := by
  show stateSize + (e.size + stateSize) = _
  omega

end Expr

theorem lookPlaces_textStart_some (c : Char) (text : List Char) : lookPlaces .textStart (some c) text = 0 := by
  induction text generalizing c with
  | nil => rfl
  | cons d ds ih =>
    show 2 * lookPlaces .textStart (some d) ds + 0 = 0
    rw [ih]

/-- The text starts at its first place only. -/
theorem lookPlaces_textStart (text : List Char) : lookPlaces .textStart none text = 1 := by
  cases text with
  | nil => rfl
  | cons c cs =>
    show 2 * lookPlaces .textStart (some c) cs + 1 = 1
    rw [lookPlaces_textStart_some]

/-- The text ends at its last place only. -/
theorem lookPlaces_textEnd (before : Option Char) (text : List Char) :
    lookPlaces .textEnd before text = 2 ^ text.length := by
  induction text generalizing before with
  | nil => rfl
  | cons c cs ih =>
    show 2 * lookPlaces .textEnd (some c) cs + 0 = 2 ^ (cs.length + 1)
    rw [ih, pow_succ']
    rfl

theorem allPlaces_and_one (text : List Char) : allPlaces text &&& 1 = 1 := by
  rw [Nat.and_one_is_mod]
  cases text with
  | nil => rfl
  | cons c cs =>
    show (2 * allPlaces cs + 1) % 2 = 1
    omega

namespace Expr

/-- Between the two ends of the text, an expression has to take the first place to the last one. -/
theorem occursIn_anchored (e : Expr) (text : List Char) :
    e.anchored.occursIn text = (e.ends text 1).testBit text.length := by
  show (e.ends text (allPlaces text &&& lookPlaces .textStart none text) &&& lookPlaces .textEnd none text != 0) = _
  rw [lookPlaces_textStart, allPlaces_and_one, lookPlaces_textEnd, Nat.and_two_pow]
  cases (e.ends text 1).testBit text.length with
  | false =>
    rw [Bool.toNat_false, Nat.zero_mul]
    rfl
  | true =>
    rw [Bool.toNat_true, Nat.one_mul, bne_iff_ne]
    exact (Nat.two_pow_pos _).ne'

/-- What an expression takes from the start of the text to its end has the expression in it. -/
theorem occursIn_of_anchored {e : Expr} (h : e.anchored.occursIn text = true) : e.occursIn text = true := by
  rw [occursIn_anchored] at h
  have hstart : Within 1 (allPlaces text) := by
    intro i hi
    rw [← allPlaces_and_one text, Nat.testBit_and, Bool.and_eq_true] at hi
    exact hi.1
  exact bne_iff_ne.mpr ((e.within_ends text hstart).ne_zero (ne_zero_of_testBit h))

end Expr

end MapQuery.Pattern
