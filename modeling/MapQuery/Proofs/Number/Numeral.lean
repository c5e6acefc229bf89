import MapQuery.Number.Whole
import MapQuery.Text.Blank

/-!
# Decimal numerals

A whole number of 64 bits is written with decimal digits, which may stand after a sign. Numerals are what is
read as a number, and the decimal text of a number is one of them.

* `Whole.IsDigits` — some digits, and nothing else.
* `Whole.Numeral` — a numeral and its number.
* `Whole.read?_eq_some_iff` — a text is read as a number exactly if it is a numeral of the number.
* `Whole.toList_toString_cases` — the decimal text of a number: digits, after a minus sign where it is
  negative.
-/

namespace MapQuery

/-! ### Digits -/

theorem Ascii.toNat_of_isDigit {c : Char} (h : isDigit c = true) : 48 ≤ c.toNat ∧ c.toNat ≤ 57 := by
  simp only [isDigit, Char.isDigit, Bool.and_eq_true, decide_eq_true_eq, ge_iff_le,
    UInt32.le_iff_toNat_le] at h
  exact h

theorem Text.isBlank_of_isDigit {c : Char} (h : Ascii.isDigit c = true) : isBlank c = false := by
  obtain ⟨hlow, hhigh⟩ := Ascii.toNat_of_isDigit h
  simp only [isBlank, Bool.or_eq_false_iff, Bool.and_eq_false_iff, decide_eq_false_iff_not, beq_eq_false_iff_ne]
  omega

namespace Whole

open Ascii (isDigit digitsValue)

/-! ### Numerals -/

/-- Digits, at least one, and nothing else. -/
def IsDigits (ds : List Char) : Prop :=
  ds ≠ [] ∧ ∀ d ∈ ds, isDigit d = true

/-- A text is a numeral of a number: digits, perhaps after a sign, for a number that fits into 64 bits. -/
inductive Numeral : List Char → Int → Prop
  | unsigned {ds : List Char} (hdigits : IsDigits ds) (hfits : Fits (digitsValue ds)) :
    Numeral ds (digitsValue ds)
  | positive {ds : List Char} (hdigits : IsDigits ds) (hfits : Fits (digitsValue ds)) :
    Numeral ('+' :: ds) (digitsValue ds)
  | negative {ds : List Char} (hdigits : IsDigits ds) (hfits : Fits (-(digitsValue ds : Int))) :
    Numeral ('-' :: ds) (-(digitsValue ds : Int))

theorem ne_of_isDigit {c d : Char} (hc : isDigit c = true) (hd : isDigit d = false) : c ≠ d := by
  rintro rfl
  rw [hc] at hd
  cases hd

theorem not_isDigits_cons {c : Char} (h : isDigit c = false) (ds : List Char) : ¬ IsDigits (c :: ds) :=
  fun hdigits => ne_of_isDigit (hdigits.2 c List.mem_cons_self) h rfl

variable {cs ds : List Char} {c : Char} {n : Int}

theorem Numeral.ne_nil (h : Numeral cs n) : cs ≠ [] := by
  cases h with
  | unsigned hdigits => exact hdigits.1
  | positive => exact List.cons_ne_nil _ _
  | negative => exact List.cons_ne_nil _ _

/-- A sign stands nowhere but in front. -/
theorem Numeral.isDigit_of_mem (h : Numeral (c :: cs) n) : ∀ d ∈ cs, isDigit d = true := by
  cases h with
  | unsigned hdigits => exact fun d hd => hdigits.2 d (List.mem_cons_of_mem c hd)
  | positive hdigits => exact hdigits.2
  | negative hdigits => exact hdigits.2

theorem Numeral.dash_not_mem (h : Numeral (c :: cs) n) : '-' ∉ cs := by
  intro hmem
  exact ne_of_isDigit (h.isDigit_of_mem '-' hmem) rfl rfl

/-! ### Reading -/

theorem readDigits?_eq_some_iff {value : Nat} :
    readDigits? ds = some value ↔ IsDigits ds ∧ digitsValue ds = value := by
  unfold readDigits? IsDigits
  cases ds with
  | nil => simp
  | cons d ds => simp

theorem checked_eq_some_iff {m : Int} : checked m = some n ↔ Fits m ∧ m = n := by
  unfold checked
  split
  · next hfits => simp [hfits]
  · next hfits => simp [hfits]

/-- Digits are read as the number that a sign makes of their value. -/
theorem bind_readDigits?_eq_some_iff (sign : Nat → Int) :
    ((readDigits? ds).bind fun value => checked (sign value)) = some n ↔
      IsDigits ds ∧ Fits (sign (digitsValue ds)) ∧ sign (digitsValue ds) = n := by
  rw [Option.bind_eq_some_iff]
  constructor
  · rintro ⟨value, hvalue, hchecked⟩
    obtain ⟨hdigits, rfl⟩ := readDigits?_eq_some_iff.mp hvalue
    exact ⟨hdigits, checked_eq_some_iff.mp hchecked⟩
  · rintro ⟨hdigits, hchecked⟩
    exact ⟨digitsValue ds, readDigits?_eq_some_iff.mpr ⟨hdigits, rfl⟩, checked_eq_some_iff.mpr hchecked⟩

/-- What is read as a number are the numerals, each as its number. -/
theorem read?_eq_some_iff : read? cs = some n ↔ Numeral cs n := by
  constructor
  · intro h
    unfold read? at h
    split at h
    · next ds =>
      obtain ⟨hdigits, hfits, rfl⟩ := (bind_readDigits?_eq_some_iff (fun value => -(value : Int))).mp h
      exact .negative hdigits hfits
    · next ds =>
      obtain ⟨hdigits, hfits, rfl⟩ := (bind_readDigits?_eq_some_iff (fun value => (value : Int))).mp h
      exact .positive hdigits hfits
    · obtain ⟨hdigits, hfits, rfl⟩ := (bind_readDigits?_eq_some_iff (fun value => (value : Int))).mp h
      exact .unsigned hdigits hfits
  · intro h
    cases h with
    | unsigned hdigits hfits =>
      -- Digits do not begin with a sign.
      rw [read?.eq_3]
      · exact (bind_readDigits?_eq_some_iff (fun value => (value : Int))).mpr ⟨hdigits, hfits, rfl⟩
      · rintro ds rfl
        exact not_isDigits_cons rfl ds hdigits
      · rintro ds rfl
        exact not_isDigits_cons rfl ds hdigits
    | positive hdigits hfits =>
      exact (bind_readDigits?_eq_some_iff (fun value => (value : Int))).mpr ⟨hdigits, hfits, rfl⟩
    | negative hdigits hfits =>
      exact (bind_readDigits?_eq_some_iff (fun value => -(value : Int))).mpr ⟨hdigits, hfits, rfl⟩

theorem read?_eq_none_iff : read? cs = none ↔ ∀ n, ¬ Numeral cs n := by
  rw [Option.eq_none_iff_forall_ne_some]
  exact forall_congr' fun _ => not_congr read?_eq_some_iff

theorem read?_nil : read? [] = none := rfl

/-! ### Writing -/

/-- The decimal digits of a natural number. -/
theorem isDigits_toDigits (m : Nat) : IsDigits (Nat.toDigits 10 m) :=
  ⟨Nat.toDigits_ne_nil, fun _ hd => Nat.isDigit_of_mem_toDigits (by omega) (by omega) hd⟩

theorem digitsValue_toDigits (m : Nat) : digitsValue (Nat.toDigits 10 m) = m :=
  Nat.ofDigitChars_ten_toDigits

/-- The decimal text of a number is made of digits, after a minus sign where the number is negative. -/
theorem toList_toString_cases (n : Int) :
    ∃ ds, IsDigits ds ∧ ((toString n).toList = ds ∧ n = digitsValue ds ∨
      (toString n).toList = '-' :: ds ∧ n = -(digitsValue ds : Int)) := by
  cases n with
  | ofNat m =>
    refine ⟨Nat.toDigits 10 m, isDigits_toDigits m, .inl ⟨?_, ?_⟩⟩
    · show m.repr.toList = _
      rw [Nat.toList_repr]
    · rw [digitsValue_toDigits]
      rfl
  | negSucc m =>
    refine ⟨Nat.toDigits 10 (m + 1), isDigits_toDigits (m + 1), .inr ⟨?_, ?_⟩⟩
    · show ("-" ++ (m + 1).repr).toList = _
      rw [String.toList_append, Nat.toList_repr]
      rfl
    · rw [digitsValue_toDigits]
      rfl

/-- The decimal text of a number is a numeral of it. -/
theorem numeral_toString (h : Fits n) : Numeral (toString n).toList n := by
  obtain ⟨ds, hdigits, ⟨htext, rfl⟩ | ⟨htext, rfl⟩⟩ := toList_toString_cases n
  · rw [htext]
    exact .unsigned hdigits h
  · rw [htext]
    exact .negative hdigits h

end Whole

end MapQuery
