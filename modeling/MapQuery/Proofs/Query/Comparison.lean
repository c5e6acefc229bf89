import MapQuery.Proofs.Compiler.OneKey
import MapQuery.Proofs.DataSet.Consistent
import MapQuery.Proofs.Number.Spellings
import MapQuery.Proofs.Query.Evaluation

/-!
# Comparisons of values

A value is compared with a reference as a number where both are finite numbers, and as a text otherwise. Numbers are
compared by the place of their doubles, which is the order of what the doubles stand for, except that the negative zero
stands before the positive one.

* `Double.Before` — the order of doubles, by the numbers that they stand for.
* `Double.before_of_decimals` — texts of the same number, of which none is before the other unless both are zeros.
* `Comparison.Relates` — the two comparisons are the two directions of one order.
* `Compiler.compile_comparison` — what a query that compares a value says of a primitive.
-/

namespace MapQuery

namespace Double

variable {value reference : String} {v w : Float}

/-! ### The order of doubles -/

/-- A double comes before another one: its number is less, or they are the negative and the positive zero. -/
def Before (f g : Float) : Prop :=
  Double.value f < Double.value g ∨
    Double.value f = 0 ∧ Double.value g = 0 ∧ isNegative f = true ∧ isNegative g = false

instance (f g : Float) : Decidable (Before f g) :=
  decidable_of_iff (key f < key g) (key_lt_iff f g)

theorem not_before_self (f : Float) : ¬ Before f f := by
  rintro (h | ⟨-, -, hnegative, hpositive⟩)
  · exact lt_irrefl _ h
  · exact absurd (hnegative.symm.trans hpositive) (by decide)

theorem compare_key_eq_lt : compare (key v) (key w) = .lt ↔ Before v w :=
  Int.compare_eq_lt.trans (key_lt_iff v w)

theorem compare_key_eq_gt : compare (key v) (key w) = .gt ↔ Before w v :=
  Int.compare_eq_gt.trans (key_lt_iff w v)

/-! ### The order of texts -/

/-- Texts are compared character by character. -/
theorem compare_toList_eq_lt {s t : List Char} : compare s t = .lt ↔ s < t := by
  induction s generalizing t with
  | nil =>
    cases t with
    | nil => simp
    | cons d t => exact iff_of_true rfl (List.nil_lt_cons d t)
  | cons c s ih =>
    cases t with
    | nil => exact iff_of_false nofun (List.not_lt_nil _)
    | cons d t =>
      have hcons : compare (c :: s) (d :: t) = (compare c d).then (compare s t) := List.compareLex_cons_cons
      have hlt : compare c d = .lt ↔ c < d := compareOfLessAndEq_eq_lt
      have heq : compare c d = .eq ↔ c = d := Std.LawfulEqCmp.compare_eq_iff_eq
      rw [hcons, List.cons_lt_cons_iff, ← ih, Ordering.then_eq_lt, hlt, heq]

theorem compare_toList_eq_gt {s t : List Char} : compare s t = .gt ↔ t < s :=
  Std.OrientedCmp.gt_iff_lt.trans compare_toList_eq_lt

theorem compareTexts_of_numbers (hv : number? value = some v) (hw : number? reference = some w) :
    compareTexts value reference (number? reference) = compare (key v) (key w) := by
  unfold compareTexts
  rw [hv, hw]

theorem compareTexts_of_not_number (h : number? value = none ∨ number? reference = none) :
    compareTexts value reference (number? reference) = compare value.toList reference.toList := by
  unfold compareTexts
  split
  · next hv hw =>
    rcases h with h | h
    · cases h.symm.trans hv
    · cases h.symm.trans hw
  · rfl

/-! ### Decimals as doubles -/

/-- A text that is a decimal and a finite number is the double nearest to the decimal. -/
theorem number?_of_decimal {d : Decimal} (hd : Decimal.read? (Text.trim value.toList) = some d)
    (hv : number? value = some v) : d.toFloat = v := by
  rw [number?, ofChars?, hd, Option.map_some, Option.filter_eq_some_iff] at hv
  exact Option.some.inj hv.1

/-- A decimal of zero is the zero of its sign. -/
theorem toFloat_of_zero {d : Decimal} (h : d.value = 0) :
    Double.value d.toFloat = 0 ∧ isNegative d.toFloat = d.negative := by
  have hdigits : d.digits = 0 := by
    by_contra hpos
    have hpower : (10 : ℚ) ^ d.exponent ≠ 0 := zpow_ne_zero _ (by norm_num)
    have hnumber : (d.digits : ℚ) ≠ 0 := by exact_mod_cast hpos
    refine absurd h (mul_ne_zero ?_ (mul_ne_zero hnumber hpower))
    split <;> norm_num
  have hread : d.toFloat = if d.negative then -0 else 0 := by
    unfold Decimal.toFloat
    simp only [hdigits, true_or, if_true]
  rw [hread]
  cases d.negative <;> exact ⟨value_eq_zero_iff.mpr (by decide +kernel), by decide +kernel⟩

/-- Of two texts of the same number none is before the other one, unless they are a zero with the sign and one without
it. -/
theorem before_of_decimals {d d' : Decimal} (hd : Decimal.read? (Text.trim value.toList) = some d)
    (hd' : Decimal.read? (Text.trim reference.toList) = some d') (hsame : d.value = d'.value)
    (hv : number? value = some v) (hw : number? reference = some w) :
    Before v w ↔ d.value = 0 ∧ d.negative = true ∧ d'.negative = false := by
  rw [← number?_of_decimal hd hv, ← number?_of_decimal hd' hw]
  by_cases hzero : d.value = 0
  · obtain ⟨hvalue, hsign⟩ := toFloat_of_zero hzero
    obtain ⟨hvalue', hsign'⟩ := toFloat_of_zero (hsame ▸ hzero)
    rw [Before, hvalue, hvalue', hsign, hsign']
    simp [hzero]
  · rw [Decimal.toFloat_congr hsame hzero]
    exact iff_of_false (not_before_self _) fun h => hzero h.1

end Double

/-! ### What a comparison says -/

namespace Comparison

/-- The sign of a comparison as a token. -/
def kind : Comparison → Token.Kind
  | less => .lessThan
  | greater => .greaterThan

/-- Two things in an order, as a comparison asks for them: the first before the second, or behind it. -/
def Relates {α : Type} (before : α → α → Prop) : Comparison → α → α → Prop
  | less, a, b => before a b
  | greater, a, b => before b a

end Comparison

namespace ValueComparison

variable {m : ValueComparison} {tags : Tags} {value : String}

theorem holds_of_missing (h : tags.get? m.key = none) : m.holds tags = false := by
  rw [holds, h]

/-- A comparison holds by the order of the value and the reference, whichever this order is. -/
theorem holds_iff {α : Type} {before : α → α → Prop} {a b : α} (h : tags.get? m.key = some value)
    (hlt : Double.compareTexts value m.reference m.number = .lt ↔ before a b)
    (hgt : Double.compareTexts value m.reference m.number = .gt ↔ before b a) :
    m.holds tags = true ↔ m.comparison.Relates before a b := by
  rw [holds, h]
  cases hcomparison : m.comparison with
  | less => exact Ordering.isLT_iff_eq_lt.trans hlt
  | greater => exact Ordering.isGT_iff_eq_gt.trans hgt

end ValueComparison

namespace Query

variable {P : Type} [Primitive P]

theorem holds_comparison (m : ValueComparison) (p : P) :
    (Query.comparison m).holds p = m.holds (Primitive.profile p).tags :=
  holds_eq_satisfied (.comparison m) p

end Query

namespace Compiler

variable {registry : Registry} {flags : Flags} {text : String} {k r : Key} {c : Comparison}

/-- A key, the sign of a comparison and a key. Whether the first one is a keyword is not asked. -/
theorem compile_of_comparison (hkinds : (Tokens.ofText text).kinds = [.key k, c.kind, .key r]) :
    Query.compile registry flags text = .ok (.comparison ⟨k.text, r.text, Double.number? r.text, c⟩) := by
  generalize hs : Tokens.ofText text = s at hkinds
  obtain ⟨hkey, htail⟩ := Tokens.kind_head_of_kinds hkinds
  obtain ⟨hsign, htail⟩ := Tokens.kind_head_of_kinds htail
  obtain ⟨hreference, hrest⟩ := Tokens.kind_head_of_kinds htail
  have heof : s.tail.tail.tail.head.kind = .eof := Tokens.kind_head_of_nil hrest
  refine compile_of_keyed (by rwa [hs]) (fun nest => ?_) heof
  rw [hs]
  unfold Grammar.keyed
  rw [hsign]
  have hcomparison : Grammar.comparison k.text c s.tail.tail =
      .ok (.comparison ⟨k.text, r.text, Double.number? r.text, c⟩, s.tail.tail.tail) := by
    unfold Grammar.comparison
    rw [Tokens.text?_of_key hreference]
    rfl
  cases c <;> exact hcomparison

/-- A key without a value compares with nothing. Where the value and the reference are finite numbers, what their doubles
stand for is compared, and the negative zero is less than the positive one; two decimals of the same number are the
same, unless they are these zeros. Everything else is compared as texts, character by character, blanks included. -/
theorem compile_comparison (registry : Registry) (flags : Flags)
    (hkinds : (Tokens.ofText text).kinds = [.key k, c.kind, .key r]) :
    ∃ q, Query.compile registry flags text = .ok q ∧ ∀ {P : Type} [Primitive P] (p : P),
      let found := (Primitive.profile p).tags.get? k.text
      (found = none → q.holds p = false) ∧
      (∀ value v w, found = some value → Double.number? value = some v → Double.number? r.text = some w →
        (q.holds p = true ↔ c.Relates Double.Before v w) ∧
        ∀ d d', Decimal.read? (Text.trim value.toList) = some d →
          Decimal.read? (Text.trim r.text.toList) = some d' → d.value = d'.value →
          (q.holds p = true ↔
            d.value = 0 ∧ c.Relates (fun a b => a.negative = true ∧ b.negative = false) d d')) ∧
      (∀ value, found = some value → Double.number? value = none ∨ Double.number? r.text = none →
        (q.holds p = true ↔ c.Relates (· < ·) value r.text)) := by
  refine ⟨_, compile_of_comparison hkinds, fun {P} _ p => ?_⟩
  rw [Query.holds_comparison]
  refine ⟨fun hfound => ValueComparison.holds_of_missing hfound, fun value v w hfound hv hw => ?_,
    fun value hfound hnumber => ?_⟩
  · have horder := Double.compareTexts_of_numbers hv hw
    have hholds := ValueComparison.holds_iff (m := ⟨k.text, r.text, Double.number? r.text, c⟩) hfound
      (horder ▸ Double.compare_key_eq_lt) (horder ▸ Double.compare_key_eq_gt)
    refine ⟨hholds, fun d d' hd hd' hsame => hholds.trans ?_⟩
    cases c with
    | less => exact Double.before_of_decimals hd hd' hsame hv hw
    | greater =>
      rw [hsame]
      exact Double.before_of_decimals hd' hd hsame.symm hw hv
  · have horder := Double.compareTexts_of_not_number hnumber
    exact ValueComparison.holds_iff (m := ⟨k.text, r.text, Double.number? r.text, c⟩) hfound
      (horder ▸ Double.compare_toList_eq_lt.trans String.lt_iff.symm)
      (horder ▸ Double.compare_toList_eq_gt.trans String.lt_iff.symm)

/-- Ten is more than nine, though its text is less; twelve is neither more nor less than twelve, however it is
written. -/
theorem compile_comparison_ten :
    (Tokens.ofText "k>9").kinds = [.key (Key.unquoted ['k']), .greaterThan, .key (Key.unquoted ['9'])] ∧
      (Tokens.ofText "k>12").kinds = [.key (Key.unquoted ['k']), .greaterThan, .key (Key.unquoted ['1', '2'])] ∧
      ∃ q q', Query.compile (.builtin default default) ⟨false, false⟩ "k>9" = .ok q ∧
        Query.compile (.builtin default default) ⟨false, false⟩ "k>12" = .ok q' ∧
        (∃ d : DataSet, d.Reachable ∧ ∃ p : DataSet.Handle d,
          p.profile.tags = Tags.ofList [("k", " 10")] ∧ q.holds p = true) ∧
        ∃ d : DataSet, d.Reachable ∧ ∃ p : DataSet.Handle d,
          p.profile.tags = Tags.ofList [("k", "1.20e1")] ∧ q'.holds p = false := by
  have hnine : (Tokens.ofText "k>9").kinds =
      [.key (Key.unquoted ['k']), .greaterThan, .key (Key.unquoted ['9'])] := by decide +kernel
  have htwelve : (Tokens.ofText "k>12").kinds =
      [.key (Key.unquoted ['k']), .greaterThan, .key (Key.unquoted ['1', '2'])] := by decide +kernel
  obtain ⟨q, hq, hholds⟩ := compile_comparison (c := .greater) (.builtin default default) ⟨false, false⟩ hnine
  obtain ⟨q', hq', hholds'⟩ := compile_comparison (c := .greater) (.builtin default default) ⟨false, false⟩ htwelve
  refine ⟨hnine, htwelve, q, q', hq, hq', ?_, ?_⟩
  · obtain ⟨d, hd, p, htags, -, -⟩ := DataSet.exists_tagged_with [("k", " 10")]
    have hfound : p.profile.tags.get? "k" = some " 10" := by
      rw [htags]
      decide +kernel
    refine ⟨d, hd, p, htags, (((hholds p).2.1 " 10" 10 9 hfound ?_ ?_).1).mpr ?_⟩
    · decide +kernel
    · decide +kernel
    · show Double.Before 9 10
      decide +kernel
  · obtain ⟨d, hd, p, htags, -, -⟩ := DataSet.exists_tagged_with [("k", "1.20e1")]
    have hfound : p.profile.tags.get? "k" = some "1.20e1" := by
      rw [htags]
      decide +kernel
    have hspelled := ((hholds' p).2.1 "1.20e1" 12 12 hfound (by decide +kernel) (by decide +kernel)).2
      ⟨false, 120, -1⟩ ⟨false, 12, 0⟩ (by decide +kernel) (by decide +kernel) (by decide +kernel)
    refine ⟨d, hd, p, htags, ?_⟩
    rw [← Bool.not_eq_true, hspelled]
    exact fun h => Bool.false_ne_true h.2.1

/-- The negative zero is less than zero, though both stand for the same number. -/
theorem negative_zero_is_less :
    ∃ q v w, Query.compile (.builtin default default) ⟨false, false⟩ "k<0" = .ok q ∧
      Double.number? "-0" = some v ∧ Double.number? "0" = some w ∧ Double.value v = Double.value w ∧
      ∃ d : DataSet, d.Reachable ∧ ∃ p : DataSet.Handle d,
        p.profile.tags = Tags.ofList [("k", "-0")] ∧ q.holds p = true := by
  have hkinds : (Tokens.ofText "k<0").kinds =
      [.key (Key.unquoted ['k']), .lessThan, .key (Key.unquoted ['0'])] := by decide +kernel
  have hzeros : Double.value (-0) = 0 ∧ Double.value 0 = 0 :=
    ⟨Double.value_eq_zero_iff.mpr (by decide +kernel), Double.value_eq_zero_iff.mpr (by decide +kernel)⟩
  have hv : Double.number? "-0" = some (-0) := by decide +kernel
  have hw : Double.number? "0" = some 0 := by decide +kernel
  refine ⟨_, -0, 0, compile_of_comparison (c := .less) hkinds, hv, hw, hzeros.1.trans hzeros.2.symm, ?_⟩
  obtain ⟨d, hd, p, htags, -, -⟩ := DataSet.exists_tagged_with [("k", "-0")]
  refine ⟨d, hd, p, htags, ?_⟩
  rw [Query.holds_comparison]
  show ValueComparison.holds _ p.profile.tags = true
  rw [htags]
  decide +kernel

end Compiler

end MapQuery
