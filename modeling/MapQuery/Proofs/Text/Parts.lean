import Mathlib.Data.List.Chain
import Mathlib.Data.List.Nodup
import MapQuery.Text.Composed

/-!
# The parts of characters

A character is taken apart in at most three steps, and its parts are not taken apart any further. What the tables
have to say about this is checked once, with the sets of code points as numbers whose bits are the members.

* `bits` — a set of code points as a number; `isLoose` — a code point that is not taken apart.
* `ComesApart` — a code point is a row of the table for each step, and then loose.
* `decompose_of_mem` — what a row composes comes apart into the parts of its first character and its second one.
* `decompose_of_mem_decompose` — parts are not taken apart.
* `ClosedUnderParts` — a property that parts inherit, `ClosedUnderParts.decompose`.
-/

namespace MapQuery.Text

variable {n a b p : Nat}

/-! ### Sets of code points -/

/-- The number whose bits are the code points of a list. -/
def bits (ns : List Nat) : Nat :=
  ns.foldr (fun n set => 1 <<< n ||| set) 0

theorem testBit_bits (ns : List Nat) (n : Nat) : (bits ns).testBit n = true ↔ n ∈ ns := by
  induction ns with
  | nil =>
    have hzero : (bits []).testBit n = false := Nat.zero_testBit n
    rw [hzero]
    exact ⟨nofun, nofun⟩
  | cons m ms ih =>
    have hone : (1 <<< m).testBit n = true ↔ n = m := by
      rw [Nat.shiftLeft_eq, Nat.one_mul, Nat.testBit_two_pow, decide_eq_true_iff, eq_comm]
    show (1 <<< m ||| bits ms).testBit n = true ↔ _
    rw [Nat.testBit_or, Bool.or_eq_true, hone, ih, List.mem_cons]

/-- The characters that two others compose to. -/
def composites : List Nat :=
  compositions.map fun r => r.2.2

/-- The characters that something else always stands for. -/
def replaced : List Nat :=
  expansions.map Prod.fst ++ replacements.flatMap fun r => List.range' r.1 r.2.length

/-- The characters that are taken apart, Hangul syllables aside. -/
def takenApart : Nat :=
  bits (composites ++ replaced)

/-- A Hangul syllable. -/
def IsSyllable (n : Nat) : Prop :=
  0xac00 ≤ n ∧ n ≤ 0xd7a3

instance : DecidablePred IsSyllable :=
  fun n => inferInstanceAs (Decidable (0xac00 ≤ n ∧ n ≤ 0xd7a3))

/-- A character that is not taken apart. -/
def isLoose (n : Nat) : Bool :=
  !takenApart.testBit n && !decide (IsSyllable n)

/-! ### Loose characters -/

theorem hangulParts?_eq_none (h : ¬ IsSyllable n) : hangulParts? n = none := by
  have hrange : (decide (0xac00 ≤ n) && decide (n ≤ 0xd7a3)) = false := by
    rw [← Bool.decide_and]
    exact decide_eq_false h
  unfold hangulParts?
  rw [hrange]
  rfl

theorem find?_composition_eq_none (h : n ∉ composites) :
    compositions.find? (fun r => r.2.2 == n) = none := by
  refine List.find?_eq_none.mpr fun r hr heq => h ?_
  exact List.mem_map.mpr ⟨r, hr, beq_iff_eq.mp heq⟩

theorem replacement?_eq_none (h : n ∉ replaced) : replacement? n = none := by
  unfold replaced at h
  rw [List.mem_append, not_or] at h
  have hexpansion : expansions.find? (fun r => r.1 == n) = none := by
    refine List.find?_eq_none.mpr fun r hr heq => h.1 ?_
    exact List.mem_map.mpr ⟨r, hr, beq_iff_eq.mp heq⟩
  have hrun : replacements.find? (fun r => r.1 ≤ n && n < r.1 + r.2.length) = none := by
    refine List.find?_eq_none.mpr fun r hr hin => h.2 ?_
    rw [Bool.and_eq_true, decide_eq_true_iff, decide_eq_true_iff] at hin
    exact List.mem_flatMap.mpr ⟨r, hr, List.mem_range'_1.mpr hin⟩
  unfold replacement?
  rw [hexpansion, hrun]
  rfl

theorem not_mem_of_isLoose (h : isLoose n = true) : n ∉ composites ∧ n ∉ replaced ∧ ¬ IsSyllable n := by
  unfold isLoose at h
  rw [Bool.and_eq_true, Bool.not_eq_true', Bool.not_eq_true', decide_eq_false_iff_not] at h
  have hmem : n ∉ composites ++ replaced := by
    rw [← testBit_bits]
    exact Bool.eq_false_iff.mp h.1
  rw [List.mem_append, not_or] at hmem
  exact ⟨hmem.1, hmem.2, h.2⟩

/-- A loose character is its only part, however often it is taken apart. -/
theorem decomposeTo_of_isLoose (h : isLoose n = true) (depth : Nat) : decomposeTo depth n = [n] := by
  obtain ⟨hcomposite, hreplaced, hsyllable⟩ := not_mem_of_isLoose h
  cases depth with
  | zero => rfl
  | succ depth =>
    rw [decomposeTo, hangulParts?_eq_none hsyllable, find?_composition_eq_none hcomposite,
      replacement?_eq_none hreplaced]
    exact ite_self _

/-! ### Rows of the table -/

/-- The characters that are composed of a character of a set and another one. -/
def composedOf (isFirst : Nat → Bool) : Nat :=
  bits ((compositions.filter fun r => isFirst r.1).map fun r => r.2.2)

theorem testBit_composedOf {isFirst : Nat → Bool} (h : (composedOf isFirst).testBit n = true) :
    ∃ a b, (a, b, n) ∈ compositions ∧ isFirst a = true := by
  obtain ⟨⟨a, b, m⟩, hmem, rfl⟩ := List.mem_map.mp ((testBit_bits _ n).mp h)
  obtain ⟨hrow, hfirst⟩ := List.mem_filter.mp hmem
  exact ⟨a, b, hrow, hfirst⟩

/-- A character comes apart in a number of steps. -/
inductive ComesApart : (steps : Nat) → Nat → Prop
  | loose {n : Nat} (steps : Nat) (h : isLoose n = true) : ComesApart steps n
  | row {steps a b m : Nat} (h : (a, b, m) ∈ compositions) (first : ComesApart steps a) :
    ComesApart (steps + 1) m

/-- The composites are in order. -/
theorem pairwise_composites : composites.Pairwise (· < ·) := by
  have hchain : composites.IsChain (· < ·) := by decide +kernel
  exact hchain.pairwise

/-- The second character of a row is loose, and its first one comes apart in two steps. The composite is neither
one of ASCII or Latin-1's signs nor a Hangul syllable. -/
theorem rows_of_compositions :
    (compositions.all fun r =>
      isLoose r.2.1 && decide (0xc0 ≤ r.2.2) && !decide (IsSyllable r.2.2) &&
        (isLoose r.1 || (composedOf isLoose).testBit r.1 ||
          (composedOf (composedOf isLoose).testBit).testBit r.1)) = true := by
  decide +kernel

theorem row_of_mem (h : (a, b, n) ∈ compositions) :
    isLoose b = true ∧ 0xc0 ≤ n ∧ ¬ IsSyllable n ∧ ComesApart 2 a := by
  have hrow := List.all_eq_true.mp rows_of_compositions _ h
  simp only [Bool.and_eq_true, Bool.or_eq_true, Bool.not_eq_true', decide_eq_true_iff,
    decide_eq_false_iff_not] at hrow
  obtain ⟨⟨⟨hb, hn⟩, hsyllable⟩, ha⟩ := hrow
  refine ⟨hb, hn, hsyllable, ?_⟩
  rcases ha with (hloose | hfirst) | hsecond
  · exact .loose 2 hloose
  · obtain ⟨a', b', hrow', hloose⟩ := testBit_composedOf hfirst
    exact .row hrow' (.loose 1 hloose)
  · obtain ⟨a', b', hrow', hfirst⟩ := testBit_composedOf hsecond
    obtain ⟨a'', b'', hrow'', hloose⟩ := testBit_composedOf hfirst
    exact .row hrow' (.row hrow'' (.loose 0 hloose))

/-- No two rows compose one character, so that its row is found. -/
theorem find?_composition_eq_some (h : (a, b, n) ∈ compositions) :
    compositions.find? (fun r => r.2.2 == n) = some (a, b, n) := by
  cases hfind : compositions.find? (fun r => r.2.2 == n) with
  | none =>
    have hne := List.find?_eq_none.mp hfind _ h
    exact absurd (beq_self_eq_true n) hne
  | some r =>
    have hmem : r ∈ compositions := List.mem_of_find?_eq_some hfind
    have hfound := List.find?_some hfind
    have hcomposite : r.2.2 = n := beq_iff_eq.mp hfound
    have hnodup : composites.Nodup := pairwise_composites.imp Nat.ne_of_lt
    have hsame : r = (a, b, n) := List.inj_on_of_nodup_map hnodup hmem h hcomposite
    rw [hsame]

/-- What a row composes is taken apart into what its first character is, and its second one. -/
theorem decomposeTo_of_mem (h : (a, b, n) ∈ compositions) (depth : Nat) :
    decomposeTo (depth + 1) n = decomposeTo depth a ++ [b] := by
  obtain ⟨-, hn, hsyllable, -⟩ := row_of_mem h
  have hnot : ¬ n < 0xc0 := by omega
  rw [decomposeTo, if_neg hnot, hangulParts?_eq_none hsyllable, find?_composition_eq_some h]

namespace ComesApart

variable {steps : Nat}

/-- More steps than are needed change nothing. -/
theorem decomposeTo_eq (h : ComesApart steps n) {depth : Nat} (hdepth : steps ≤ depth) :
    decomposeTo depth n = decomposeTo steps n := by
  induction h generalizing depth with
  | loose steps hloose => rw [decomposeTo_of_isLoose hloose, decomposeTo_of_isLoose hloose]
  | row hrow _ ih =>
    obtain ⟨depth, rfl⟩ : ∃ k, depth = k + 1 := ⟨depth - 1, by omega⟩
    rw [decomposeTo_of_mem hrow, decomposeTo_of_mem hrow, ih (by omega)]

theorem isLoose_of_mem (h : ComesApart steps n) (hp : p ∈ decomposeTo steps n) : isLoose p = true := by
  induction h with
  | loose steps hloose =>
    rw [decomposeTo_of_isLoose hloose, List.mem_singleton] at hp
    rwa [hp]
  | row hrow _ ih =>
    rw [decomposeTo_of_mem hrow, List.mem_append, List.mem_singleton] at hp
    rcases hp with hp | rfl
    · exact ih hp
    · exact (row_of_mem hrow).1

end ComesApart

/-! ### Parts -/

theorem decompose_of_isLoose (h : isLoose n = true) : decompose n = [n] :=
  decomposeTo_of_isLoose h 4

/-- What a row composes comes apart into the parts of its first character and its second one. -/
theorem decompose_of_mem (h : (a, b, n) ∈ compositions) : decompose n = decompose a ++ [b] := by
  obtain ⟨-, -, -, ha⟩ := row_of_mem h
  have hfirst : decomposeTo 3 a = decompose a := by
    have hthree : 2 ≤ 3 := by omega
    have hfour : 2 ≤ 4 := by omega
    rw [decompose, ha.decomposeTo_eq hthree, ha.decomposeTo_eq hfour]
  rw [decompose, decomposeTo_of_mem h, hfirst]

/-- A character is its only part, or a syllable, or what a row composes, or something else stands for it. -/
theorem decompose_cases (n : Nat) :
    decompose n = [n] ∨
      (∃ parts, hangulParts? n = some parts ∧ decompose n = parts) ∨
      (∃ a b, (a, b, n) ∈ compositions) ∨
      ∃ parts, replacement? n = some parts ∧ decompose n = parts := by
  by_cases hsmall : n < 0xc0
  · exact .inl (if_pos hsmall)
  unfold decompose decomposeTo
  rw [if_neg hsmall]
  cases hparts : hangulParts? n with
  | some parts => exact .inr (.inl ⟨parts, rfl, rfl⟩)
  | none =>
    cases hfind : compositions.find? fun r => r.2.2 == n with
    | some r =>
      obtain ⟨a, b, m⟩ := r
      have hfound := List.find?_some hfind
      have hm : m = n := beq_iff_eq.mp hfound
      subst hm
      exact .inr (.inr (.inl ⟨a, b, List.mem_of_find?_eq_some hfind⟩))
    | none =>
      cases replacement? n with
      | some parts => exact .inr (.inr (.inr ⟨parts, rfl, rfl⟩))
      | none => exact .inl rfl

/-- The parts of a syllable are among the consonants and vowels of Hangul. -/
theorem bounds_of_mem_hangulParts? {parts : List Nat} (h : hangulParts? n = some parts) (hp : p ∈ parts) :
    0x1100 ≤ p ∧ p < 0x11c3 := by
  have hsyllable : IsSyllable n := by
    by_contra hnot
    rw [hangulParts?_eq_none hnot] at h
    cases h
  obtain ⟨hfirst, hlast⟩ := hsyllable
  have hrange : (decide (0xac00 ≤ n) && decide (n ≤ 0xd7a3)) = true := by
    rw [Bool.and_eq_true, decide_eq_true_iff, decide_eq_true_iff]
    exact ⟨hfirst, hlast⟩
  unfold hangulParts? at h
  rw [if_pos hrange] at h
  rw [← Option.some.inj h] at hp
  have hhead : ∀ q ∈ [0x1100 + (n - 0xac00) / 588, 0x1161 + (n - 0xac00) % 588 / 28],
      0x1100 ≤ q ∧ q < 0x11c3 := by
    intro q hq
    rcases List.mem_cons.mp hq with rfl | hq
    · omega
    · rw [List.mem_singleton] at hq
      omega
  split at hp
  · exact hhead p hp
  · rcases List.mem_append.mp hp with hp | hp
    · exact hhead p hp
    · rw [List.mem_singleton] at hp
      omega

/-- What stands for a character is an expansion, or its place in a run. -/
theorem replacement?_eq_some {parts : List Nat} (h : replacement? n = some parts) :
    (n, parts) ∈ expansions ∨
      ∃ r ∈ replacements, ∃ i, ∃ hi : i < r.2.length, n = r.1 + i ∧ parts = [r.2[i]] := by
  unfold replacement? at h
  split at h
  · next r hfind =>
    cases h
    have hfound := List.find?_some hfind
    have hn : r.1 = n := beq_iff_eq.mp hfound
    subst hn
    exact .inl (List.mem_of_find?_eq_some hfind)
  · obtain ⟨r, hfind, hget⟩ := Option.bind_eq_some_iff.mp h
    obtain ⟨m, hm, rfl⟩ := Option.map_eq_some_iff.mp hget
    obtain ⟨hi, rfl⟩ := List.getElem?_eq_some_iff.mp hm
    have hin := List.find?_some hfind
    rw [Bool.and_eq_true, decide_eq_true_iff, decide_eq_true_iff] at hin
    exact .inr ⟨r, List.mem_of_find?_eq_some hfind, n - r.1, hi, by omega, rfl⟩

/-! ### Properties of parts -/

/-- The parts of Hangul syllables, and what stands for other characters, are loose. -/
theorem loose_replacements :
    ((List.range' 0x1100 0xc3).all isLoose && expansions.all (fun r => r.2.all isLoose) &&
      replacements.all fun r => r.2.all isLoose) = true := by
  decide +kernel

/-- Parts are not taken apart. -/
theorem decompose_of_mem_decompose (hp : p ∈ decompose n) : decompose p = [p] := by
  have htables := loose_replacements
  simp only [Bool.and_eq_true, List.all_eq_true] at htables
  obtain ⟨⟨hjamo, hexpansions⟩, hreplacements⟩ := htables
  rcases decompose_cases n with hself | ⟨parts, hparts, hdecompose⟩ | ⟨a, b, hrow⟩ |
    ⟨parts, hparts, hdecompose⟩
  · rw [hself, List.mem_singleton] at hp
    rwa [hp]
  · rw [hdecompose] at hp
    have hbounds := bounds_of_mem_hangulParts? hparts hp
    exact decompose_of_isLoose (hjamo p (List.mem_range'_1.mpr (by omega)))
  · have happart : ComesApart 3 n := .row hrow (row_of_mem hrow).2.2.2
    rw [decompose, happart.decomposeTo_eq (by omega)] at hp
    exact decompose_of_isLoose (happart.isLoose_of_mem hp)
  · rw [hdecompose] at hp
    rcases replacement?_eq_some hparts with hmem | ⟨r, hr, i, hi, rfl, rfl⟩
    · exact decompose_of_isLoose (hexpansions _ hmem p hp)
    · rw [List.mem_singleton] at hp
      rw [hp]
      exact decompose_of_isLoose (hreplacements r hr _ (List.getElem_mem hi))

/-- A property that a character hands on to its parts. -/
structure ClosedUnderParts (q : Nat → Prop) : Prop where
  syllable : ∀ p, 0x1100 ≤ p → p < 0x11c3 → q p
  row : ∀ a b n, (a, b, n) ∈ compositions → q n → q a ∧ q b
  expansion : ∀ r ∈ expansions, q r.1 → ∀ p ∈ r.2, q p
  replacement : ∀ r ∈ replacements, ∀ i (hi : i < r.2.length), q (r.1 + i) → q r.2[i]

namespace ClosedUnderParts

variable {q : Nat → Prop}

theorem of_comesApart (h : ClosedUnderParts q) {steps : Nat} (happart : ComesApart steps n) (hn : q n)
    (hp : p ∈ decomposeTo steps n) : q p := by
  induction happart with
  | loose steps hloose =>
    rw [decomposeTo_of_isLoose hloose, List.mem_singleton] at hp
    rwa [hp]
  | row hrow _ ih =>
    obtain ⟨ha, hb⟩ := h.row _ _ _ hrow hn
    rw [decomposeTo_of_mem hrow, List.mem_append, List.mem_singleton] at hp
    rcases hp with hp | rfl
    · exact ih ha hp
    · exact hb

theorem decompose (h : ClosedUnderParts q) (hn : q n) (hp : p ∈ decompose n) : q p := by
  rcases decompose_cases n with hself | ⟨parts, hparts, hdecompose⟩ | ⟨a, b, hrow⟩ |
    ⟨parts, hparts, hdecompose⟩
  · rw [hself, List.mem_singleton] at hp
    rwa [hp]
  · rw [hdecompose] at hp
    obtain ⟨hfirst, hlast⟩ := bounds_of_mem_hangulParts? hparts hp
    exact h.syllable p hfirst hlast
  · have happart : ComesApart 3 n := .row hrow (row_of_mem hrow).2.2.2
    rw [Text.decompose, happart.decomposeTo_eq (by omega)] at hp
    exact h.of_comesApart happart hn hp
  · rw [hdecompose] at hp
    rcases replacement?_eq_some hparts with hmem | ⟨r, hr, i, hi, rfl, rfl⟩
    · exact h.expansion _ hmem hn p hp
    · rw [List.mem_singleton] at hp
      rw [hp]
      exact h.replacement r hr i hi hn

end ClosedUnderParts

end MapQuery.Text
