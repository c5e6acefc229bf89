import MapQuery.Proofs.Text.Marks
import MapQuery.Proofs.Text.Parts

/-!
# Composed form is a normal form

What is composed comes apart again into what it was composed of, so that composing it again gives the same. A
starter that is composed with nothing stays by itself at either end of a text.

* `apart` — a text taken apart, with its marks in order.
* `decompose_of_composePair?` — what two characters compose comes apart into them.
* `apart_composeAll` — composing a text that has been taken apart can be undone.
* `Closed` — a property that is kept when characters are taken apart and composed.
* `toNat_composed`, `composed_composed` — the composed form as code points, and that it is its own composed form.
* `composed_of_ascii` — in a text of ASCII characters nothing is composed.
* `composed_cons`, `composed_concat` — a starter that composes with nothing, in front of a text and behind it.
-/

namespace MapQuery.Text

variable {n m a b starter : Nat} {marks ns : List Nat} {last : Option Nat} {c : Char} {cs : List Char}

/-- A text taken apart, with its marks in order. -/
def apart (ns : List Nat) : List Nat :=
  orderMarks (ns.flatMap decompose)

/-! ### Two characters -/

/-- The parts of a syllable, one after the other. -/
theorem decompose_of_isSyllable (h : IsSyllable n) :
    decompose n =
      let head := [0x1100 + (n - 0xac00) / 588, 0x1161 + (n - 0xac00) % 588 / 28]
      if (n - 0xac00) % 28 = 0 then head else head ++ [0x11a7 + (n - 0xac00) % 28] := by
  have hrange : (decide (0xac00 ≤ n) && decide (n ≤ 0xd7a3)) = true := by
    rw [Bool.and_eq_true, decide_eq_true_iff, decide_eq_true_iff]
    exact h
  have hparts : hangulParts? n = some (
      let head := [0x1100 + (n - 0xac00) / 588, 0x1161 + (n - 0xac00) % 588 / 28]
      if (n - 0xac00) % 28 = 0 then head else head ++ [0x11a7 + (n - 0xac00) % 28]) := if_pos hrange
  have hnot : ¬ n < 0xc0 := by
    have := h.1
    omega
  rw [decompose, decomposeTo, if_neg hnot, hparts]

/-- What two parts of a syllable compose is a syllable that comes apart into them. -/
theorem decompose_of_hangulPair? (h : hangulPair? a b = some n) :
    IsSyllable n ∧ decompose n = decompose a ++ [b] := by
  have htables := loose_replacements
  simp only [Bool.and_eq_true, List.all_eq_true] at htables
  obtain ⟨⟨hjamo, -⟩, -⟩ := htables
  unfold hangulPair? at h
  split at h
  · next hpair =>
    -- A leading consonant and a vowel.
    simp only [Bool.and_eq_true, decide_eq_true_iff] at hpair
    obtain ⟨⟨⟨ha, ha'⟩, hb⟩, hb'⟩ := hpair
    have hn : n = 0xac00 + ((a - 0x1100) * 21 + (b - 0x1161)) * 28 := (Option.some.inj h).symm
    have hsyllable : IsSyllable n := ⟨by omega, by omega⟩
    have hconsonant : 0x1100 + (n - 0xac00) / 588 = a := by omega
    have hvowel : 0x1161 + (n - 0xac00) % 588 / 28 = b := by omega
    have hopen : (n - 0xac00) % 28 = 0 := by omega
    have hloose : decompose a = [a] :=
      decompose_of_isLoose (hjamo a (List.mem_range'_1.mpr (by omega)))
    refine ⟨hsyllable, ?_⟩
    rw [decompose_of_isSyllable hsyllable, hloose, if_pos hopen, hconsonant, hvowel]
    rfl
  · split at h
    · next hpair =>
      -- A syllable without a trailing consonant and such a consonant.
      simp only [Bool.and_eq_true, decide_eq_true_iff, beq_iff_eq] at hpair
      obtain ⟨⟨⟨⟨ha, ha'⟩, hopen⟩, hb⟩, hb'⟩ := hpair
      have hn : n = a + (b - 0x11a7) := (Option.some.inj h).symm
      have hsyllable : IsSyllable n := ⟨by omega, by omega⟩
      have hconsonant : (n - 0xac00) / 588 = (a - 0xac00) / 588 := by omega
      have hvowel : (n - 0xac00) % 588 / 28 = (a - 0xac00) % 588 / 28 := by omega
      have hclosed : ¬ (n - 0xac00) % 28 = 0 := by omega
      have htrailing : 0x11a7 + (n - 0xac00) % 28 = b := by omega
      refine ⟨hsyllable, ?_⟩
      rw [decompose_of_isSyllable hsyllable, decompose_of_isSyllable ⟨ha, ha'⟩, if_neg hclosed, if_pos hopen,
        hconsonant, hvowel, htrailing]
    · cases h

/-- Two characters compose a syllable, or there is a row for them. -/
theorem composePair?_cases (h : composePair? a b = some n) :
    hangulPair? a b = some n ∨ (a, b, n) ∈ compositions := by
  unfold composePair? at h
  split at h
  · cases h
  · split at h
    · next m hpair =>
      cases h
      exact .inl hpair
    · obtain ⟨r, hfind, rfl⟩ := Option.map_eq_some_iff.mp h
      have hfound := List.find?_some hfind
      rw [Bool.and_eq_true, beq_iff_eq, beq_iff_eq] at hfound
      obtain ⟨rfl, rfl⟩ := hfound
      exact .inr (List.mem_of_find?_eq_some hfind)

/-- What two characters compose comes apart into the parts of the first one and the second one. -/
theorem decompose_of_composePair? (h : composePair? a b = some n) : decompose n = decompose a ++ [b] := by
  rcases composePair?_cases h with hpair | hrow
  · exact (decompose_of_hangulPair? hpair).2
  · exact decompose_of_mem hrow

/-! ### What follows a starter -/

/-- The next character is composed with the starter, or it is a starter itself, or one more mark, whatever comes
after it. -/
theorem composeFrom_cons_cases (starter : Nat) (marks : List Nat) (last : Option Nat) (n : Nat) :
    (∃ m, composePair? starter n = some m ∧ last.all (· < combiningClass n) = true ∧
        ∀ ns, composeFrom starter marks last (n :: ns) = composeFrom m marks last ns) ∨
      (IsStarter n ∧ ∀ ns,
        composeFrom starter marks last (n :: ns) = starter :: (marks.reverse ++ composeFrom n [] none ns)) ∨
      (¬ IsStarter n ∧ ∀ ns,
        composeFrom starter marks last (n :: ns) =
          composeFrom starter (n :: marks) (some (combiningClass n)) ns) := by
  cases hjoined : if last.all (· < combiningClass n) then composePair? starter n else none with
  | some m =>
    have hstep (ns : List Nat) : composeFrom starter marks last (n :: ns) = composeFrom m marks last ns := by
      rw [composeFrom, hjoined]
    split at hjoined
    · next hfree => exact .inl ⟨m, hjoined, hfree, hstep⟩
    · cases hjoined
  | none =>
    have hstep (ns : List Nat) : composeFrom starter marks last (n :: ns) =
        if combiningClass n = 0 then starter :: marks.reverse ++ composeFrom n [] none ns
        else composeFrom starter (n :: marks) (some (combiningClass n)) ns := by
      rw [composeFrom, hjoined]
    by_cases hstarter : IsStarter n
    · exact .inr (.inl ⟨hstarter, fun ns => (hstep ns).trans (if_pos hstarter)⟩)
    · exact .inr (.inr ⟨hstarter, fun ns => (hstep ns).trans (if_neg hstarter)⟩)

/-- Where a starter, the marks after it and the class of the latest one stand for what has been read of a text that
is taken apart and in order. -/
structure Waiting (marks : List Nat) (last : Option Nat) (ns : List Nat) : Prop where
  marks_whole : ∀ m ∈ marks, decompose m = [m]
  whole : ∀ n ∈ ns, decompose n = [n]
  marks_le : ∀ m ∈ marks, combiningClass m ≠ 0 ∧ ∃ l, last = some l ∧ combiningClass m ≤ l
  ordered : Ordered ns
  follows : ∀ l, last = some l → ∀ n ∈ ns.head?, IsStarter n ∨ l ≤ combiningClass n

namespace Waiting

theorem start (hwhole : ∀ n ∈ ns, decompose n = [n]) (hordered : Ordered ns) : Waiting [] none ns :=
  ⟨nofun, hwhole, nofun, hordered, nofun⟩

/-- A starter begins anew. -/
theorem next (h : Waiting marks last (n :: ns)) : Waiting [] none ns :=
  start (List.forall_mem_cons.mp h.whole).2 h.ordered.tail

/-- A character that is composed with the starter leaves the marks as they are. -/
theorem join (h : Waiting marks last (n :: ns)) (hfree : last.all (· < combiningClass n) = true) :
    Waiting marks last ns := by
  refine ⟨h.marks_whole, (List.forall_mem_cons.mp h.whole).2, h.marks_le, h.ordered.tail, fun l hl k hk => ?_⟩
  have hless : l < combiningClass n := by
    rw [hl, Option.all_some, decide_eq_true_iff] at hfree
    exact hfree
  have hfollows : MayFollow n k := h.ordered.rel_head? hk
  rcases hfollows with hstarter | hle
  · exact .inl hstarter
  · exact .inr (by omega)

/-- One more mark is the latest one. -/
theorem keep (h : Waiting marks last (n :: ns)) (hmark : ¬ IsStarter n) :
    Waiting (n :: marks) (some (combiningClass n)) ns := by
  obtain ⟨hn, hns⟩ := List.forall_mem_cons.mp h.whole
  refine ⟨List.forall_mem_cons.mpr ⟨hn, h.marks_whole⟩, hns, ?_, h.ordered.tail, ?_⟩
  · refine List.forall_mem_cons.mpr ⟨⟨hmark, _, rfl, Nat.le_refl _⟩, fun m hm => ?_⟩
    obtain ⟨hclass, l, hl, hle⟩ := h.marks_le m hm
    rcases h.follows l hl n rfl with hstarter | hlast
    · exact absurd hstarter hmark
    · exact ⟨hclass, _, rfl, by omega⟩
  · intro l hl k hk
    have hfollows : MayFollow n k := h.ordered.rel_head? hk
    rw [← Option.some.inj hl]
    exact hfollows

/-- A character that is composed with the starter is of a higher class than all marks between them. -/
theorem marks_lt (h : Waiting marks last (n :: ns)) (hfree : last.all (· < combiningClass n) = true) :
    ∀ m ∈ marks.reverse, combiningClass m ≠ 0 ∧ combiningClass m < combiningClass n := by
  intro m hm
  obtain ⟨hclass, l, rfl, hle⟩ := h.marks_le m (List.mem_reverse.mp hm)
  rw [Option.all_some, decide_eq_true_iff] at hfree
  exact ⟨hclass, by omega⟩

theorem flatMap_marks (h : Waiting marks last ns) : marks.reverse.flatMap decompose = marks.reverse := by
  have hsingle : ∀ m ∈ marks.reverse, decompose m = [m] := fun m hm => h.marks_whole m (List.mem_reverse.mp hm)
  rw [List.flatMap_congr hsingle]
  exact List.flatMap_pure_eq_map id _ |>.trans (List.map_id _)

/-- What is composed from a starter on is taken apart into what it was composed of. -/
theorem orderMarks_composeFrom (h : Waiting marks last ns) (starter : Nat) :
    orderMarks ((composeFrom starter marks last ns).flatMap decompose) =
      orderMarks (decompose starter ++ (marks.reverse ++ ns)) := by
  induction ns generalizing starter marks last with
  | nil =>
    show orderMarks ((starter :: marks.reverse).flatMap decompose) = _
    rw [List.flatMap_cons, h.flatMap_marks, List.append_nil]
  | cons n ns ih =>
    rcases composeFrom_cons_cases starter marks last n with ⟨m, hpair, hfree, hstep⟩ | ⟨-, hstep⟩ |
      ⟨hmark, hstep⟩
    · -- The character that has been composed goes back past the marks, which are of lower classes.
      rw [hstep, ih (h.join hfree) m, decompose_of_composePair? hpair, List.append_assoc, List.singleton_append]
      exact orderMarks_append_congr _ (orderMarks_move (h.marks_lt hfree) ns)
    · have hn : decompose n = [n] := h.whole n List.mem_cons_self
      have hrest := ih h.next n
      rw [hn, List.reverse_nil, List.nil_append, List.singleton_append] at hrest
      rw [hstep, List.flatMap_cons, List.flatMap_append, h.flatMap_marks]
      exact orderMarks_append_congr _ (orderMarks_append_congr _ hrest)
    · rw [hstep, ih (h.keep hmark) starter, List.reverse_cons, List.append_assoc, List.singleton_append]

end Waiting

/-! ### Whole texts -/

theorem composeAll_cons_of_isStarter (h : IsStarter n) (ns : List Nat) :
    composeAll (n :: ns) = composeFrom n [] none ns :=
  if_pos h

theorem composeAll_cons_of_not (h : ¬ IsStarter n) (ns : List Nat) :
    composeAll (n :: ns) = n :: composeAll ns :=
  if_neg h

theorem orderMarks_composeAll (hwhole : ∀ n ∈ ns, decompose n = [n]) (hordered : Ordered ns) :
    orderMarks ((composeAll ns).flatMap decompose) = orderMarks ns := by
  induction ns with
  | nil => rfl
  | cons n ns ih =>
    obtain ⟨hn, hns⟩ := List.forall_mem_cons.mp hwhole
    by_cases hstarter : IsStarter n
    · rw [composeAll_cons_of_isStarter hstarter, (Waiting.start hns hordered.tail).orderMarks_composeFrom, hn]
      rfl
    · rw [composeAll_cons_of_not hstarter, List.flatMap_cons, hn, List.singleton_append, orderMarks_cons,
        ih hns hordered.tail, orderMarks_cons]

/-- Composing a text that has been taken apart can be undone. -/
theorem apart_composeAll (ns : List Nat) : apart (composeAll (apart ns)) = apart ns := by
  have hwhole : ∀ p ∈ apart ns, decompose p = [p] := by
    intro p hp
    obtain ⟨n, -, hpart⟩ := List.mem_flatMap.mp ((perm_orderMarks _).mem_iff.mp hp)
    exact decompose_of_mem_decompose hpart
  have hordered : Ordered (apart ns) := ordered_orderMarks _
  show orderMarks _ = _
  rw [orderMarks_composeAll hwhole hordered, orderMarks_of_ordered hordered]

/-! ### Properties of composed texts -/

/-- A property that is kept when characters are taken apart and composed. -/
structure Closed (q : Nat → Prop) : Prop extends ClosedUnderParts q where
  composite : ∀ a b n, (a, b, n) ∈ compositions → q a → q b → q n
  wholeSyllable : ∀ n, IsSyllable n → q n

namespace Closed

variable {q : Nat → Prop}

theorem composePair? (h : Closed q) (ha : q a) (hb : q b) (hpair : composePair? a b = some n) : q n := by
  rcases composePair?_cases hpair with hsyllable | hrow
  · exact h.wholeSyllable n (decompose_of_hangulPair? hsyllable).1
  · exact h.composite a b n hrow ha hb

theorem composeFrom (h : Closed q) (hstarter : q starter) (hmarks : ∀ m ∈ marks, q m) (hns : ∀ n ∈ ns, q n) :
    ∀ n ∈ composeFrom starter marks last ns, q n := by
  induction ns generalizing starter marks last with
  | nil =>
    exact List.forall_mem_cons.mpr ⟨hstarter, fun m hm => hmarks m (List.mem_reverse.mp hm)⟩
  | cons n ns ih =>
    obtain ⟨hn, hns⟩ := List.forall_mem_cons.mp hns
    rcases composeFrom_cons_cases starter marks last n with ⟨m, hpair, -, hstep⟩ | ⟨-, hstep⟩ | ⟨-, hstep⟩
    · rw [hstep]
      exact ih (h.composePair? hstarter hn hpair) hmarks hns
    · rw [hstep]
      intro k hk
      rcases List.mem_cons.mp hk with rfl | hk
      · exact hstarter
      · rcases List.mem_append.mp hk with hk | hk
        · exact hmarks k (List.mem_reverse.mp hk)
        · exact ih hn (List.forall_mem_nil q) hns k hk
    · rw [hstep]
      exact ih hstarter (List.forall_mem_cons.mpr ⟨hn, hmarks⟩) hns

theorem composeAll (h : Closed q) (hns : ∀ n ∈ ns, q n) : ∀ n ∈ composeAll ns, q n := by
  induction ns with
  | nil => exact nofun
  | cons n ns ih =>
    obtain ⟨hn, hns⟩ := List.forall_mem_cons.mp hns
    by_cases hstarter : IsStarter n
    · rw [composeAll_cons_of_isStarter hstarter]
      exact h.composeFrom hn nofun hns
    · rw [composeAll_cons_of_not hstarter]
      exact List.forall_mem_cons.mpr ⟨hn, ih hns⟩

theorem apart (h : Closed q) (hns : ∀ n ∈ ns, q n) : ∀ n ∈ apart ns, q n := by
  intro p hp
  obtain ⟨n, hn, hpart⟩ := List.mem_flatMap.mp ((perm_orderMarks _).mem_iff.mp hp)
  exact h.decompose (hns n hn) hpart

end Closed

/-! ### Characters -/

/-- The tables have code points of characters only. -/
theorem scalars_of_tables :
    (compositions.all (fun r =>
        decide (r.1.isValidChar) && decide (r.2.1.isValidChar) && decide (r.2.2.isValidChar)) &&
      expansions.all (fun r => r.2.all fun p => decide p.isValidChar) &&
      replacements.all fun r => r.2.all fun p => decide p.isValidChar) = true := by
  decide +kernel

/-- The code points of characters are taken apart into such and composed to such. -/
theorem closed_isValidChar : Closed Nat.isValidChar := by
  have htables := scalars_of_tables
  simp only [Bool.and_eq_true, List.all_eq_true, decide_eq_true_iff] at htables
  obtain ⟨⟨hrows, hexpansions⟩, hreplacements⟩ := htables
  refine ⟨⟨fun p _ hp => ?_, fun a b n hrow _ => (hrows _ hrow).1, fun r hr _ => hexpansions r hr,
    fun r hr i hi _ => hreplacements r hr _ (List.getElem_mem hi)⟩, fun a b n hrow _ _ => (hrows _ hrow).2,
    fun n hn => ?_⟩
  · exact .inl (by omega)
  · have := hn.2
    exact .inl (by omega)

theorem toNat_ofNat (h : n.isValidChar) : (Char.ofNat n).toNat = n := by
  rw [Char.ofNat, dif_pos h]
  rfl

theorem composed_eq (cs : List Char) :
    composed cs = (composeAll (apart (cs.map Char.toNat))).map Char.ofNat := by
  have hparts : (cs.map Char.toNat).flatMap decompose = cs.flatMap fun c => decompose c.toNat :=
    List.flatMap_map Char.toNat decompose cs
  unfold composed apart
  rw [hparts]

/-- The code points of a composed text. -/
theorem toNat_composed (cs : List Char) :
    (composed cs).map Char.toNat = composeAll (apart (cs.map Char.toNat)) := by
  have hvalid : ∀ n ∈ composeAll (apart (cs.map Char.toNat)), n.isValidChar := by
    refine closed_isValidChar.composeAll (closed_isValidChar.apart fun n hn => ?_)
    obtain ⟨c, -, rfl⟩ := List.mem_map.mp hn
    exact c.valid
  have hback : ∀ n ∈ composeAll (apart (cs.map Char.toNat)), (Char.ofNat n).toNat = id n := by
    intro n hn
    rw [toNat_ofNat (hvalid n hn), id]
  rw [composed_eq, List.map_map, Function.comp_def, List.map_congr_left hback, List.map_id]

/-- The composed form of a text is its own composed form. -/
theorem composed_composed (cs : List Char) : composed (composed cs) = composed cs := by
  rw [composed_eq (composed cs), toNat_composed, apart_composeAll, ← composed_eq]

/-! ### Characters that are composed with nothing -/

theorem composeFrom_of_lt (hns : ∀ n ∈ ns, n < 0x300) (starter : Nat) :
    composeFrom starter [] none ns = starter :: ns := by
  induction ns generalizing starter with
  | nil => rfl
  | cons n ns ih =>
    obtain ⟨hn, hns⟩ := List.forall_mem_cons.mp hns
    rcases composeFrom_cons_cases starter [] none n with ⟨m, hpair, -, -⟩ | ⟨-, hstep⟩ | ⟨hmark, -⟩
    · have hnone : composePair? starter n = none := if_pos hn
      cases hnone.symm.trans hpair
    · rw [hstep, ih hns]
      rfl
    · exact absurd (isStarter_of_lt hn) hmark

/-- A text of ASCII characters is its own composed form. -/
theorem composed_of_ascii {cs : List Char} (h : ∀ c ∈ cs, c.toNat < 0x80) : composed cs = cs := by
  have hlow : ∀ n ∈ cs.map Char.toNat, n < 0x80 := by
    intro n hn
    obtain ⟨c, hc, rfl⟩ := List.mem_map.mp hn
    exact h c hc
  have hapart : ∀ {ns : List Nat}, (∀ n ∈ ns, n < 0x80) → apart ns = ns := by
    intro ns hns
    induction ns with
    | nil => rfl
    | cons n ns ih =>
      obtain ⟨hn, hns⟩ := List.forall_mem_cons.mp hns
      have hwhole : decompose n = [n] := if_pos (by omega)
      have hrest : orderMarks (ns.flatMap decompose) = ns := ih hns
      show orderMarks _ = _
      rw [List.flatMap_cons, hwhole, List.singleton_append, orderMarks_cons, hrest,
        placeMark_of_isStarter (isStarter_of_lt (by omega))]
  have hcomposed : composeAll (cs.map Char.toNat) = cs.map Char.toNat := by
    cases cs with
    | nil => rfl
    | cons c cs =>
      obtain ⟨hc, hcs⟩ := List.forall_mem_cons.mp hlow
      rw [List.map_cons, composeAll_cons_of_isStarter (isStarter_of_lt (by omega)),
        composeFrom_of_lt fun n hn => (hcs n hn).trans (by decide)]
  rw [composed_eq, hapart hlow, hcomposed, List.map_map]
  conv_rhs => rw [← List.map_id cs]
  exact List.map_congr_left fun c _ => Char.ofNat_toNat c

/-! ### Starters that stand alone -/

/-- A starter that is loose and is composed with nothing, be it the first or the second character. -/
structure StandsAlone (c : Char) : Prop where
  starter : IsStarter c.toNat
  loose : decompose c.toNat = [c.toNat]
  first : ∀ n, composePair? c.toNat n = none
  second : ∀ n, composePair? n c.toNat = none

namespace StandsAlone

theorem composeFrom_eq (h : StandsAlone c) (marks : List Nat) (last : Option Nat) (ns : List Nat) :
    composeFrom c.toNat marks last ns = c.toNat :: (marks.reverse ++ composeAll ns) := by
  induction ns generalizing marks last with
  | nil =>
    show c.toNat :: marks.reverse = _
    rw [composeAll, List.append_nil]
  | cons n ns ih =>
    rcases composeFrom_cons_cases c.toNat marks last n with ⟨m, hpair, -, -⟩ | ⟨hstarter, hstep⟩ |
      ⟨hmark, hstep⟩
    · rw [h.first] at hpair
      cases hpair
    · rw [hstep, composeAll_cons_of_isStarter hstarter]
    · rw [hstep, ih, composeAll_cons_of_not hmark, List.reverse_cons, List.append_assoc, List.singleton_append]

theorem composeFrom_concat (h : StandsAlone c) (starter : Nat) (marks : List Nat) (last : Option Nat)
    (ns : List Nat) :
    composeFrom starter marks last (ns ++ [c.toNat]) = composeFrom starter marks last ns ++ [c.toNat] := by
  induction ns generalizing starter marks last with
  | nil =>
    rcases composeFrom_cons_cases starter marks last c.toNat with ⟨m, hpair, -, -⟩ | ⟨-, hstep⟩ |
      ⟨hmark, -⟩
    · rw [h.second] at hpair
      cases hpair
    · exact hstep []
    · exact absurd h.starter hmark
  | cons n ns ih =>
    rw [List.cons_append]
    rcases composeFrom_cons_cases starter marks last n with ⟨m, -, -, hstep⟩ | ⟨-, hstep⟩ | ⟨-, hstep⟩
    · rw [hstep, hstep, ih]
    · rw [hstep, hstep, ih, List.cons_append, List.append_assoc]
    · rw [hstep, hstep, ih]

theorem composeAll_concat (h : StandsAlone c) (ns : List Nat) :
    composeAll (ns ++ [c.toNat]) = composeAll ns ++ [c.toNat] := by
  induction ns with
  | nil => exact composeAll_cons_of_isStarter h.starter []
  | cons n ns ih =>
    rw [List.cons_append]
    by_cases hstarter : IsStarter n
    · rw [composeAll_cons_of_isStarter hstarter, composeAll_cons_of_isStarter hstarter, h.composeFrom_concat]
    · rw [composeAll_cons_of_not hstarter, composeAll_cons_of_not hstarter, ih, List.cons_append]

theorem apart_cons (h : StandsAlone c) (ns : List Nat) : apart (c.toNat :: ns) = c.toNat :: apart ns := by
  show orderMarks _ = _
  rw [List.flatMap_cons, h.loose, List.singleton_append, orderMarks_cons]
  exact placeMark_of_isStarter h.starter _

theorem apart_concat (h : StandsAlone c) (ns : List Nat) : apart (ns ++ [c.toNat]) = apart ns ++ [c.toNat] := by
  show orderMarks _ = orderMarks _ ++ _
  rw [List.flatMap_append, List.flatMap_singleton, h.loose]
  exact orderMarks_concat h.starter _

/-- In front of a text it changes nothing. -/
theorem composed_cons (h : StandsAlone c) (cs : List Char) : composed (c :: cs) = c :: composed cs := by
  rw [composed_eq, List.map_cons, h.apart_cons, composeAll_cons_of_isStarter h.starter, h.composeFrom_eq,
    List.reverse_nil, List.nil_append, List.map_cons, Char.ofNat_toNat, ← composed_eq]

/-- Behind a text it changes nothing. -/
theorem composed_concat (h : StandsAlone c) (cs : List Char) : composed (cs ++ [c]) = composed cs ++ [c] := by
  rw [composed_eq, List.map_append, List.map_singleton, h.apart_concat, h.composeAll_concat, List.map_append,
    List.map_singleton, Char.ofNat_toNat, ← composed_eq]

end StandsAlone

end MapQuery.Text
