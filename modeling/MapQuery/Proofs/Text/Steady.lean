import MapQuery.Proofs.Text.Composition
import MapQuery.Proofs.Text.Sigma

/-!
# Composing a text in lower case

A character that is steady is its own form in lower case. The characters of a text in lower case are steady, and
what steady characters are taken apart into or composed to is steady too. So a text in lower case that is composed
is still in lower case, though it may be another text.

* `capitals` — the characters that are not steady; `IsSteady`.
* `isSteady_of_mem_lowerChar` — the form of a character is steady.
* `isSteady_of_mem_lowercase`, `lowercase_of_isSteady` — texts in lower case and texts of steady characters.
* `closed_isSteady` — steadiness is kept when characters are taken apart and composed.
* `lowercase_composed_lowercase` — what is composed of a text in lower case.
-/

namespace MapQuery.Text

variable {c d : Char} {cs : List Char} {n m : Nat} {s : Shift}

/-! ### Runs of characters -/

/-- A character with an image is one of the run. -/
theorem Shift.mem_members_of_image? (h : s.image? n = some m) :
    n ∈ s.members ∧ m = ((n : Int) + s.distance).toNat := by
  unfold image? at h
  split at h
  · next hrun =>
    rw [Bool.and_eq_true, Bool.and_eq_true, decide_eq_true_iff, decide_eq_true_iff, beq_iff_eq] at hrun
    obtain ⟨⟨hfirst, hlast⟩, hstep⟩ := hrun
    refine ⟨List.mem_map.mpr ⟨(n - s.first) / s.step, ?_, ?_⟩, (Option.some.inj h).symm⟩
    · have hle : (n - s.first) / s.step ≤ (s.last - s.first) / s.step := Nat.div_le_div_right (by omega)
      exact List.mem_range.mpr (by omega)
    · have hexact : (n - s.first) / s.step * s.step = n - s.first :=
        Nat.div_mul_cancel (Nat.dvd_of_mod_eq_zero hstep)
      omega
  · cases h

/-- A character of a run has an image. -/
theorem Shift.isSome_image?_of_mem (hrun : s.first ≤ s.last) (h : n ∈ s.members) : (s.image? n).isSome = true := by
  obtain ⟨k, hk, rfl⟩ := List.mem_map.mp h
  have hk : k ≤ (s.last - s.first) / s.step := by
    have := List.mem_range.mp hk
    omega
  have hle : k * s.step ≤ s.last - s.first :=
    (Nat.mul_le_mul_right s.step hk).trans (Nat.div_mul_le_self _ _)
  have hoffset : s.first + k * s.step - s.first = k * s.step := by omega
  have hcond : (decide (s.first ≤ s.first + k * s.step) && decide (s.first + k * s.step ≤ s.last) &&
      (s.first + k * s.step - s.first) % s.step == 0) = true := by
    rw [Bool.and_eq_true, Bool.and_eq_true, decide_eq_true_iff, decide_eq_true_iff, beq_iff_eq, hoffset]
    exact ⟨⟨by omega, by omega⟩, Nat.mul_mod_left k s.step⟩
  unfold image?
  rw [if_pos hcond]
  rfl

/-! ### Steady characters -/

/-- The characters with another form in lower case. -/
def capitals : List Nat :=
  0x130 :: lowerShifts.flatMap Shift.members

/-- A code point without another form in lower case. -/
def IsSteady (n : Nat) : Prop :=
  (bits capitals).testBit n = false

instance : DecidablePred IsSteady :=
  fun n => inferInstanceAs (Decidable ((bits capitals).testBit n = false))

theorem isSteady_iff : IsSteady n ↔ n ∉ capitals := by
  rw [← testBit_bits, Bool.not_eq_true]
  rfl

/-- The tables are in order: every run has characters, and the images of these are steady characters. The capital
letters of ASCII are the first run. -/
theorem runs_of_lowerShifts :
    (lowerShifts.all (fun s => decide (s.first ≤ s.last) && s.members.all fun n =>
        !(bits capitals).testBit ((n : Int) + s.distance).toNat &&
          decide (((n : Int) + s.distance).toNat.isValidChar)) &&
      (List.range' 0x41 26).all fun n => (bits capitals).testBit n) = true := by
  decide +kernel

/-- A steady character is its own form in lower case. -/
theorem lowerChar_of_isSteady (h : IsSteady c.toNat) : lowerChar c = [c] := by
  have htables := runs_of_lowerShifts
  simp only [Bool.and_eq_true, List.all_eq_true] at htables
  obtain ⟨-, hascii⟩ := htables
  have hnot : c.toNat ∉ capitals := isSteady_iff.mp h
  unfold lowerChar
  split
  · have hupper : ¬ (c.val ≥ 'A'.val ∧ c.val ≤ 'Z'.val) := by
      rintro ⟨hfirst, hlast⟩
      have hfirst : 65 ≤ c.toNat := hfirst
      have hlast : c.toNat ≤ 90 := hlast
      refine hnot ((testBit_bits _ _).mp (hascii c.toNat (List.mem_range'_1.mpr ?_)))
      omega
    unfold Char.toLower
    rw [dif_neg hupper]
  · split
    · next hdotted => exact absurd (hdotted ▸ List.mem_cons_self) hnot
    · have hnone : lowerShifts.findSome? (fun s => s.image? c.toNat) = none := by
        refine List.findSome?_eq_none_iff.mpr fun s hs => ?_
        by_contra himage
        obtain ⟨m, hm⟩ := Option.ne_none_iff_exists'.mp himage
        have hmem : c.toNat ∈ s.members := (Shift.mem_members_of_image? hm).1
        exact hnot (List.mem_cons_of_mem _ (List.mem_flatMap.mpr ⟨s, hs, hmem⟩))
      rw [shifted, hnone, Option.getD_none, Char.ofNat_toNat]

/-- The characters of ASCII in lower case, the dotted i and both small sigmas are steady. -/
theorem isSteady_of_ascii :
    ((List.range 0x80).all fun n => decide (IsSteady (Char.ofNat n).toLower.toNat)) = true ∧
      ∀ n ∈ ['i'.toNat, 0x307, 0x3c2, 0x3c3], IsSteady n := by
  decide +kernel

/-- The form of a character is steady. -/
theorem isSteady_of_mem_lowerChar (h : d ∈ lowerChar c) : IsSteady d.toNat := by
  have htables := runs_of_lowerShifts
  simp only [Bool.and_eq_true, List.all_eq_true, decide_eq_true_iff, Bool.not_eq_true'] at htables
  obtain ⟨hruns, -⟩ := htables
  obtain ⟨hascii, hothers⟩ := isSteady_of_ascii
  unfold lowerChar at h
  split at h
  · next hsmall =>
    have hsteady := List.all_eq_true.mp hascii c.toNat (List.mem_range.mpr hsmall)
    rw [decide_eq_true_iff, Char.ofNat_toNat] at hsteady
    rw [List.mem_singleton.mp h]
    exact hsteady
  · split at h
    · simp only [List.mem_cons, List.not_mem_nil, or_false] at h
      rcases h with rfl | rfl
      · exact hothers _ List.mem_cons_self
      · exact hothers 0x307 (by decide)
    · next hsmall hdotted =>
      rw [List.mem_singleton.mp h]
      unfold shifted
      cases hfind : lowerShifts.findSome? (fun s => s.image? c.toNat) with
      | some m =>
        obtain ⟨s, hs, himage⟩ := List.exists_of_findSome?_eq_some hfind
        obtain ⟨hmem, rfl⟩ := Shift.mem_members_of_image? himage
        obtain ⟨hsteady, hvalid⟩ := (hruns s hs).2 _ hmem
        rw [Option.getD_some, toNat_ofNat hvalid]
        exact hsteady
      | none =>
        rw [Option.getD_none, Char.ofNat_toNat]
        refine isSteady_iff.mpr fun hmem => ?_
        rcases List.mem_cons.mp hmem with heq | hmem
        · exact hdotted heq
        · obtain ⟨s, hs, hmem⟩ := List.mem_flatMap.mp hmem
          have hsome := Shift.isSome_image?_of_mem (hruns s hs).1 hmem
          rw [List.findSome?_eq_none_iff.mp hfind s hs] at hsome
          cases hsome

/-! ### Texts -/

theorem isSteady_of_mem_lowercaseBetween (before cs after : List Char) :
    ∀ d ∈ lowercaseBetween before cs after, IsSteady d.toNat := by
  induction cs generalizing before with
  | nil => exact nofun
  | cons c cs ih =>
    intro d hd
    rw [lowercaseBetween, List.mem_append] at hd
    rcases hd with hform | hrest
    · unfold formBetween at hform
      split at hform
      · have hsigmas := isSteady_of_ascii.2
        rw [List.mem_singleton.mp hform]
        split
        · exact hsigmas 0x3c2 (by decide)
        · exact hsigmas 0x3c3 (by decide)
      · exact isSteady_of_mem_lowerChar hform
    · exact ih (c :: before) d hrest

/-- The characters of a text in lower case are steady. -/
theorem isSteady_of_mem_lowercase (h : d ∈ lowercase cs) : IsSteady d.toNat := by
  rw [lowercase_eq] at h
  exact isSteady_of_mem_lowercaseBetween [] cs [] d h

/-- A text of steady characters is in lower case. -/
theorem lowercase_of_isSteady (h : ∀ c ∈ cs, IsSteady c.toNat) : lowercase cs = cs := by
  have hbetween : ∀ before, lowercaseBetween before cs [] = cs := by
    induction cs with
    | nil => exact fun _ => rfl
    | cons c cs ih =>
      intro before
      obtain ⟨hc, hcs⟩ := List.forall_mem_cons.mp h
      have hsigma : c.toNat ≠ 0x3a3 := by
        intro heq
        rw [heq] at hc
        exact absurd hc (by decide +kernel)
      rw [lowercaseBetween, formBetween, if_neg hsigma, lowerChar_of_isSteady hc, ih hcs, List.singleton_append]
  rw [lowercase_eq, hbetween]

/-! ### Composing -/

/-- A row has a capital exactly if its composite is one. What else stands for a character is steady if the
character is, and Hangul is. -/
theorem capitals_of_tables :
    (compositions.all (fun r => decide (IsSteady r.2.2 ↔ IsSteady r.1 ∧ IsSteady r.2.1)) &&
      expansions.all (fun r => decide (IsSteady r.1 → ∀ p ∈ r.2, IsSteady p)) &&
      replacements.all (fun r => (r.2.zipIdx r.1).all fun p => decide (IsSteady p.2 → IsSteady p.1)) &&
      capitals.all fun n => !(decide (0x1100 ≤ n) && decide (n < 0x11c3)) && !decide (IsSyllable n)) = true := by
  decide +kernel

/-- What steady characters are taken apart into and composed to is steady. -/
theorem closed_isSteady : Closed IsSteady := by
  have htables := capitals_of_tables
  simp only [Bool.and_eq_true, List.all_eq_true, decide_eq_true_iff, Bool.not_eq_true', Bool.and_eq_false_iff,
    decide_eq_false_iff_not] at htables
  obtain ⟨⟨⟨hrows, hexpansions⟩, hreplacements⟩, hhangul⟩ := htables
  refine ⟨⟨fun p hfirst hlast => ?_, fun a b n hrow => (hrows _ hrow).mp, hexpansions, fun r hr i hi => ?_⟩,
    fun a b n hrow ha hb => (hrows _ hrow).mpr ⟨ha, hb⟩, fun n hn => ?_⟩
  · refine isSteady_iff.mpr fun hmem => ?_
    rcases (hhangul p hmem).1 with hnot | hnot
    · exact hnot hfirst
    · exact hnot hlast
  · refine hreplacements r hr (r.2[i], r.1 + i) ?_
    rw [List.mk_add_mem_zipIdx_iff_getElem?]
    exact List.getElem?_eq_getElem hi
  · exact isSteady_iff.mpr fun hmem => (hhangul n hmem).2 hn

/-- What is composed of a text in lower case is in lower case. -/
theorem lowercase_composed_lowercase (cs : List Char) :
    lowercase (composed (lowercase cs)) = composed (lowercase cs) := by
  refine lowercase_of_isSteady fun d hd => ?_
  have hsteady : ∀ n ∈ (composed (lowercase cs)).map Char.toNat, IsSteady n := by
    rw [toNat_composed]
    refine closed_isSteady.composeAll (closed_isSteady.apart fun n hn => ?_)
    obtain ⟨c, hc, rfl⟩ := List.mem_map.mp hn
    exact isSteady_of_mem_lowercase hc
  exact hsteady _ (List.mem_map_of_mem hd)

end MapQuery.Text
