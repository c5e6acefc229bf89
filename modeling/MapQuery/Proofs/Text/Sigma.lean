import Mathlib.Data.List.Forall2
import MapQuery.Text.Normal

/-!
# Lower case between other texts

Only the lower-case form of a capital sigma depends on the characters around it. So a text in lower case holds the
lower-case form of each of its parts, unless a sigma of the part takes its form from what stands around the part.

* `lowercaseBetween` — the form of a text between two others; `lowercase_append` — a text has the forms of its parts.
* `tells` — characters among which the search for a letter ends.
* `SigmasStand` — every capital sigma of a text has the same form wherever the text stands.
* `SigmasStand.lowercaseBetween_eq`, `SigmasStand.occursIn_lowercase` — what follows from this.
* `IsLetter.sigmasStand_of_eq` — a letter on either side would show that it is not so.
* `IsLetter.not_occursIn_lowercase` — beside such a letter the text is not found.
-/

namespace MapQuery.Text

variable {c : Char} {cs ds before after : List Char}

/-! ### Forms between other texts -/

/-- The lower-case form of a character between two texts, the first of which is given backwards. -/
def formBetween (before : List Char) (c : Char) (after : List Char) : List Char :=
  if c.toNat = 0x3a3 then [Char.ofNat (if endsWord before after then 0x3c2 else 0x3c3)] else lowerChar c

/-- The lower-case form of a text between two others, the first of which is given backwards. -/
def lowercaseBetween (before : List Char) : List Char → (after : List Char) → List Char
  | [], _ => []
  | c :: cs, after => formBetween before c (cs ++ after) ++ lowercaseBetween (c :: before) cs after

theorem lowercaseBetween_nil (before cs : List Char) : lowercaseBetween before cs [] = lowercaseAfter before cs := by
  induction cs generalizing before with
  | nil => rfl
  | cons c cs ih =>
    rw [lowercaseBetween, ih, List.append_nil]
    rfl

theorem lowercase_eq (cs : List Char) : lowercase cs = lowercaseBetween [] cs [] :=
  (lowercaseBetween_nil [] cs).symm

/-- One text after another has the forms of both, each beside the other one. -/
theorem lowercaseBetween_append (before cs ds after : List Char) :
    lowercaseBetween before (cs ++ ds) after =
      lowercaseBetween before cs (ds ++ after) ++ lowercaseBetween (cs.reverse ++ before) ds after := by
  induction cs generalizing before with
  | nil => rfl
  | cons c cs ih =>
    rw [List.cons_append, lowercaseBetween, lowercaseBetween, ih, List.reverse_cons, List.append_assoc,
      List.append_assoc, List.append_assoc, List.singleton_append]

/-- The form of a text between two others, as a part of the form of all. -/
theorem lowercase_append (before cs after : List Char) :
    lowercase (before ++ cs ++ after) =
      lowercaseBetween [] before (cs ++ after) ++ lowercaseBetween before.reverse cs after ++
        lowercaseBetween (cs.reverse ++ before.reverse) after [] := by
  rw [lowercase_eq, lowercaseBetween_append, lowercaseBetween_append, List.append_nil, List.append_nil,
    List.append_nil, List.reverse_append]

theorem length_formBetween (before before' after after' : List Char) (c : Char) :
    (formBetween before c after).length = (formBetween before' c after').length := by
  unfold formBetween
  split <;> rfl

/-- What stands around a text does not change the length of its form. -/
theorem length_lowercaseBetween (before before' after after' cs : List Char) :
    (lowercaseBetween before cs after).length = (lowercaseBetween before' cs after').length := by
  induction cs generalizing before before' with
  | nil => rfl
  | cons c cs ih =>
    rw [lowercaseBetween, lowercaseBetween, List.length_append, List.length_append,
      length_formBetween before before' _ (cs ++ after') c, ih (c :: before) (c :: before')]

/-- The form of a capital sigma shows whether it is at the end of a word. -/
theorem endsWord_eq_of_formBetween {before' after' : List Char} (hsigma : c.toNat = 0x3a3)
    (h : formBetween before c after = formBetween before' c after') :
    endsWord before after = endsWord before' after' := by
  unfold formBetween at h
  rw [if_pos hsigma, if_pos hsigma] at h
  cases hends : endsWord before after with
  | true =>
    cases hends' : endsWord before' after' with
    | true => rfl
    | false =>
      rw [hends, hends'] at h
      exact absurd h (by decide)
  | false =>
    cases hends' : endsWord before' after' with
    | true =>
      rw [hends, hends'] at h
      exact absurd h (by decide)
    | false => rfl

/-- Where a text has the form that it has alone, so has each of its capital sigmas. -/
theorem endsWord_eq_of_lowercaseBetween {x y : List Char} (hsigma : c.toNat = 0x3a3)
    (h : lowercaseBetween x (before ++ c :: after) y = lowercase (before ++ c :: after)) :
    endsWord (before.reverse ++ x) (after ++ y) = endsWord before.reverse after := by
  rw [lowercase_eq, lowercaseBetween_append, lowercaseBetween_append, lowercaseBetween, lowercaseBetween,
    List.append_nil, List.append_nil, List.append_nil] at h
  have hparts := List.append_inj h (length_lowercaseBetween _ _ _ _ _)
  exact endsWord_eq_of_formBetween hsigma (List.append_inj hparts.2 (length_formBetween _ _ _ _ _)).1

/-! ### Looking for a letter -/

/-- Among the characters is one that is not passed over in the search for a letter. -/
def tells (cs : List Char) : Bool :=
  cs.any fun c => !isCaseIgnorable c

/-- Where all characters are passed over, the search goes on behind them. -/
theorem meetsCased_append (cs ds : List Char) :
    meetsCased (cs ++ ds) = if tells cs then meetsCased cs else meetsCased ds := by
  induction cs with
  | nil => rfl
  | cons c cs ih =>
    unfold meetsCased tells at ih ⊢
    rw [List.cons_append, List.dropWhile_cons, List.dropWhile_cons, List.any_cons]
    cases isCaseIgnorable c with
    | true => exact ih
    | false => rfl

theorem meetsCased_eq_false (h : tells cs = false) : meetsCased cs = false := by
  have happend := meetsCased_append cs []
  rw [List.append_nil, h] at happend
  exact happend

/-- A letter that is no sigma and is its own form in lower case. -/
structure IsLetter (c : Char) : Prop where
  cased : isCased c = true
  notIgnorable : isCaseIgnorable c = false
  lower : lowerChar c = [c]
  notSigma : c.toNat ∉ [0x3a3, 0x3c2, 0x3c3]

theorem IsLetter.meetsCased_singleton (h : IsLetter c) : meetsCased [c] = true := by
  unfold meetsCased
  rw [List.dropWhile_cons, h.notIgnorable]
  exact h.cased

theorem IsLetter.formBetween_eq (h : IsLetter c) (before after : List Char) : formBetween before c after = [c] := by
  have hsigma : c.toNat ≠ 0x3a3 := fun heq => h.notSigma (by rw [heq]; exact List.mem_cons_self)
  rw [formBetween, if_neg hsigma, h.lower]

theorem IsLetter.ne_final (h : IsLetter c) : c ≠ Char.ofNat 0x3c2 := by
  rintro rfl
  exact h.notSigma (by decide)

theorem IsLetter.ne_small (h : IsLetter c) : c ≠ Char.ofNat 0x3c3 := by
  rintro rfl
  exact h.notSigma (by decide)

/-! ### Sigmas that stand -/

/-- A capital sigma between the two texts has the same form whatever stands around these. It is not at the end of a
word if a letter comes after it. Else a letter before it decides, which has to be known, and so must be the end of
the word if there is such a letter. -/
def SigmaStands (before after : List Char) : Prop :=
  meetsCased after = true ∨ tells before = true ∧ (tells after = true ∨ meetsCased before = false)

/-- Every capital sigma of a text has the same form whatever stands around the text. -/
def SigmasStand (cs : List Char) : Prop :=
  ∀ before c after, cs = before ++ c :: after → c.toNat = 0x3a3 → SigmaStands before.reverse after

theorem SigmaStands.endsWord_eq (h : SigmaStands before after) (x y : List Char) :
    endsWord (before ++ x) (after ++ y) = endsWord before after := by
  unfold endsWord
  rw [meetsCased_append, meetsCased_append]
  rcases h with hafter | ⟨hbefore, htells | hcased⟩
  · have htells : tells after = true := by
      by_contra hnot
      rw [meetsCased_eq_false (Bool.eq_false_iff.mpr hnot)] at hafter
      cases hafter
    rw [htells, if_pos rfl, hafter, Bool.not_true, Bool.and_false, Bool.and_false]
  · rw [hbefore, htells]
    rfl
  · rw [hbefore, if_pos rfl, hcased, Bool.false_and, Bool.false_and]

theorem formBetween_append (h : c.toNat = 0x3a3 → SigmaStands before after) (x y : List Char) :
    formBetween (before ++ x) c (after ++ y) = formBetween before c after := by
  unfold formBetween
  split
  · next hsigma => rw [(h hsigma).endsWord_eq]
  · rfl

/-- Such a text has one form wherever it stands. The induction is on a part of the text, for all that stands in the
text before this part. -/
theorem SigmasStand.lowercaseBetween_eq (h : SigmasStand cs) (x y : List Char) :
    lowercaseBetween x cs y = lowercase cs := by
  have hpart : ∀ before part, before ++ part = cs →
      lowercaseBetween (before.reverse ++ x) part y = lowercaseBetween before.reverse part [] := by
    intro before part hcs
    induction part generalizing before with
    | nil => rfl
    | cons c part ih =>
      have hform : formBetween (before.reverse ++ x) c (part ++ y) = formBetween before.reverse c part :=
        formBetween_append (fun hsigma => h before c part hcs.symm hsigma) x y
      have hrest := ih (before ++ [c]) (by rw [List.append_assoc, List.singleton_append, hcs])
      rw [List.reverse_append, List.reverse_singleton, List.singleton_append, List.cons_append] at hrest
      rw [lowercaseBetween, lowercaseBetween, hform, hrest, List.append_nil]
  rw [lowercase_eq]
  exact hpart [] cs rfl

/-- A text that holds such a one holds it in lower case too. -/
theorem SigmasStand.occursIn_lowercase (h : SigmasStand cs) (hoccurs : occursIn cs ds = true) :
    occursIn (lowercase cs) (lowercase ds) = true := by
  obtain ⟨before, after, rfl⟩ := occursIn_iff.mp hoccurs
  rw [lowercase_append, h.lowercaseBetween_eq]
  exact occursIn_iff.mpr ⟨_, _, rfl⟩

/-! ### Sigmas that do not stand -/

/-- A character is the same, or it is a small sigma that becomes a final one. -/
def TurnsFinal (c d : Char) : Prop :=
  c = d ∨ c = Char.ofNat 0x3c3 ∧ d = Char.ofNat 0x3c2

/-- Where more sigmas are at the end of a word, nothing else changes. -/
theorem turnsFinal_lowercaseBetween {before before' after after' : List Char}
    (h : ∀ x y, endsWord (x ++ before) (y ++ after) = true → endsWord (x ++ before') (y ++ after') = true)
    (cs : List Char) :
    List.Forall₂ TurnsFinal (lowercaseBetween before cs after) (lowercaseBetween before' cs after') := by
  induction cs generalizing before before' with
  | nil => exact .nil
  | cons c cs ih =>
    have hrest : List.Forall₂ TurnsFinal (lowercaseBetween (c :: before) cs after)
        (lowercaseBetween (c :: before') cs after') := by
      refine ih fun x y hends => ?_
      have hmore := h (x ++ [c]) y
      rw [List.append_assoc, List.append_assoc] at hmore
      exact hmore hends
    have hsame : ∀ w : List Char, List.Forall₂ TurnsFinal w w := fun w => List.forall₂_same.mpr fun _ _ => .inl rfl
    have hform : List.Forall₂ TurnsFinal (formBetween before c (cs ++ after))
        (formBetween before' c (cs ++ after')) := by
      have hends := h [] cs
      rw [List.nil_append, List.nil_append] at hends
      unfold formBetween
      split
      · cases hfirst : endsWord before (cs ++ after) with
        | true =>
          rw [hends hfirst]
          exact hsame _
        | false =>
          cases endsWord before' (cs ++ after') with
          | true => exact .cons (.inr ⟨rfl, rfl⟩) .nil
          | false => exact hsame _
      · exact hsame _
    exact List.rel_append hform hrest

/-- A text in which a small sigma has become a final one has more of these and fewer of those. -/
theorem count_lt_of_turnsFinal {x y : List Char} (h : List.Forall₂ TurnsFinal x y) :
    x = y ∨ x.count (Char.ofNat 0x3c2) < y.count (Char.ofNat 0x3c2) ∧
      y.count (Char.ofNat 0x3c3) < x.count (Char.ofNat 0x3c3) := by
  have hdiffer : Char.ofNat 0x3c3 ≠ Char.ofNat 0x3c2 := by decide
  induction h with
  | nil => exact .inl rfl
  | cons hcd _ ih =>
    rcases hcd with rfl | ⟨rfl, rfl⟩
    · rcases ih with rfl | ⟨hfinal, hsmall⟩
      · exact .inl rfl
      · rw [List.count_cons, List.count_cons, List.count_cons, List.count_cons]
        exact .inr ⟨by omega, by omega⟩
    · rw [List.count_cons_self, List.count_cons_of_ne hdiffer, List.count_cons_self,
        List.count_cons_of_ne hdiffer.symm]
      rcases ih with rfl | ⟨hfinal, hsmall⟩
      · exact .inr ⟨by omega, by omega⟩
      · exact .inr ⟨by omega, by omega⟩

/-- What occurs in a text has no more of a character than this. -/
theorem count_le_of_occursIn (h : occursIn cs ds = true) (c : Char) : cs.count c ≤ ds.count c := by
  obtain ⟨before, after, rfl⟩ := occursIn_iff.mp h
  rw [List.count_append, List.count_append]
  omega

namespace IsLetter

/-- Behind a text, a letter can only take sigmas from the end of a word. -/
theorem turnsFinal_behind (h : IsLetter c) (cs : List Char) :
    List.Forall₂ TurnsFinal (lowercaseBetween [] cs [c]) (lowercase cs) := by
  rw [lowercase_eq]
  refine turnsFinal_lowercaseBetween (fun x y hends => ?_) cs
  unfold endsWord at hends ⊢
  rw [List.append_nil, meetsCased_append y, h.meetsCased_singleton] at hends
  rw [List.append_nil, List.append_nil]
  cases htells : tells y with
  | true =>
    rw [htells, if_pos rfl] at hends
    exact hends
  | false =>
    rw [htells, if_neg Bool.false_ne_true, Bool.not_true, Bool.and_false] at hends
    cases hends

/-- In front of a text, a letter can only bring sigmas to the end of a word. -/
theorem turnsFinal_before (h : IsLetter c) (cs : List Char) :
    List.Forall₂ TurnsFinal (lowercase cs) (lowercaseBetween [c] cs []) := by
  rw [lowercase_eq]
  refine turnsFinal_lowercaseBetween (fun x y hends => ?_) cs
  unfold endsWord at hends ⊢
  rw [List.append_nil, List.append_nil] at hends
  rw [List.append_nil, meetsCased_append, h.meetsCased_singleton]
  rw [Bool.and_eq_true] at hends ⊢
  refine ⟨?_, hends.2⟩
  split
  · exact hends.1
  · rfl

/-- A sigma stands where neither a letter before the text nor one behind it changes whether it ends a word. -/
theorem sigmaStands_of_endsWord_eq (h : IsLetter c) (hfront : endsWord (before ++ [c]) after = endsWord before after)
    (hback : endsWord before (after ++ [c]) = endsWord before after) : SigmaStands before after := by
  unfold endsWord at hfront hback
  rw [meetsCased_append, h.meetsCased_singleton] at hfront hback
  cases hafter : meetsCased after with
  | true => exact .inl hafter
  | false =>
    -- Without a letter before it, one in front of the text would make the sigma a final one.
    have htells : tells before = true := by
      by_contra hnot
      have hnone := Bool.eq_false_iff.mpr hnot
      rw [hnone, meetsCased_eq_false hnone, hafter] at hfront
      exact absurd hfront (by decide)
    refine .inr ⟨htells, ?_⟩
    cases hknown : tells after with
    | true => exact .inl rfl
    | false =>
      -- And after a letter, one behind the text would make it a small one.
      rw [hknown, hafter] at hback
      cases hcased : meetsCased before with
      | true =>
        rw [hcased] at hback
        exact absurd hback (by decide)
      | false => exact .inr rfl

/-- Where neither a letter before a text nor one behind it changes its form, nothing does. -/
theorem sigmasStand_of_eq (h : IsLetter c) (hbefore : lowercaseBetween [c] cs [] = lowercase cs)
    (hbehind : lowercaseBetween [] cs [c] = lowercase cs) : SigmasStand cs := by
  rintro before d after rfl hsigma
  have hfront := endsWord_eq_of_lowercaseBetween hsigma hbefore
  have hback := endsWord_eq_of_lowercaseBetween hsigma hbehind
  rw [List.append_nil] at hfront hback
  exact h.sigmaStands_of_endsWord_eq hfront hback

/-- A text whose sigmas do not all stand is not found behind a letter, or not before one. -/
theorem not_occursIn_lowercase (h : IsLetter c) (hcs : ¬ SigmasStand cs) :
    occursIn (lowercase cs) (lowercase (c :: cs)) = false ∨
      occursIn (lowercase cs) (lowercase (cs ++ [c])) = false := by
  have hfront : lowercase (c :: cs) = c :: lowercaseBetween [c] cs [] := by
    rw [lowercase_eq, lowercaseBetween, h.formBetween_eq]
    rfl
  have hback : lowercase (cs ++ [c]) = lowercaseBetween [] cs [c] ++ [c] := by
    rw [lowercase_eq, lowercaseBetween_append, lowercaseBetween, h.formBetween_eq]
    rfl
  rcases count_lt_of_turnsFinal (h.turnsFinal_before cs) with hsame | ⟨-, hfewer⟩
  · rcases count_lt_of_turnsFinal (h.turnsFinal_behind cs) with hsame' | ⟨hfewer, -⟩
    · exact absurd (h.sigmasStand_of_eq hsame.symm hsame') hcs
    · refine .inr (Bool.eq_false_iff.mpr fun hoccurs => ?_)
      have hle := count_le_of_occursIn hoccurs (Char.ofNat 0x3c2)
      rw [hback, List.count_append, List.count_cons_of_ne h.ne_final, List.count_nil] at hle
      omega
  · refine .inl (Bool.eq_false_iff.mpr fun hoccurs => ?_)
    have hle := count_le_of_occursIn hoccurs (Char.ofNat 0x3c3)
    rw [hfront, List.count_cons_of_ne h.ne_small] at hle
    omega

end IsLetter

end MapQuery.Text
