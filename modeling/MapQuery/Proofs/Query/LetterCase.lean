import MapQuery.Proofs.DataSet.Consistent
import MapQuery.Proofs.Instant.Reading
import MapQuery.Proofs.Query.Search
import MapQuery.Proofs.Text.Composition
import MapQuery.Proofs.Text.Sigma

/-!
# Searches in any case find more

A search in which the case of letters counts finds nothing that the same search in any case does not find, unless
a capital sigma of the text takes its form in lower case from what stands around the text. With such a sigma there
is something that only the first search finds.

* `Text.standsAlone_q`, `Text.isLetter_q` — the letter q, in front of a text or behind it, is only a letter.
* `holdsNeedle_of_sigmasStand`, `exists_lost` — one text, with and without regard to the case.
* `Text.sigmasStand_of_isAscii`, `Instant.isAscii_shown` — what is found in the text of an instant has no sigma.
* `Query.findsNoMoreThan_value_iff`, `Query.findsNoMoreThan_text_iff` — both kinds of searches.
* `Query.sensitive_finds_no_more` — for the searches that are built for a key and a text.
-/

namespace MapQuery

/-! ### The letter q -/

namespace Text

theorem not_first_q : (compositions.all fun r => r.1 != 0x71) = true := by
  decide +kernel

/-- The letter q is composed with nothing. -/
theorem standsAlone_q : StandsAlone 'q' where
  starter := isStarter_of_lt (by decide)
  loose := by decide +kernel
  first n := by
    have hrow : compositions.find? (fun r => r.1 == 0x71 && r.2.1 == n) = none := by
      refine List.find?_eq_none.mpr fun r hr hboth => ?_
      have hne := List.all_eq_true.mp not_first_q r hr
      rw [Bool.and_eq_true, beq_iff_eq] at hboth
      rw [bne_iff_ne] at hne
      exact hne hboth.1
    show composePair? 0x71 n = none
    unfold composePair?
    rw [hrow]
    split <;> rfl
  second n := by
    show composePair? n 0x71 = none
    exact if_pos (by decide)

/-- The letter q has a case, and is no sigma. -/
theorem isLetter_q : IsLetter 'q' where
  cased := by decide +kernel
  notIgnorable := by decide +kernel
  lower := by decide +kernel
  notSigma := by decide

end Text

open Text

/-! ### One text -/

variable {text : String}

/-- A text that holds another one holds it in any case too, where all sigmas of this one stand. -/
theorem holdsNeedle_of_sigmasStand (h : SigmasStand (composed text.toList)) {candidate : String}
    (hholds : holdsNeedle true (normal true text) candidate = true) :
    holdsNeedle false (normal false text) candidate = true := by
  rw [holdsNeedle_normal] at hholds ⊢
  exact h.occursIn_lowercase hholds

/-- Where they do not all stand, some text holds it, but not in any case. -/
theorem exists_lost (h : ¬ SigmasStand (composed text.toList)) :
    ∃ candidate : String, holdsNeedle true (normal true text) candidate = true ∧
      holdsNeedle false (normal false text) candidate = false := by
  have hlost : ∃ cs : List Char, occursIn (composed text.toList) (composed cs) = true ∧
      occursIn (lowercase (composed text.toList)) (lowercase (composed cs)) = false := by
    rcases isLetter_q.not_occursIn_lowercase h with hlost | hlost
    · refine ⟨'q' :: text.toList, ?_, ?_⟩
      · rw [standsAlone_q.composed_cons]
        exact occursIn_iff.mpr ⟨['q'], [], (List.append_nil _).symm⟩
      · rwa [standsAlone_q.composed_cons]
    · refine ⟨text.toList ++ ['q'], ?_, ?_⟩
      · rw [standsAlone_q.composed_concat]
        exact occursIn_iff.mpr ⟨[], ['q'], rfl⟩
      · rwa [standsAlone_q.composed_concat]
  obtain ⟨cs, hfound, hnot⟩ := hlost
  refine ⟨String.ofList cs, ?_, ?_⟩
  · rw [holdsNeedle_normal, String.toList_ofList]
    exact hfound
  · rw [holdsNeedle_normal, String.toList_ofList]
    exact hnot

/-! ### The texts of instants -/

namespace Text

/-- All characters are ones of ASCII. -/
def IsAscii (s : String) : Prop :=
  ∀ c ∈ s.toList, c.toNat < 0x80

instance : DecidablePred IsAscii :=
  fun s => List.decidableBAll (fun c : Char => c.toNat < 0x80) s.toList

theorem IsAscii.append {s t : String} (hs : IsAscii s) (ht : IsAscii t) : IsAscii (s ++ t) := by
  intro c hc
  rw [String.toList_append, List.mem_append] at hc
  exact hc.elim (hs c) (ht c)

/-- The tables have no capital sigma. -/
theorem no_sigma_in_tables :
    (compositions.all (fun r => r.1 != 0x3a3 && r.2.1 != 0x3a3 && r.2.2 != 0x3a3) &&
      expansions.all (fun r => r.2.all (· != 0x3a3)) &&
      replacements.all fun r => r.2.all (· != 0x3a3)) = true := by
  decide +kernel

theorem closed_ne_sigma : Closed (· ≠ 0x3a3) := by
  have htables := no_sigma_in_tables
  simp only [Bool.and_eq_true, List.all_eq_true, bne_iff_ne] at htables
  obtain ⟨⟨hrows, hexpansions⟩, hreplacements⟩ := htables
  refine ⟨⟨fun p hp _ => by omega, fun a b n hrow _ => (hrows _ hrow).1, fun r hr _ => hexpansions r hr,
    fun r hr i hi _ => hreplacements r hr _ (List.getElem_mem hi)⟩, fun a b n hrow _ _ => (hrows _ hrow).2,
    fun n hn => ?_⟩
  have := hn.1
  omega

/-- What is found in a text of ASCII has no sigma. -/
theorem sigmasStand_of_isAscii {text candidate : String} (hascii : IsAscii candidate)
    (hholds : holdsNeedle true (normal true text) candidate = true) : SigmasStand (composed text.toList) := by
  rw [holdsNeedle_normal] at hholds
  obtain ⟨before, after, hparts⟩ := occursIn_iff.mp hholds
  have hnone : ∀ n ∈ (composed candidate.toList).map Char.toNat, n ≠ 0x3a3 := by
    rw [toNat_composed]
    refine closed_ne_sigma.composeAll (closed_ne_sigma.apart fun n hn => ?_)
    obtain ⟨c, hc, rfl⟩ := List.mem_map.mp hn
    have := hascii c hc
    omega
  intro x c y htext hsigma
  have hmem : c ∈ composed candidate.toList := by
    have hcandidate : composed candidate.toList = before ++ composed text.toList ++ after := hparts
    rw [hcandidate, htext]
    simp only [List.mem_append, List.mem_cons, true_or, or_true]
  exact absurd hsigma (hnone _ (List.mem_map_of_mem hmem))

end Text

namespace Instant

theorem isAscii_padded (width n : Nat) : IsAscii (padded width n) := by
  intro c hc
  have hle := (Ascii.toNat_of_isDigit (isDigit_of_mem_padded hc)).2
  omega

theorem isAscii_shownYear (year : Int) : IsAscii (shownYear year) := by
  unfold shownYear
  split
  · exact isAscii_padded 4 _
  · refine IsAscii.append ?_ (isAscii_padded 4 _)
    split <;> decide

theorem isAscii_shownFraction (nanos : Nat) : IsAscii (shownFraction nanos) := by
  have hdot : IsAscii "." := by decide
  unfold shownFraction
  split
  · exact nofun
  · split
    · exact hdot.append (isAscii_padded 3 _)
    · split
      · exact hdot.append (isAscii_padded 6 _)
      · exact hdot.append (isAscii_padded 9 _)

theorem isAscii_shown (i : Instant) : IsAscii i.shown := by
  have hdash : IsAscii "-" := by decide
  have hcolon : IsAscii ":" := by decide
  have hmiddle : IsAscii "T" := by decide
  have hend : IsAscii "Z" := by decide
  have htwo := isAscii_padded 2
  have hdate (y : Int) (m d : Nat) : IsAscii (shownYear y ++ "-" ++ padded 2 m ++ "-" ++ padded 2 d) :=
    ((((isAscii_shownYear y).append hdash).append (htwo m)).append hdash).append (htwo d)
  have htime {s : String} (hs : IsAscii s) (h m t : Nat) :
      IsAscii (s ++ "T" ++ padded 2 h ++ ":" ++ padded 2 m ++ ":" ++ padded 2 t) :=
    (((((hs.append hmiddle).append (htwo h)).append hcolon).append (htwo m)).append hcolon).append (htwo t)
  exact ((htime (hdate _ _ _) _ _ _).append (isAscii_shownFraction _)).append hend

end Instant

/-! ### Searches -/

namespace Query

/-- In the value of a key, the time of the last change aside, a text with a sigma that does not stand is found
somewhere, but not in any case. -/
theorem findsNoMoreThan_value_iff (key text : String) :
    (value (.plain key text true)).FindsNoMoreThan (value (.plain key text false)) ↔
      key = "timestamp" ∨ SigmasStand (composed text.toList) := by
  constructor
  · intro hmore
    by_contra hnot
    obtain ⟨hkey, hsigmas⟩ := not_or.mp hnot
    obtain ⟨candidate, hfound, hlost⟩ := exists_lost hsigmas
    obtain ⟨d, -, p, htags, -, -⟩ := DataSet.exists_single key candidate
    have hvalue (caseSensitive : Bool) : p.profile.asked? key caseSensitive = some candidate := by
      unfold Profile.asked?
      rw [if_neg hkey, htags]
      refine Tags.find?_of_get? ?_ caseSensitive
      rw [Tags.get?_insert, if_pos rfl]
    have hholds (caseSensitive : Bool) : (value (.plain key text caseSensitive)).holds p =
        holdsNeedle caseSensitive (normal caseSensitive text) candidate := by
      rw [holds_value, ValueSearch.holds_plain]
      show (p.profile.asked? key caseSensitive).any _ = _
      rw [hvalue, Option.any_some]
    have hsensitive : (value (.plain key text true)).holds p = true := (hholds true).trans hfound
    have hany : (value (.plain key text false)).holds p = true := hmore p hsensitive
    rw [hholds, hlost] at hany
    cases hany
  · intro hstand P _ p hholds
    rw [holds_value, ValueSearch.holds_plain, Option.any_eq_true] at hholds ⊢
    obtain ⟨candidate, hvalue, hfound⟩ := hholds
    have hsigmas : SigmasStand (composed text.toList) := by
      rcases hstand with rfl | hsigmas
      · rw [Profile.asked?_timestamp, Option.map_eq_some_iff] at hvalue
        obtain ⟨i, -, rfl⟩ := hvalue
        exact sigmasStand_of_isAscii i.isAscii_shown hfound
      · exact hsigmas
    exact ⟨candidate, Profile.asked?_of_sensitive hvalue, holdsNeedle_of_sigmasStand hsigmas hfound⟩

/-- Anywhere, a text with a sigma that does not stand is found somewhere, but not in any case. -/
theorem findsNoMoreThan_text_iff (text : String) :
    (Query.text (.plain text true)).FindsNoMoreThan (Query.text (.plain text false)) ↔
      SigmasStand (composed text.toList) := by
  constructor
  · intro hmore
    by_contra hsigmas
    obtain ⟨candidate, hfound, hlost⟩ := exists_lost hsigmas
    obtain ⟨d, -, p, htags, huser, -⟩ := DataSet.exists_single candidate candidate
    have hholds (caseSensitive : Bool) : (Query.text (.plain text caseSensitive)).holds p = true ↔
        (TextSearch.plain text caseSensitive).found candidate = true := by
      rw [holds_text]
      exact (TextSearch.holds_iff_of_single _ htags huser).trans or_self_iff
    have hany : (TextSearch.plain text false).found candidate = true :=
      (hholds false).mp (hmore p ((hholds true).mpr hfound))
    cases hlost.symm.trans hany
  · intro hsigmas P _ p hholds
    have hfound {candidate : String} (h : (TextSearch.plain text true).found candidate = true) :
        (TextSearch.plain text false).found candidate = true := holdsNeedle_of_sigmasStand hsigmas h
    rw [holds_text, TextSearch.holds_iff] at hholds ⊢
    rcases hholds with ⟨hempty, huser, hsearch⟩ | ⟨key, value, hkey, hin⟩ | ⟨user, hname, hin⟩
    · refine .inl ⟨hempty, huser, ?_⟩
      have hnil : composed text.toList = [] := by
        have hlist := congrArg String.toList hsearch
        rwa [TextSearch.plain, normal, String.toList_ofList] at hlist
      show normal false text = ""
      have hnormal : normalize false text.toList = [] := congrArg lowercase hnil
      rw [normal, hnormal]
    · exact .inr (.inl ⟨key, value, hkey, hin.imp hfound hfound⟩)
    · exact .inr (.inr ⟨user, hname, hfound hin⟩)

/-- Both searches for a text that is no pattern can be built, with regard to the case of letters and without. What
the first one finds the second one finds too, on every primitive, exactly if the capital sigmas of the text stand,
or if the text is looked for in the time of the last change. -/
theorem sensitive_finds_no_more (key text : String) :
    ∃ inKey inKeyAnyCase anywhere anywhereAnyCase,
      ValueSearch.compile key text ⟨true, false⟩ = .ok inKey ∧
      ValueSearch.compile key text ⟨false, false⟩ = .ok inKeyAnyCase ∧
      TextSearch.compile text ⟨true, false⟩ = .ok anywhere ∧
      TextSearch.compile text ⟨false, false⟩ = .ok anywhereAnyCase ∧
      ((value inKey).FindsNoMoreThan (value inKeyAnyCase) ↔
        key = "timestamp" ∨ SigmasStand (composed text.toList)) ∧
      ((Query.text anywhere).FindsNoMoreThan (Query.text anywhereAnyCase) ↔
        SigmasStand (composed text.toList)) :=
  ⟨.plain key text true, .plain key text false, .plain text true, .plain text false,
    ValueSearch.compile_plain key text true, ValueSearch.compile_plain key text false,
    TextSearch.compile_plain text true, TextSearch.compile_plain text false,
    findsNoMoreThan_value_iff key text, findsNoMoreThan_text_iff text⟩

/-- A sigma at the end of the text is a final one in lower case, and the same sigma before a letter is not. -/
theorem sensitive_finds_more_sigma :
    ∃ inKey inKeyAnyCase anywhere anywhereAnyCase,
      ValueSearch.compile "name" "ΟΔΟΣ" ⟨true, false⟩ = .ok inKey ∧
      ValueSearch.compile "name" "ΟΔΟΣ" ⟨false, false⟩ = .ok inKeyAnyCase ∧
      TextSearch.compile "ΟΔΟΣ" ⟨true, false⟩ = .ok anywhere ∧
      TextSearch.compile "ΟΔΟΣ" ⟨false, false⟩ = .ok anywhereAnyCase ∧
      ∃ d : DataSet, d.Reachable ∧ ∃ p : DataSet.Handle d, p.profile.tags.get? "name" = some "ΟΔΟΣΑ" ∧
        (value inKey).holds p = true ∧ (value inKeyAnyCase).holds p = false ∧
        (Query.text anywhere).holds p = true ∧ (Query.text anywhereAnyCase).holds p = false := by
  refine ⟨_, _, _, _, ValueSearch.compile_plain _ _ true, ValueSearch.compile_plain _ _ false,
    TextSearch.compile_plain _ true, TextSearch.compile_plain _ false, ?_⟩
  obtain ⟨d, hd, p, htags, huser, -⟩ := DataSet.exists_single "name" "ΟΔΟΣΑ"
  have hkey : "name" ≠ "timestamp" := by decide
  have hinKey (caseSensitive : Bool) : (value (.plain "name" "ΟΔΟΣ" caseSensitive)).holds p =
      ((Tags.empty.insert "name" "ΟΔΟΣΑ").find? "name" caseSensitive).any
        (holdsNeedle caseSensitive (normal caseSensitive "ΟΔΟΣ")) := by
    rw [holds_value, ValueSearch.holds_plain, Profile.asked?, if_neg hkey, ← htags]
    rfl
  have hanywhere (caseSensitive : Bool) : (Query.text (.plain "ΟΔΟΣ" caseSensitive)).holds p =
      (TextSearch.plain "ΟΔΟΣ" caseSensitive).holds
        { (default : Profile) with tags := Tags.empty.insert "name" "ΟΔΟΣΑ", user := none } := by
    rw [holds_text, ← htags, ← huser]
    rfl
  refine ⟨d, hd, p, ?_, ?_, ?_, ?_, ?_⟩
  · rw [htags, Tags.get?_insert, if_pos rfl]
  · rw [hinKey]
    decide +kernel
  · rw [hinKey]
    decide +kernel
  · rw [hanywhere]
    decide +kernel
  · rw [hanywhere]
    decide +kernel

end Query

end MapQuery
