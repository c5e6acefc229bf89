import MapQuery.Proofs.Number.Numeral
import MapQuery.Proofs.Token.Joined

/-!
# Words that mean themselves

A word without blanks, special characters and backslashes is one lexeme and means itself. So does a number in
decimal digits, and two numbers with a dash between them: a minus sign before a digit belongs to the word.

* `Cursor.IsPlain` — such a word.
* `Lexeme.kinds_plain` — it is one token, before a source in which no word goes on.
* `Cursor.IsNumeric` — digits and dashes that begin like a number.
* `Lexeme.kinds_numeric` — they are one key.
-/

namespace MapQuery

open Ascii (isDigit)

/-! ### Literals -/

namespace Literal

variable {ends : Char → Bool} {w : List Char}

/-- A literal without ending characters and backslashes goes up to a source in which it does not go on. -/
theorem raw_append_of_forall (h : ∀ d ∈ w, ends d = false ∧ d ≠ '\\') {rest : List Char}
    (hrest : raw ends rest = ([], rest)) : raw ends (w ++ rest) = (w, rest) := by
  induction w with
  | nil => exact hrest
  | cons c w ih =>
    obtain ⟨⟨hends, hbackslash⟩, hw⟩ := List.forall_mem_cons.mp h
    rw [List.cons_append, raw_cons_of_ne ends hbackslash, hends, ih hw]
    rfl

/-- A literal without backslashes means itself. -/
theorem unescape_of_forall (h : ∀ d ∈ w, d ≠ '\\') : unescape w = w := by
  induction w with
  | nil => rfl
  | cons c w ih =>
    obtain ⟨hbackslash, hw⟩ := List.forall_mem_cons.mp h
    rw [unescape.eq_4, ih hw]
    · exact fun hc => absurd hc hbackslash
    · exact fun _ _ hc => absurd hc hbackslash

end Literal

/-! ### Words -/

namespace Cursor

/-- A word of characters that neither end a word nor escape one. A dash in front stands before a digit. -/
structure IsPlain (c : Char) (cs : List Char) : Prop where
  plain : ∀ d ∈ c :: cs, endsWord d = false ∧ d ≠ '\\'
  dash : c = '-' → startsWithDigit cs = true

theorem isPlain_of_all {c : Char} {cs : List Char}
    (h : (c :: cs).all (fun d => !endsWord d && d != '\\') = true) (hc : c ≠ '-') : IsPlain c cs where
  plain := by
    intro d hd
    simpa using List.all_eq_true.mp h d hd
  dash := fun heq => absurd heq hc

theorem ofPunctuation?_of_endsWord {c : Char} (h : endsWord c = false) :
    Token.Kind.ofPunctuation? c = none := by
  unfold Token.Kind.ofPunctuation?
  split
  case h_11 => rfl
  all_goals cases h

/-- The dash in front of a plain word is not a negation. -/
theorem IsPlain.dash_eq_false {c : Char} {cs : List Char} (h : IsPlain c cs) :
    (c == '-' && !startsWithDigit cs) = false := by
  by_cases hc : c = '-'
  · rw [h.dash hc]
    exact Bool.and_false _
  · rw [beq_eq_false_iff_ne.mpr hc]
    rfl

end Cursor

namespace Lexeme

open Cursor

variable {c : Char} {cs rest : List Char}

/-- A plain word is a lexeme that means itself. -/
theorem first_plain (h : IsPlain c cs) (hrest : EndsWords rest) :
    first c (cs ++ rest) = (⟨c :: cs, word? (c :: cs)⟩, rest) := by
  have hends : endsWord c = false := (h.plain c List.mem_cons_self).1
  have hskip : ¬ (Text.isBlank c || c == '&') = true := by
    intro hskip
    rcases Bool.or_eq_true_iff.mp hskip with hblank | hand
    · rw [endsWord, hblank, Bool.or_true] at hends
      cases hends
    · rw [beq_iff_eq.mp hand] at hends
      cases hends
  have hquote : ¬ (c == '"') = true := by
    intro hquote
    rw [beq_iff_eq.mp hquote] at hends
    cases hends
  have hdash : ¬ (c == '-' && !startsWithDigit (cs ++ rest)) = true := by
    rw [hrest.startsWithDigit_append, h.dash_eq_false]
    exact Bool.false_ne_true
  have hraw : Literal.raw endsWord (c :: (cs ++ rest)) = (c :: cs, rest) :=
    Literal.raw_append_of_forall h.plain hrest.raw_eq
  have hunescape : Literal.unescape (c :: cs) = c :: cs :=
    Literal.unescape_of_forall fun d hd => (h.plain d hd).2
  rw [first, if_neg hskip, ofPunctuation?_of_endsWord hends]
  dsimp only
  rw [if_neg hquote, if_neg hdash, hraw, hunescape]

/-- A plain word that is a token is the first one. -/
theorem kinds_plain (h : IsPlain c cs) (hrest : EndsWords rest) {kind : Token.Kind}
    (hword : word? (c :: cs) = some kind) : kinds (c :: cs ++ rest) = kind :: kinds rest := by
  rw [List.cons_append, kinds_cons, first_plain h hrest]
  dsimp only
  rw [hword]
  rfl

end Lexeme

/-! ### Numbers -/

namespace Cursor

/-- Digits and dashes, with a digit in front or behind a dash in front. -/
structure IsNumeric (c : Char) (cs : List Char) : Prop where
  numeric : ∀ d ∈ c :: cs, isDigit d = true ∨ d = '-'
  dash : c = '-' → startsWithDigit cs = true

/-- A digit or a dash has no other case, and is no letter. -/
theorem toNat_lower_of_numeric {c : Char} (h : isDigit c = true ∨ c = '-') : (Ascii.lower c).toNat ≤ 57 := by
  rcases h with hdigit | rfl
  · have hrange := Ascii.toNat_of_isDigit hdigit
    have hlower : Ascii.lower c = c := by
      unfold Ascii.lower Char.toLower
      rw [dif_neg]
      simp only [ge_iff_le, UInt32.le_iff_toNat_le, not_and]
      intro hlow
      have hlow' : 65 ≤ c.toNat := hlow
      omega
    rw [hlower]
    exact hrange.2
  · decide

theorem sameWord_eq_false {c d : Char} (h : Ascii.lower c ≠ Ascii.lower d) (cs ds : List Char) :
    Ascii.sameWord (c :: cs) (d :: ds) = false := by
  rw [Ascii.sameWord, beq_eq_false_iff_ne]
  exact fun heq => h (List.cons.inj heq).1

/-- No operator is written with digits and dashes. -/
theorem word?_of_numeric {c : Char} (h : isDigit c = true ∨ c = '-') (cs : List Char) :
    word? (c :: cs) = some (.key (Key.unquoted (c :: cs))) := by
  have hle := toNat_lower_of_numeric h
  have hne : ∀ d : Char, 57 < (Ascii.lower d).toNat → Ascii.lower c ≠ Ascii.lower d := by
    intro d hd heq
    rw [heq] at hle
    omega
  have hnot : Ascii.sameWord (c :: cs) "not".toList = false := sameWord_eq_false (hne 'n' (by decide)) cs _
  have hor : Ascii.sameWord (c :: cs) "or".toList = false := sameWord_eq_false (hne 'o' (by decide)) cs _
  have hxor : Ascii.sameWord (c :: cs) "xor".toList = false := sameWord_eq_false (hne 'x' (by decide)) cs _
  have hand : Ascii.sameWord (c :: cs) "and".toList = false := sameWord_eq_false (hne 'a' (by decide)) cs _
  rw [word?, hnot, hor, hxor, hand]
  rfl

theorem IsNumeric.isPlain {c : Char} {cs : List Char} (h : IsNumeric c cs) : IsPlain c cs where
  plain := by
    intro d hd
    rcases h.numeric d hd with hdigit | rfl
    · refine ⟨Lexeme.endsWord_eq_false_of_isDigit hdigit, ?_⟩
      rintro rfl
      cases hdigit
    · exact ⟨by decide, by decide⟩
  dash := h.dash

/-- More digits and dashes may come after a number. -/
theorem IsNumeric.append {c : Char} {cs ds : List Char} (h : IsNumeric c cs)
    (hds : ∀ d ∈ ds, isDigit d = true ∨ d = '-') : IsNumeric c (cs ++ ds) where
  numeric := by
    intro d hd
    rw [← List.cons_append, List.mem_append] at hd
    exact hd.elim (h.numeric d) (hds d)
  dash := by
    intro hc
    have hdigit := h.dash hc
    cases cs with
    | nil => cases hdigit
    | cons e cs => exact hdigit

/-- The decimal text of a number begins like a number. -/
theorem exists_isNumeric_toString (n : Int) :
    ∃ c cs, (toString n).toList = c :: cs ∧ IsNumeric c cs := by
  obtain ⟨ds, ⟨hne, hdigits⟩, ⟨htext, _⟩ | ⟨htext, _⟩⟩ := Whole.toList_toString_cases n
  · obtain ⟨d, ds, rfl⟩ := List.exists_cons_of_ne_nil hne
    refine ⟨d, ds, htext, fun e he => .inl (hdigits e he), ?_⟩
    rintro rfl
    cases hdigits '-' List.mem_cons_self
  · obtain ⟨d, ds, rfl⟩ := List.exists_cons_of_ne_nil hne
    refine ⟨'-', d :: ds, htext, ?_, fun _ => hdigits d List.mem_cons_self⟩
    exact List.forall_mem_cons.mpr ⟨.inr rfl, fun e he => .inl (hdigits e he)⟩

end Cursor

namespace Lexeme

open Cursor

/-- Digits and dashes that begin like a number are one key. -/
theorem kinds_numeric {c : Char} {cs : List Char} (h : IsNumeric c cs) :
    kinds (c :: cs) = [.key (Key.unquoted (c :: cs))] := by
  have hends : EndsWords [] := nofun
  have hkinds := kinds_plain h.isPlain hends (word?_of_numeric (h.numeric c List.mem_cons_self) cs)
  rwa [List.append_nil, kinds_nil] at hkinds

end Lexeme

end MapQuery
