import Mathlib.Data.List.TakeWhile
import MapQuery.Compiler.Reading
import MapQuery.Proofs.Number.Numeral
import MapQuery.Proofs.Token.Layout

/-!
# Ranges in a query

A range is written as an unquoted word: a number, two numbers with a dash between them, or a number with a dash
after it. The dash that separates is the first one that is not the first character, so that both numbers may
have a sign. Nothing else is read as a range, except that a dash counts as one with nothing after it where no
number can be read there.

* `Range.Form` — the forms of a range.
* `Range.OpensBefore` — a word that goes on after its dash with something that is no number.
* `Token.IsWordOf` — a token is an unquoted word of a text.
* `Key.unquoted_of_numeral`, `Key.unquoted_append` — how a number and a pair are read.
* `Tokenizer.rangeOf?_unquoted_eq_some_iff` — the words that are read as a range.
* `Tokens.range_stream_eq_ok_iff` — the tokens of a text that are read as a range.
* `Reading.run_takeRange` — what is read of the first token of a text, and how it is refused.
-/

namespace MapQuery

open Whole (Numeral)

/-! ### Forms -/

/-- A range has a written form. The numbers in it are numerals of 64 bits. -/
inductive Range.Form : (word : List Char) → Range → Prop
  /-- One number stands for itself. -/
  | single {w : List Char} {n : Int} (h : Numeral w n) (hn : 0 ≤ n) : Form w (.between n n)
  /-- A negative number stands for everything from zero up to what it is without its sign. -/
  | upTo {w : List Char} {n : Int} (h : Numeral w n) (hn : n < 0) :
    Form w (.between 0 (min (-n) Whole.greatest))
  /-- Two numbers stand for everything between them. -/
  | interval {u v : List Char} {a b : Int} (ha : Numeral u a) (hb : Numeral v b) :
    Form (u ++ '-' :: v) (.between a b)
  /-- A number with a dash stands for everything from it on. -/
  | fromOn {u : List Char} {a : Int} (ha : Numeral u a) : Form (u ++ ['-']) (.between a Whole.greatest)

/-- A word goes on after the dash with something that is not a numeral, and the range is the one of the word
without it. -/
def Range.OpensBefore (word : List Char) (r : Range) : Prop :=
  ∃ u v a, word = u ++ '-' :: v ∧ Numeral u a ∧ v ≠ [] ∧ (∀ b, ¬ Numeral v b) ∧
    r = .between a Whole.greatest

theorem Whole.saturatingAbs_of_neg {n : Int} (h : n < 0) : saturatingAbs n = min (-n) greatest := by
  unfold saturatingAbs
  omega

/-! ### Keys -/

namespace Key

theorem ne_dash_of_not_mem {cs : List Char} (h : '-' ∉ cs) : ∀ d ∈ cs, decide (d ≠ '-') = true := by
  intro d hd
  refine decide_eq_true ?_
  rintro rfl
  exact h hd

theorem splitRange?_cons_of_not_mem {c : Char} {cs : List Char} (h : '-' ∉ cs) :
    splitRange? (c :: cs) = none := by
  have hdrop : cs.dropWhile (· ≠ '-') = [] := List.dropWhile_eq_nil_iff.mpr (ne_dash_of_not_mem h)
  rw [splitRange?, hdrop]

theorem splitRange?_cons_append {c : Char} {cs : List Char} (h : '-' ∉ cs) (after : List Char) :
    splitRange? (c :: cs ++ '-' :: after) = some (c :: cs, after) := by
  have hall := ne_dash_of_not_mem h
  have hdrop : (cs ++ '-' :: after).dropWhile (· ≠ '-') = '-' :: after := by
    rw [List.dropWhile_append_of_pos hall]
    rfl
  have htake : (cs ++ '-' :: after).takeWhile (· ≠ '-') = cs := by
    rw [List.takeWhile_append_of_pos hall]
    simp
  rw [List.cons_append, splitRange?, hdrop]
  dsimp only
  rw [htake]

/-- The two parts of a word have a dash between them. -/
theorem eq_append_of_splitRange? {word before after : List Char}
    (h : splitRange? word = some (before, after)) : word = before ++ '-' :: after := by
  cases word with
  | nil => cases h
  | cons c cs =>
    rw [splitRange?] at h
    split at h
    · cases h
    · next d rest hdrop =>
      have happend := List.takeWhile_append_dropWhile (p := fun d => decide (d ≠ '-')) (l := cs)
      have hhead := List.head_dropWhile_not (fun d => decide (d ≠ '-')) (l := cs)
        (by rw [hdrop]; exact List.cons_ne_nil _ _)
      simp only [hdrop, List.head_cons, decide_eq_false_iff_not, not_not] at hhead
      cases h
      rw [hdrop, hhead] at happend
      rw [List.cons_append, happend]

/-- A numeral has no dash inside of it. -/
theorem splitRange?_of_numeral {w : List Char} {n : Int} (h : Numeral w n) : splitRange? w = none := by
  obtain ⟨c, cs, rfl⟩ := List.exists_cons_of_ne_nil h.ne_nil
  exact splitRange?_cons_of_not_mem h.dash_not_mem

/-- The dash after a numeral is the first one inside of a word. -/
theorem splitRange?_append {u : List Char} {a : Int} (h : Numeral u a) (v : List Char) :
    splitRange? (u ++ '-' :: v) = some (u, v) := by
  obtain ⟨c, cs, rfl⟩ := List.exists_cons_of_ne_nil h.ne_nil
  exact splitRange?_cons_append h.dash_not_mem v

/-- A numeral is read as its number. -/
theorem unquoted_of_numeral {w : List Char} {n : Int} (h : Numeral w n) :
    unquoted w = ⟨String.ofList w, some n, none, false⟩ := by
  rw [unquoted, splitRange?_of_numeral h, Whole.read?_eq_some_iff.mpr h]

/-- A numeral before a dash is read as its number, whatever is read after the dash. -/
theorem unquoted_append {u : List Char} {a : Int} (h : Numeral u a) (v : List Char) :
    unquoted (u ++ '-' :: v) = ⟨String.ofList (u ++ '-' :: v), some a, Whole.read? v, true⟩ := by
  rw [unquoted, splitRange?_append h]
  dsimp only
  rw [Whole.read?_eq_some_iff.mpr h]

end Key

/-- A word that goes on after its dash without a number is in none of the forms. -/
theorem Range.OpensBefore.not_form {word : List Char} {r : Range} (h : OpensBefore word r) (r' : Range) :
    ¬ Form word r' := by
  obtain ⟨u, v, a, hword, ha, hne, hv, _⟩ := h
  have hsplit : Key.splitRange? word = some (u, v) := hword ▸ Key.splitRange?_append ha v
  intro hform
  cases hform with
  | single hw => cases (Key.splitRange?_of_numeral hw).symm.trans hsplit
  | upTo hw => cases (Key.splitRange?_of_numeral hw).symm.trans hsplit
  | interval ha' hb =>
    cases (Key.splitRange?_append ha' _).symm.trans hsplit
    exact hv _ hb
  | fromOn ha' =>
    cases (Key.splitRange?_append ha' []).symm.trans hsplit
    exact hne rfl

namespace Tokenizer

variable {word before after : List Char} {r : Range}

/-- A word in one of the forms is read as its range. -/
theorem rangeOf?_of_form (h : Range.Form word r) : rangeOf? (Key.unquoted word) = some r := by
  cases h with
  | single h hn => simp [Key.unquoted_of_numeral h, rangeOf?, hn]
  | @upTo _ n h hn =>
    have hnot : ¬ 0 ≤ n := by omega
    simp [Key.unquoted_of_numeral h, rangeOf?, hnot, Whole.saturatingAbs_of_neg hn]
  | interval ha hb => simp [Key.unquoted_append ha, rangeOf?, Whole.read?_eq_some_iff.mpr hb]
  | fromOn ha => simp [Key.unquoted_append ha, rangeOf?, Whole.read?_nil]

/-- What is no numeral does not count behind the dash. -/
theorem rangeOf?_of_opensBefore (h : Range.OpensBefore word r) : rangeOf? (Key.unquoted word) = some r := by
  obtain ⟨u, v, a, rfl, ha, _, hv, rfl⟩ := h
  simp [Key.unquoted_append ha, rangeOf?, Whole.read?_eq_none_iff.mpr hv]

/-- A word without a dash inside of it has to be a numeral, which is negative or not. -/
theorem form_of_rangeOf? (hsplit : Key.splitRange? word = none) (h : rangeOf? (Key.unquoted word) = some r) :
    Range.Form word r := by
  rw [Key.unquoted, hsplit] at h
  cases hread : Whole.read? word with
  | none => simp [rangeOf?, hread] at h
  | some n =>
    have hn := Whole.read?_eq_some_iff.mp hread
    simp only [rangeOf?, hread] at h
    split at h
    · next hnonneg =>
      cases h
      exact .single hn hnonneg
    · next hneg =>
      cases h
      have hlt : n < 0 := by omega
      rw [Whole.saturatingAbs_of_neg hlt]
      exact .upTo hn hlt

/-- In a word with a dash inside of it, the part before the dash has to be a numeral. The one after it is a numeral
or empty, or else does not count. -/
theorem form_or_opensBefore_of_rangeOf? (hsplit : Key.splitRange? word = some (before, after))
    (h : rangeOf? (Key.unquoted word) = some r) : Range.Form word r ∨ Range.OpensBefore word r := by
  obtain rfl := Key.eq_append_of_splitRange? hsplit
  rw [Key.unquoted, hsplit] at h
  cases hbefore : Whole.read? before with
  | none => simp [rangeOf?, hbefore] at h
  | some a =>
    have ha := Whole.read?_eq_some_iff.mp hbefore
    cases hafter : Whole.read? after with
    | some b =>
      simp only [rangeOf?, hbefore, hafter, Option.some.injEq] at h
      subst h
      exact .inl (.interval ha (Whole.read?_eq_some_iff.mp hafter))
    | none =>
      simp only [rangeOf?, hbefore, hafter, Option.some.injEq] at h
      subst h
      by_cases hnil : after = []
      · subst hnil
        exact .inl (.fromOn ha)
      · exact .inr ⟨before, after, a, rfl, ha, hnil, Whole.read?_eq_none_iff.mp hafter, rfl⟩

/-- The words that are read as a range. -/
theorem rangeOf?_unquoted_eq_some_iff :
    rangeOf? (Key.unquoted word) = some r ↔ Range.Form word r ∨ Range.OpensBefore word r := by
  constructor
  · intro h
    cases hsplit : Key.splitRange? word with
    | none => exact .inl (form_of_rangeOf? hsplit h)
    | some parts => exact form_or_opensBefore_of_rangeOf? hsplit h
  · rintro (hform | hopens)
    · exact rangeOf?_of_form hform
    · exact rangeOf?_of_opensBefore hopens

theorem rangeOf?_quoted (text : List Char) : rangeOf? (Key.quoted text) = none := rfl

end Tokenizer

/-! ### Tokens -/

/-- A token is an unquoted word of a text: a key that means `word`, on a piece of the text that does not begin
with a quote. -/
def Token.IsWordOf (t : Token) (text : String) (word : List Char) : Prop :=
  (∃ k, t.kind = .key k ∧ k.text.toList = word) ∧
    ∃ before c body after, t.span.Cuts text.toList before (c :: body) after ∧ c ≠ '"'

namespace Lexeme

/-- The source of a first lexeme begins where the source does. -/
theorem exists_source_first (c : Char) (cs : List Char) : ∃ body, (first c cs).1.source = c :: body := by
  have hbegins := begins_first c cs
  generalize first c cs = r at hbegins
  cases hbegins with
  | word h => exact Literal.exists_raw_eq_cons cs h
  | _ => exact ⟨_, rfl⟩

/-- A first lexeme that is a key is quoted where it begins with a quote, and only there. -/
theorem key_first {c : Char} {cs : List Char} {k : Key} (h : (first c cs).1.kind? = some (.key k)) :
    (c = '"' ∧ ∃ text, k = Key.quoted text) ∨ (c ≠ '"' ∧ ∃ word, k = Key.unquoted word) := by
  have hbegins := begins_first c cs
  generalize first c cs = r at h hbegins
  cases hbegins with
  | sign => cases h
  | punctuation hp => exact absurd (hp.trans h) (Cursor.ofPunctuation?_ne_key c k)
  | quoted hquote =>
    cases h
    exact .inl ⟨hquote, _, rfl⟩
  | negation => cases h
  | word hword =>
    refine .inr ⟨?_, _, Cursor.key_of_word? h⟩
    rintro rfl
    cases hword

end Lexeme

/-- Pieces of a text at the same place begin with the same character. -/
theorem Span.Cuts.head_eq {span : Span} {text before before' body body' after after' : List Char} {c c' : Char}
    (h : span.Cuts text before (c :: body) after) (h' : span.Cuts text before' (c' :: body') after') :
    c = c' := by
  have happend : before ++ (c :: (body ++ after)) = before' ++ (c' :: (body' ++ after')) := by
    have htext := h.text_eq.symm.trans h'.text_eq
    rwa [List.append_assoc, List.append_assoc] at htext
  have hwidth : Text.width before = Text.width before' := h.start_eq.symm.trans h'.start_eq
  exact (List.cons.inj (Text.eq_of_width_eq happend hwidth).2).1

namespace Token

variable {t : Token} {text : String} {word word' : List Char} {r : Range}

theorem IsWordOf.text_eq {k : Key} (h : t.IsWordOf text word) (hk : t.kind = .key k) :
    k.text.toList = word := by
  obtain ⟨⟨k', hk', hword⟩, _⟩ := h
  cases hk.symm.trans hk'
  exact hword

theorem IsWordOf.unique (h : t.IsWordOf text word) (h' : t.IsWordOf text word') : word = word' := by
  obtain ⟨k, hk, hword⟩ := h.1
  exact hword.symm.trans (h'.text_eq hk)

theorem range_eq_ok_iff : t.range = .ok r ↔ ∃ k, t.kind = .key k ∧ Tokenizer.rangeOf? k = some r := by
  unfold range
  cases t.kind with
  | key k =>
    cases hr : Tokenizer.rangeOf? k with
    | none => simp [hr]
    | some r' => simp [hr]
  | _ => simp

end Token

namespace Tokens

/-- A token of a text is an unquoted word of it and has been read as one, or it is none and has no reading as
a range. -/
theorem word_cases (text : String) (i : Nat) :
    let t := (ofText text).stream i
    (∃ word, t.kind = .key (Key.unquoted word) ∧ t.IsWordOf text word) ∨
      ((∀ word, ¬ t.IsWordOf text word) ∧ ∀ r, t.range ≠ .ok r) := by
  intro t
  have hnoKey : (∀ k, t.kind ≠ .key k) → (∀ word, ¬ t.IsWordOf text word) ∧ ∀ r, t.range ≠ .ok r := by
    intro hkind
    constructor
    · rintro word ⟨⟨k, hk, _⟩, _⟩
      exact hkind k hk
    · intro r hr
      obtain ⟨k, hk, _⟩ := Token.range_eq_ok_iff.mp hr
      exact hkind k hk
  rcases stream_mem_or_eq_endAt (ofText text) i with hmem | hend
  · change t ∈ (ofText text).list at hmem
    rw [ofText_eq_placed] at hmem
    obtain ⟨before, c, rest, hcuts, hkind⟩ := Lexeme.exists_first_of_mem_placed [] text.toList rfl t hmem
    obtain ⟨body, hbody⟩ := Lexeme.exists_source_first c rest
    rw [hbody] at hcuts
    by_cases hkey : ∃ k, t.kind = .key k
    · obtain ⟨k, hk⟩ := hkey
      rw [hk] at hkind
      rcases Lexeme.key_first hkind with ⟨hquote, quoted, rfl⟩ | ⟨hquote, word, rfl⟩
      · refine .inr ⟨?_, ?_⟩
        · rintro word ⟨_, before', c', body', after', hcuts', hc'⟩
          exact hc' ((hcuts.head_eq hcuts').symm.trans hquote)
        · intro r hr
          obtain ⟨k, hk', hrange⟩ := Token.range_eq_ok_iff.mp hr
          cases hk.symm.trans hk'
          cases (Tokenizer.rangeOf?_quoted quoted).symm.trans hrange
      · refine .inl ⟨word, hk, ⟨_, hk, ?_⟩, before, c, body, _, hcuts, hquote⟩
        rw [Key.text_unquoted, String.toList_ofList]
    · exact .inr (hnoKey fun k hk => hkey ⟨k, hk⟩)
  · refine .inr (hnoKey fun k hk => ?_)
    cases (congrArg Token.kind hend).symm.trans hk

/-- A token of a text is read as a range exactly if it is an unquoted word of the text in one of the forms of
the range, or one that goes on behind its dash without a number. -/
theorem range_stream_eq_ok_iff (text : String) (i : Nat) {r : Range} :
    ((ofText text).stream i).range = .ok r ↔ ∃ word, ((ofText text).stream i).IsWordOf text word ∧
      (Range.Form word r ∨ Range.OpensBefore word r) := by
  rcases word_cases text i with ⟨word, hkind, hword⟩ | ⟨hnoWord, hnoRange⟩
  · rw [Token.range_eq_ok_iff, hkind]
    constructor
    · rintro ⟨k, hk, hrange⟩
      cases hk
      exact ⟨word, hword, Tokenizer.rangeOf?_unquoted_eq_some_iff.mp hrange⟩
    · rintro ⟨word', hword', hform⟩
      obtain rfl := hword.unique hword'
      exact ⟨_, rfl, Tokenizer.rangeOf?_unquoted_eq_some_iff.mpr hform⟩
  · constructor
    · exact fun hrange => absurd hrange (hnoRange r)
    · rintro ⟨word, hword, _⟩
      exact absurd hword (hnoWord word)

end Tokens

/-! ### Reading a range -/

namespace Token

theorem range_eq_error {t : Token} {span : Span} (h : t.range = .error span) : span = t.span := by
  unfold range at h
  repeat' split at h
  all_goals cases h
  all_goals rfl

end Token

namespace Reading

/-- The first token is taken, and what it is read as is given or refused. -/
theorem run_takeRange_eq (message : String) (reader : Tokenizer) :
    (takeRange message).run reader =
      (reader.next.1.range.mapError (.unreadable message)).map (·, reader.next.2) := by
  show (ofExcept (reader.range.1.mapError (.unreadable message))).run reader.range.2 = _
  rw [Tokenizer.range_eq]
  cases reader.next.1.range <;> rfl

/-- What is read as a range of the first token of a text. It is read exactly if the token is an unquoted word
of the text in one of the forms of a range, or one whose dash is followed by something that is no number, which
does not count. Any other token is refused with the given message at its place, and in either case the token is
taken. -/
theorem run_takeRange (message text : String) :
    let reader := Tokenizer.ofText text
    let token := reader.next.1
    let outcome := (takeRange message).run reader
    (∀ r rest, outcome = .ok (r, rest) ↔ rest = reader.next.2 ∧
        ∃ word, token.IsWordOf text word ∧ (Range.Form word r ∨ Range.OpensBefore word r)) ∧
      ∀ e, outcome = .error e → e.message = message ∧ e.span? = some token.span := by
  intro reader token outcome
  have htoken : token = (Tokens.ofText text).stream 0 := by
    rw [Tokens.stream_zero]
    exact (Tokenizer.faces_ofText text).next_fst
  have houtcome : outcome = (token.range.mapError (.unreadable message)).map (·, reader.next.2) :=
    run_takeRange_eq message reader
  constructor
  · intro r rest
    rw [htoken, ← Tokens.range_stream_eq_ok_iff, ← htoken, houtcome]
    cases token.range with
    | ok r' =>
      constructor
      · intro h
        cases h
        exact ⟨rfl, rfl⟩
      · rintro ⟨rfl, h⟩
        cases h
        rfl
    | error span => exact ⟨nofun, fun h => nomatch h.2⟩
  · intro e he
    rw [houtcome] at he
    cases hrange : token.range with
    | ok r => rw [hrange] at he; cases he
    | error span =>
      rw [hrange] at he
      cases he
      exact ⟨rfl, congrArg some (Token.range_eq_error hrange)⟩

/-- A number, a dash, and a word behind it: read as everything from the number on, which is in none of the
forms of a range. -/
theorem range_of_unread_end :
    let reader := Tokenizer.ofText "5-junk"
    reader.range.1 = .ok (.between 5 Whole.greatest) ∧
      reader.next.1.IsWordOf "5-junk" "5-junk".toList ∧ ∀ r, ¬ Range.Form "5-junk".toList r := by
  have hopens : Range.OpensBefore "5-junk".toList (.between 5 Whole.greatest) :=
    ⟨['5'], "junk".toList, 5, by decide, Whole.read?_eq_some_iff.mp (by decide), by decide,
      Whole.read?_eq_none_iff.mp (by decide), rfl⟩
  refine ⟨?_, ?_, fun r => hopens.not_form r⟩
  · with_unfolding_all rfl
  · refine ⟨⟨Key.unquoted "5-junk".toList, by with_unfolding_all rfl, by decide⟩, [], '5', "-junk".toList, [],
      ?_, by decide⟩
    exact ⟨by decide, by with_unfolding_all rfl, by with_unfolding_all rfl⟩

end Reading

end MapQuery
