import MapQuery.Proofs.Number.Numeral
import MapQuery.Proofs.Token.Lexemes

/-!
# Sources put together

A text can be put before another source without a change to its tokens, where it ends outside quotes and
not right after an escaping backslash, and where the source after it does not go on with its last word.

* `Literal.isClosed` — a text ends like that.
* `Literal.raw_append_of_isClosed` — a literal of such a text.
* `Lexeme.all_append` — the lexemes of the whole are the lexemes of both.
* `Lexeme.kinds`, `kinds_append`, `kinds_parenthesized` — the kinds of the tokens among them.
-/

namespace MapQuery

/-! ### Literals -/

namespace Literal

/-- A text ends outside quotes and not right after an escaping backslash. `isQuoted` says whether it begins
inside of quotes. -/
def isClosed (isQuoted : Bool) : List Char → Bool
  | [] => !isQuoted
  | ['\\'] => false
  | '\\' :: _ :: cs => isClosed isQuoted cs
  | c :: cs => if c = '"' then isClosed (!isQuoted) cs else isClosed isQuoted cs

theorem isClosed_cons_of_ne {c : Char} (h : c ≠ '\\') (isQuoted : Bool) (cs : List Char) :
    isClosed isQuoted (c :: cs) =
      if c = '"' then isClosed (!isQuoted) cs else isClosed isQuoted cs := by
  rw [isClosed.eq_4]
  · exact fun hc => absurd hc h
  · exact fun _ _ hc => absurd hc h

variable {ends : Char → Bool} {isQuoted : Bool} {cs : List Char}

/-- What comes after a literal is closed, if the text is and a quote ends the literal. -/
theorem isClosed_raw (hquote : ends '"' = true) (h : isClosed isQuoted cs = true) :
    isClosed isQuoted (raw ends cs).2 = true := by
  fun_induction raw ends cs with
  | case1 => exact h
  | case2 => cases h
  | case3 c cs ih => exact ih h
  | case4 c cs hlast hnext hends => exact h
  | case5 c cs hlast hnext hends ih =>
    have hc : c ≠ '"' := fun hc => hends (hc ▸ hquote)
    rw [isClosed_cons_of_ne (ne_backslash hlast hnext), if_neg hc] at h
    exact ih h

/-- A literal of a closed text stays as it is before a source in which no literal begins. -/
theorem raw_append_of_isClosed (hquote : ends '"' = true) (h : isClosed isQuoted cs = true)
    {rest : List Char} (hrest : (raw ends cs).2 = [] → raw ends rest = ([], rest)) :
    raw ends (cs ++ rest) = ((raw ends cs).1, (raw ends cs).2 ++ rest) := by
  fun_induction raw ends cs with
  | case1 => exact hrest rfl
  | case2 => cases h
  | case3 c cs ih =>
    have hih := ih h hrest
    simp only [List.cons_append]
    rw [raw, hih]
  | case4 c cs hlast hnext hends =>
    rw [List.cons_append, raw_cons_of_ne ends (ne_backslash hlast hnext), if_pos hends]
  | case5 c cs hlast hnext hends ih =>
    have hc : c ≠ '"' := fun hc => hends (hc ▸ hquote)
    rw [isClosed_cons_of_ne (ne_backslash hlast hnext), if_neg hc] at h
    rw [List.cons_append, raw_cons_of_ne ends (ne_backslash hlast hnext), if_neg hends, ih h hrest]

/-- A text that is closed and begins inside of quotes has a quote that ends its literal. -/
theorem exists_raw_of_isClosed (h : isClosed true cs = true) :
    ∃ after, (raw Cursor.endsQuote cs).2 = '"' :: after ∧ isClosed false after = true := by
  have hclosed : isClosed true (raw Cursor.endsQuote cs).2 = true := isClosed_raw rfl h
  cases hrest : (raw Cursor.endsQuote cs).2 with
  | nil =>
    rw [hrest] at hclosed
    cases hclosed
  | cons c after =>
    have hends : Cursor.endsQuote c = true := ends_of_raw_eq_cons hrest
    obtain rfl : c = '"' := beq_iff_eq.1 hends
    rw [hrest] at hclosed
    exact ⟨after, rfl, hclosed⟩

end Literal

/-! ### Lexemes -/

namespace Lexeme

open Cursor Literal

/-- A source in which no word goes on. -/
def EndsWords (rest : List Char) : Prop :=
  ∀ c cs, rest = c :: cs → endsWord c = true

theorem EndsWords.raw_eq {rest : List Char} (h : EndsWords rest) :
    raw endsWord rest = ([], rest) := by
  cases rest with
  | nil => rfl
  | cons c cs =>
    have hc : c ≠ '\\' := by
      rintro rfl
      cases h _ _ rfl
    rw [raw_cons_of_ne endsWord hc, if_pos (h _ _ rfl)]

theorem endsWord_eq_false_of_isDigit {c : Char} (h : Ascii.isDigit c = true) : endsWord c = false := by
  obtain ⟨hlow, hhigh⟩ := Ascii.toNat_of_isDigit h
  have hspecial : isSpecial c = false := by
    simp only [isSpecial, decide_eq_false_iff_not, List.mem_cons, List.not_mem_nil, or_false]
    rintro (rfl | rfl | rfl | rfl | rfl | rfl | rfl | rfl | rfl | rfl | rfl | rfl) <;>
      simp at hlow hhigh
  rw [endsWord, Text.isBlank_of_isDigit h, hspecial]
  rfl

theorem EndsWords.startsWithDigit_append {rest : List Char} (h : EndsWords rest) (cs : List Char) :
    startsWithDigit (cs ++ rest) = startsWithDigit cs := by
  cases cs with
  | cons c cs => rfl
  | nil =>
    cases rest with
    | nil => rfl
    | cons c rest =>
      show Ascii.isDigit c = false
      cases hdigit : Ascii.isDigit c with
      | false => rfl
      | true =>
        have hends := h c rest rfl
        rw [endsWord_eq_false_of_isDigit hdigit] at hends
        cases hends

/-- A character of a closed text that is neither a backslash nor a quote leaves it closed. -/
theorem isClosed_tail {c : Char} {cs : List Char} (h : isClosed false (c :: cs) = true) (hc : c ≠ '\\')
    (hquote : c ≠ '"') : isClosed false cs = true := by
  rwa [isClosed_cons_of_ne hc, if_neg hquote] at h

/-- The first lexeme of a closed text stays as it is before a source in which no word goes on, and what
comes after the lexeme is closed. -/
theorem first_append {c : Char} {cs rest : List Char} (h : isClosed false (c :: cs) = true)
    (hrest : EndsWords rest) :
    first c (cs ++ rest) = ((first c cs).1, (first c cs).2 ++ rest) ∧
      isClosed false (first c cs).2 = true := by
  unfold first
  by_cases hskip : (Text.isBlank c || c == '&') = true
  · rw [if_pos hskip, if_pos hskip]
    refine ⟨rfl, isClosed_tail h ?_ ?_⟩
    · rintro rfl
      cases hskip
    · rintro rfl
      cases hskip
  rw [if_neg hskip, if_neg hskip]
  cases hp : Token.Kind.ofPunctuation? c with
  | some kind =>
    refine ⟨rfl, isClosed_tail h ?_ ?_⟩
    · rintro rfl
      cases hp
    · rintro rfl
      cases hp
  | none =>
    dsimp only
    by_cases hq : (c == '"') = true
    · rw [if_pos hq, if_pos hq]
      have hbody : isClosed true cs = true := by
        rw [beq_iff_eq] at hq
        rwa [hq] at h
      obtain ⟨after, hafter, hclosed⟩ := exists_raw_of_isClosed hbody
      -- The quote that ends the literal is in the text, so that the literal does not get to its end.
      have hraw : raw endsQuote (cs ++ rest) = ((raw endsQuote cs).1, (raw endsQuote cs).2 ++ rest) := by
        refine raw_append_of_isClosed rfl hbody fun hnil => ?_
        rw [hafter] at hnil
        cases hnil
      rw [hraw, hafter]
      exact ⟨rfl, hclosed⟩
    rw [if_neg hq, if_neg hq, hrest.startsWithDigit_append]
    by_cases hdash : (c == '-' && !startsWithDigit cs) = true
    · rw [if_pos hdash, if_pos hdash]
      refine ⟨rfl, isClosed_tail h ?_ fun hc => hq (beq_iff_eq.2 hc)⟩
      rintro rfl
      cases hdash
    · -- A word may get to the end of the text, and there the source after it does not go on with it.
      rw [if_neg hdash, if_neg hdash, ← List.cons_append]
      rw [raw_append_of_isClosed rfl h fun _ => hrest.raw_eq]
      exact ⟨rfl, isClosed_raw rfl h⟩

/-- The lexemes of a closed text stay as they are before a source in which no word goes on. -/
theorem all_append {cs rest : List Char} (h : isClosed false cs = true) (hrest : EndsWords rest) :
    all (cs ++ rest) = all cs ++ all rest := by
  fun_induction all cs with
  | case1 => rfl
  | case2 c cs ih =>
    obtain ⟨hfirst, hclosed⟩ := first_append h hrest
    rw [List.cons_append, all_cons, hfirst, ih hclosed, List.cons_append]

/-! ### Kinds of tokens -/

/-- The kinds of the tokens among the lexemes of a source. -/
def kinds (cs : List Char) : List Token.Kind :=
  (all cs).filterMap kind?

theorem kinds_nil : kinds [] = [] := by
  rw [kinds, all_nil, List.filterMap_nil]

theorem kinds_cons (c : Char) (cs : List Char) :
    kinds (c :: cs) = (first c cs).1.kind?.toList ++ kinds (first c cs).2 := by
  rw [kinds, all_cons]
  cases h : (first c cs).1.kind? with
  | none => rw [List.filterMap_cons_none h]; rfl
  | some kind => rw [List.filterMap_cons_some h]; rfl

theorem kinds_append {cs rest : List Char} (h : isClosed false cs = true) (hrest : EndsWords rest) :
    kinds (cs ++ rest) = kinds cs ++ kinds rest := by
  rw [kinds, all_append h hrest, List.filterMap_append]
  rfl

/-- The end of input is not among the tokens of a source. -/
theorem eof_not_mem_kinds (cs : List Char) : .eof ∉ kinds cs := by
  fun_induction all cs with
  | case1 => rw [kinds_nil]; exact List.not_mem_nil
  | case2 c cs ih =>
    rw [kinds_cons, List.mem_append, Option.mem_toList]
    exact not_or.2 ⟨kind?_first_ne_eof c cs, ih⟩

/-- A closed text in parentheses, and what comes after them. -/
theorem kinds_parenthesized {cs : List Char} (h : isClosed false cs = true) (rest : List Char) :
    kinds ('(' :: (cs ++ ')' :: rest)) = .leftParen :: (kinds cs ++ .rightParen :: kinds rest) := by
  have hends : EndsWords (')' :: rest) := by
    intro c cs hc
    cases hc
    rfl
  have hopen : kinds ('(' :: (cs ++ ')' :: rest)) = .leftParen :: kinds (cs ++ ')' :: rest) :=
    kinds_cons _ _
  have hclose : kinds (')' :: rest) = .rightParen :: kinds rest := kinds_cons _ _
  rw [hopen, kinds_append h hends, hclose]

end Lexeme

/-- The kinds of the tokens of a query do not depend on their places. -/
theorem Tokens.kinds_ofText (text : String) : (ofText text).kinds = Lexeme.kinds text.toList := by
  rw [ofText_eq_placed]
  exact Lexeme.map_kind_placed 0 _

end MapQuery
