import MapQuery.Text.Blank
import MapQuery.Token.Span

/-!
# Literal text

A literal runs until a character that ends it. A backslash takes away the special meaning of the
character after it, so that an escaped character never ends a literal; a backslash with nothing after
it stands for nothing.

* `raw` — the stretch of the source that a literal covers, and what comes after it.
* `unescape` — the text that such a stretch means.
* `escape` — a text as it is written between quotes; `unescape_escape` says that it means itself.
-/

namespace MapQuery.Literal

/-- The longest beginning of the source without an unescaped ending character, and the rest. -/
def raw (ends : Char → Bool) : List Char → List Char × List Char
  | [] => ([], [])
  | ['\\'] => (['\\'], [])
  | '\\' :: c :: cs => ('\\' :: c :: (raw ends cs).1, (raw ends cs).2)
  | c :: cs => if ends c then ([], c :: cs) else (c :: (raw ends cs).1, (raw ends cs).2)

/-- The meaning of a literal: each escaping backslash is dropped. -/
def unescape : List Char → List Char
  | [] => []
  | ['\\'] => []
  | '\\' :: c :: cs => c :: unescape cs
  | c :: cs => c :: unescape cs

/-- A character that is neither a backslash at the end nor one before another character is none. -/
theorem ne_backslash {c : Char} {cs : List Char} (hlast : c = '\\' → cs = [] → False)
    (hnext : ∀ d ds, c = '\\' → cs = d :: ds → False) : c ≠ '\\' := by
  rintro rfl
  cases cs with
  | nil => exact hlast rfl rfl
  | cons d ds => exact hnext d ds rfl rfl

/-- A character other than a backslash ends a literal or belongs to it. -/
theorem raw_cons_of_ne (ends : Char → Bool) {c : Char} (h : c ≠ '\\') (cs : List Char) :
    raw ends (c :: cs) =
      if ends c then ([], c :: cs) else (c :: (raw ends cs).1, (raw ends cs).2) := by
  rw [raw.eq_4]
  · exact fun hc => absurd hc h
  · exact fun _ _ hc => absurd hc h

/-- The literal and the rest make up the source. -/
theorem raw_append (ends : Char → Bool) (cs : List Char) : (raw ends cs).1 ++ (raw ends cs).2 = cs := by
  fun_induction raw ends cs with
  | case1 => rfl
  | case2 => rfl
  | case3 c cs ih => simp [ih]
  | case4 => rfl
  | case5 c cs _ _ _ ih => simp [ih]

/-- A source that starts with a character which does not end it has a literal of at least one
character. -/
theorem raw_ne_nil {ends : Char → Bool} {c : Char} (cs : List Char) (h : ends c = false) :
    (raw ends (c :: cs)).1 ≠ [] := by
  unfold raw
  split <;> simp_all

/-- A literal begins with the first character of its source, where that does not end it. -/
theorem exists_raw_eq_cons {ends : Char → Bool} {c : Char} (cs : List Char) (h : ends c = false) :
    ∃ w, (raw ends (c :: cs)).1 = c :: w := by
  unfold raw
  split <;> simp_all

/-- A literal stays as it is where the source is cut off after it. -/
theorem raw_append_take (ends : Char → Bool) (cs : List Char) (n : Nat) :
    raw ends ((raw ends cs).1 ++ (raw ends cs).2.take n) =
      ((raw ends cs).1, (raw ends cs).2.take n) := by
  fun_induction raw ends cs with
  | case1 => simp [raw]
  | case2 => simp [raw]
  | case3 c cs ih =>
    simp only [List.cons_append]
    rw [raw, ih]
  | case4 c cs hlast hnext hends =>
    cases n with
    | zero => rfl
    | succ n =>
      rw [List.nil_append, List.take_succ_cons, raw_cons_of_ne ends (ne_backslash hlast hnext),
        if_pos hends]
  | case5 c cs hlast hnext hends ih =>
    rw [List.cons_append, raw_cons_of_ne ends (ne_backslash hlast hnext), if_neg hends, ih]

/-- The rest begins with a character that ends the literal. -/
theorem ends_of_raw_eq_cons {ends : Char → Bool} {cs : List Char} {c : Char} {rest : List Char}
    (h : (raw ends cs).2 = c :: rest) : ends c = true := by
  fun_induction raw ends cs with
  | case1 => cases h
  | case2 => cases h
  | case3 d ds ih => exact ih h
  | case4 d ds hlast hnext hends =>
    cases h
    exact hends
  | case5 d ds hlast hnext hends ih => exact ih h

/-- The rest is shorter than the source when the first character does not end the literal. -/
theorem length_raw_lt {ends : Char → Bool} {c : Char} (cs : List Char) (h : ends c = false) :
    (raw ends (c :: cs)).2.length < (c :: cs).length := by
  have happ := congrArg List.length (raw_append ends (c :: cs))
  have hne := List.length_pos_iff.2 (raw_ne_nil cs h)
  simp only [List.length_append] at happ
  omega

/-- The rest is never longer than the source. -/
theorem length_raw_le (ends : Char → Bool) (cs : List Char) :
    (raw ends cs).2.length ≤ cs.length := by
  have happ := congrArg List.length (raw_append ends cs)
  simp only [List.length_append] at happ
  omega

/-- A text as it is written between quotes: a backslash before each backslash and each quote. -/
def escape : List Char → List Char
  | [] => []
  | c :: cs => if c = '\\' ∨ c = '"' then '\\' :: c :: escape cs else c :: escape cs

/-- An escaped text means the text. -/
theorem unescape_escape (cs : List Char) : unescape (escape cs) = cs := by
  induction cs with
  | nil => rfl
  | cons c cs ih =>
    by_cases h : c = '\\' ∨ c = '"'
    · simp [escape, h, unescape, ih]
    · have hb : c ≠ '\\' := fun e => h (Or.inl e)
      simp only [escape, h, if_false]
      rw [unescape]
      · rw [ih]
      · intro e; exact absurd e hb
      · intro d ds e; exact absurd e hb

end MapQuery.Literal
