import MapQuery.Proofs.Token.Tokens

/-!
# Lexemes

A source is cut into lexemes from the left to the right: pieces that are tokens, and pieces that only
stand between tokens. What a piece is does not depend on where it stands.

* `Lexeme.first` — the first lexeme of a source, with what comes after it. `source_append_first` says that
  nothing of the source is lost.
* `Lexeme.all` — all lexemes of a source.
* `Lexeme.placed` — the tokens among the lexemes, each at its place.
* `Cursor.tokens_eq_placed` — these are the tokens that are read one at a time.
-/

namespace MapQuery

/-- A piece of a source: a token, or something between tokens. -/
structure Lexeme where
  source : List Char
  kind? : Option Token.Kind
  deriving DecidableEq, Repr, Inhabited

namespace Lexeme

open Cursor

/-! ### The first lexeme -/

/-- The first lexeme of a source that begins with `c`, and what comes after it. -/
def first (c : Char) (cs : List Char) : Lexeme × List Char :=
  if Text.isBlank c || c == '&' then (⟨[c], none⟩, cs)
  else
    match Token.Kind.ofPunctuation? c with
    | some kind => (⟨[c], some kind⟩, cs)
    | none =>
      if c == '"' then
        let body := Literal.raw endsQuote cs
        (⟨c :: (body.1 ++ body.2.take 1), some (.key (Key.quoted (Literal.unescape body.1)))⟩,
          body.2.drop 1)
      else if c == '-' && !startsWithDigit cs then (⟨[c], some .not⟩, cs)
      else
        let body := Literal.raw endsWord (c :: cs)
        (⟨body.1, word? (Literal.unescape body.1)⟩, body.2)

/-- The forms of a first lexeme, each with what comes after it: a sign between tokens, a token of one
character, a quoted literal, a negation, and a word. -/
inductive Begins (c : Char) (cs : List Char) : Lexeme × List Char → Prop
  | sign (h : (Text.isBlank c || c == '&') = true) : Begins c cs (⟨[c], none⟩, cs)
  | punctuation {kind : Token.Kind} (h : Token.Kind.ofPunctuation? c = some kind) :
    Begins c cs (⟨[c], some kind⟩, cs)
  | quoted (h : c = '"') : Begins c cs
    (⟨c :: ((Literal.raw endsQuote cs).1 ++ (Literal.raw endsQuote cs).2.take 1),
      some (.key (Key.quoted (Literal.unescape (Literal.raw endsQuote cs).1)))⟩,
      (Literal.raw endsQuote cs).2.drop 1)
  | negation (h : c = '-') : Begins c cs (⟨[c], some .not⟩, cs)
  | word (h : endsWord c = false) : Begins c cs
    (⟨(Literal.raw endsWord (c :: cs)).1, word? (Literal.unescape (Literal.raw endsWord (c :: cs)).1)⟩,
      (Literal.raw endsWord (c :: cs)).2)

theorem begins_first (c : Char) (cs : List Char) : Begins c cs (first c cs) := by
  unfold first
  by_cases hskip : (Text.isBlank c || c == '&') = true
  · rw [if_pos hskip]
    exact .sign hskip
  rw [if_neg hskip]
  cases hp : Token.Kind.ofPunctuation? c with
  | some kind => exact .punctuation hp
  | none =>
    dsimp only
    by_cases hq : (c == '"') = true
    · rw [if_pos hq]
      exact .quoted (beq_iff_eq.1 hq)
    rw [if_neg hq]
    by_cases hdash : (c == '-' && !startsWithDigit cs) = true
    · rw [if_pos hdash]
      exact .negation (beq_iff_eq.1 (Bool.and_eq_true_iff.1 hdash).1)
    · rw [if_neg hdash]
      exact .word (endsWord_eq_false hskip hp hq)

theorem source_first_ne_nil (c : Char) (cs : List Char) : (first c cs).1.source ≠ [] := by
  have hbegins := begins_first c cs
  generalize first c cs = r at hbegins
  cases hbegins with
  | word h => exact Literal.raw_ne_nil cs h
  | _ => exact List.cons_ne_nil _ _

/-- The first lexeme and the rest make up the source. -/
theorem source_append_first (c : Char) (cs : List Char) :
    (first c cs).1.source ++ (first c cs).2 = c :: cs := by
  have hbegins := begins_first c cs
  generalize first c cs = r at hbegins
  cases hbegins with
  | quoted h => rw [List.cons_append, List.append_assoc, List.take_append_drop, Literal.raw_append]
  | word h => exact Literal.raw_append endsWord (c :: cs)
  | _ => rfl

theorem length_first_lt (c : Char) (cs : List Char) : (first c cs).2.length < (c :: cs).length := by
  have happend := congrArg List.length (source_append_first c cs)
  have hpos := List.length_pos_iff.2 (source_first_ne_nil c cs)
  rw [List.length_append] at happend
  omega

/-! ### All lexemes -/

/-- All lexemes of a source. -/
def all : List Char → List Lexeme
  | [] => []
  | c :: cs => (first c cs).1 :: all (first c cs).2
termination_by cs => cs.length
decreasing_by exact length_first_lt c cs

theorem all_nil : all [] = [] := by
  rw [all]

theorem all_cons (c : Char) (cs : List Char) : all (c :: cs) = (first c cs).1 :: all (first c cs).2 := by
  rw [all]

/-- The tokens among lexemes, the first of which stands at a byte. -/
def placed : (position : Nat) → List Lexeme → List Token
  | _, [] => []
  | position, l :: ls =>
    let stop := position + Text.width l.source
    match l.kind? with
    | some kind => ⟨kind, ⟨position, stop⟩⟩ :: placed stop ls
    | none => placed stop ls

theorem placed_cons_some {l : Lexeme} {kind : Token.Kind} (h : l.kind? = some kind) (position : Nat)
    (ls : List Lexeme) :
    placed position (l :: ls) =
      ⟨kind, ⟨position, position + Text.width l.source⟩⟩ ::
        placed (position + Text.width l.source) ls := by
  simp only [placed, h]

theorem placed_cons_none {l : Lexeme} (h : l.kind? = none) (position : Nat) (ls : List Lexeme) :
    placed position (l :: ls) = placed (position + Text.width l.source) ls := by
  simp only [placed, h]

/-- The kinds of the tokens do not depend on where the lexemes stand. -/
theorem map_kind_placed (position : Nat) (ls : List Lexeme) :
    (placed position ls).map Token.kind = ls.filterMap kind? := by
  induction ls generalizing position with
  | nil => rfl
  | cons l ls ih =>
    cases h : l.kind? with
    | none => rw [placed_cons_none h, List.filterMap_cons_none h, ih]
    | some kind => rw [placed_cons_some h, List.filterMap_cons_some h, List.map_cons, ih]

end Lexeme

/-! ### Reading tokens -/

namespace Cursor

open Lexeme (first placed)

theorem utf8Size_of_ofPunctuation? {c : Char} {kind : Token.Kind}
    (h : Token.Kind.ofPunctuation? c = some kind) : c.utf8Size = 1 := by
  unfold Token.Kind.ofPunctuation? at h
  split at h <;> first | rfl | cases h

/-- The next token is the first lexeme, if it is a token, and otherwise comes after it. -/
theorem next_cons (c : Char) (cs : List Char) (position : Nat) :
    next ⟨c :: cs, position⟩ =
      match (first c cs).1.kind? with
      | some kind =>
        emit kind position (position + Text.width (first c cs).1.source) (first c cs).2
      | none => next ⟨(first c cs).2, position + Text.width (first c cs).1.source⟩ := by
  rw [next]
  unfold Lexeme.first
  dsimp only
  split
  · rfl
  · split
    · next kind hp =>
      simp only [hp, Text.width_cons, Text.width_nil, utf8Size_of_ofPunctuation? hp]
    · next hp =>
      simp only [hp]
      split
      · next hq =>
        have hwidth : c.utf8Size = 1 := by
          rw [beq_iff_eq] at hq
          rw [hq]
          rfl
        simp only [Text.width_cons, Text.width_append, hwidth, Nat.add_assoc]
      · split
        · next hdash =>
          have hwidth : c.utf8Size = 1 := by
            rw [Bool.and_eq_true, beq_iff_eq] at hdash
            rw [hdash.1]
            rfl
          simp only [Text.width_cons, Text.width_nil, hwidth]
        · rfl

theorem kind?_first_ne_eof (c : Char) (cs : List Char) : (first c cs).1.kind? ≠ some .eof := by
  have hbegins := Lexeme.begins_first c cs
  generalize first c cs = r at hbegins
  cases hbegins with
  | punctuation hp => exact fun heof => ofPunctuation?_ne_eof hp (Option.some.inj heof)
  | word h => exact fun heof => word?_ne_eof heof rfl
  | _ => nofun

/-- Sources with the same next token and the same rest have the same tokens. -/
theorem tokens_congr {c c' : Cursor} (h : c.next = c'.next) : c.tokens = c'.tokens := by
  rw [tokens, h, ← tokens]

/-- The tokens of a source, read one at a time, are the tokens among its lexemes. -/
theorem tokens_eq_placed (cs : List Char) (position : Nat) :
    tokens ⟨cs, position⟩ = ⟨placed position (Lexeme.all cs), position + Text.width cs⟩ := by
  fun_induction Lexeme.all cs generalizing position with
  | case1 => exact tokens_nil position
  | case2 c cs ih =>
    have hnext := next_cons c cs position
    have hwidth := congrArg Text.width (Lexeme.source_append_first c cs)
    rw [Text.width_append] at hwidth
    cases hkind : (first c cs).1.kind? with
    | none =>
      rw [hkind] at hnext
      rw [tokens_congr hnext, ih, Lexeme.placed_cons_none hkind, Nat.add_assoc, hwidth]
    | some kind =>
      rw [hkind] at hnext
      have hne : kind ≠ .eof := fun heof => kind?_first_ne_eof c cs (by rw [hkind, heof])
      have hnext' : (next ⟨c :: cs, position⟩).1.kind ≠ .eof := by rwa [hnext]
      rw [tokens, dif_neg hnext', hnext]
      dsimp only [emit]
      rw [ih, Lexeme.placed_cons_some hkind, Nat.add_assoc, hwidth]

end Cursor

/-- The tokens of a query are the tokens among its lexemes. -/
theorem Tokens.ofText_eq_placed (text : String) :
    Tokens.ofText text = ⟨Lexeme.placed 0 (Lexeme.all text.toList), Text.width text.toList⟩ := by
  rw [Tokens.ofText, Cursor.tokens_eq_placed, Nat.zero_add]

end MapQuery
