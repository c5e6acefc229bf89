import MapQuery.Token.Tokenizer

/-!
# The tokens that are left

What a token reader has in front of it is a list of tokens, after which the end of input is found as often as
it is asked for.

* `Tokens` — such a list; `head` and `tail` are the next token and the others, `drop` leaves out several.
* `Cursor.tokens` — the tokens of a source.
* `Tokenizer.tokens` — the tokens in front of a reader.
-/

namespace MapQuery

/-! ### Lists of tokens -/

/-- The tokens that are left, and the byte at which the end of input is found after them. -/
structure Tokens where
  list : List Token
  stop : Nat
  deriving DecidableEq, Repr, Inhabited

namespace Tokens

/-- The number of tokens before the end of input. -/
def size (s : Tokens) : Nat :=
  s.list.length

/-- The next token. -/
def head (s : Tokens) : Token :=
  match s.list with
  | [] => ⟨.eof, ⟨s.stop, s.stop⟩⟩
  | t :: _ => t

/-- The tokens after the next one. Nothing comes after the end of input but itself. -/
def tail (s : Tokens) : Tokens :=
  ⟨s.list.tail, s.stop⟩

/-- The kinds of the tokens, whatever their places. -/
def kinds (s : Tokens) : List Token.Kind :=
  s.list.map Token.kind

/-- The tokens after a number of them. -/
def drop (s : Tokens) (n : Nat) : Tokens :=
  ⟨s.list.drop n, s.stop⟩

/-- With a token before them. Behind the end of input there are none. -/
def putBack (s : Tokens) (t : Token) : Tokens :=
  if t.kind = .eof then ⟨[], t.span.stop⟩ else ⟨t :: s.list, s.stop⟩

@[simp] theorem size_mk (l : List Token) (stop : Nat) : size ⟨l, stop⟩ = l.length := rfl

@[simp] theorem head_nil (stop : Nat) : head ⟨[], stop⟩ = ⟨.eof, ⟨stop, stop⟩⟩ := rfl

@[simp] theorem head_cons (t : Token) (l : List Token) (stop : Nat) : head ⟨t :: l, stop⟩ = t := rfl

@[simp] theorem tail_mk (l : List Token) (stop : Nat) : tail ⟨l, stop⟩ = ⟨l.tail, stop⟩ := rfl

end Tokens

/-! ### The tokens of a source -/

namespace Cursor

theorem ofPunctuation?_ne_eof {c : Char} {kind : Token.Kind}
    (h : Token.Kind.ofPunctuation? c = some kind) : kind ≠ .eof := by
  rintro rfl
  unfold Token.Kind.ofPunctuation? at h
  split at h <;> cases h

theorem word?_ne_eof {text : List Char} {kind : Token.Kind} (h : word? text = some kind) :
    kind ≠ .eof := by
  rintro rfl
  unfold word? at h
  repeat' split at h
  all_goals cases h

/-- Each token takes some of the source, except for the end of input, where nothing is left of it. -/
theorem next_cases (c : Cursor) :
    (∃ stop, c.next = emit .eof stop stop []) ∨
      c.next.1.kind ≠ .eof ∧ c.next.2.rest.length < c.rest.length := by
  fun_induction Cursor.next c with
  | case1 c h => exact Or.inl ⟨c.position, rfl⟩
  | case2 c ch cs h hskip ih =>
    rcases ih with ih | ⟨hkind, hlt⟩
    · exact Or.inl ih
    · refine Or.inr ⟨hkind, ?_⟩
      rw [h, List.length_cons]
      exact Nat.lt_succ_of_lt hlt
  | case3 c ch cs h hskip kind hp =>
    refine Or.inr ⟨ofPunctuation?_ne_eof hp, ?_⟩
    simp [emit, h]
  | case4 c ch cs h hskip hp hq body =>
    refine Or.inr ⟨by simp [emit], ?_⟩
    have hle : body.2.length ≤ cs.length := Literal.length_raw_le endsQuote cs
    simp only [emit, h, List.length_cons, List.length_drop]
    omega
  | case5 c ch cs h hskip hp hq hdash =>
    refine Or.inr ⟨by simp [emit], ?_⟩
    simp [emit, h]
  | case6 c ch cs h hskip hp hq hdash body kind hword =>
    refine Or.inr ⟨word?_ne_eof hword, ?_⟩
    rw [h]
    exact Literal.length_raw_lt cs (endsWord_eq_false hskip hp hq)
  | case7 c ch cs h hskip hp hq hdash body hword ih =>
    rcases ih with ih | ⟨hkind, hlt⟩
    · exact Or.inl ih
    · refine Or.inr ⟨hkind, ?_⟩
      rw [h]
      exact Nat.lt_trans hlt (Literal.length_raw_lt cs (endsWord_eq_false hskip hp hq))

theorem length_next_lt {c : Cursor} (h : c.next.1.kind ≠ .eof) :
    c.next.2.rest.length < c.rest.length := by
  rcases c.next_cases with ⟨stop, hstop⟩ | ⟨_, hlt⟩
  · exact absurd (by rw [hstop]; rfl) h
  · exact hlt

/-- All tokens of a source. -/
def tokens (c : Cursor) : Tokens :=
  if _h : c.next.1.kind = .eof then ⟨[], c.next.1.span.stop⟩
  else ⟨c.next.1 :: c.next.2.tokens.list, c.next.2.tokens.stop⟩
termination_by c.rest.length
decreasing_by all_goals exact length_next_lt _h

/-- The first token of a source is the next one. -/
theorem head_tokens (c : Cursor) : c.tokens.head = c.next.1 := by
  rw [tokens]
  split
  · next heof =>
    rcases c.next_cases with ⟨stop, hstop⟩ | ⟨hne, _⟩
    · simp [hstop, emit]
    · exact absurd heof hne
  · rfl

theorem tokens_nil (stop : Nat) : tokens ⟨[], stop⟩ = ⟨[], stop⟩ := by
  have hnext : next ⟨[], stop⟩ = emit .eof stop stop [] := by rw [next]
  rw [tokens, dif_pos (by rw [hnext]; rfl), hnext]
  rfl

/-- The other tokens of a source are those of what comes after the next one. -/
theorem tail_tokens (c : Cursor) : c.tokens.tail = c.next.2.tokens := by
  rw [tokens]
  split
  · next heof =>
    rcases c.next_cases with ⟨stop, hstop⟩ | ⟨hne, _⟩
    · simp [hstop, emit, tokens_nil]
    · exact absurd heof hne
  · rfl

/-- A source has no more tokens than characters. -/
theorem size_tokens_le (c : Cursor) : c.tokens.size ≤ c.rest.length := by
  fun_induction Cursor.tokens c with
  | case1 c h => exact Nat.zero_le _
  | case2 c h ih1 =>
    have hlt := length_next_lt h
    simp only [Tokens.size, List.length_cons] at ih1 ⊢
    omega

end Cursor

/-! ### The tokens of a reader -/

/-- The tokens in front of a reader, the first of which may be one that has been put back. -/
def Tokenizer.tokens (t : Tokenizer) : Tokens :=
  match t.pending with
  | some token => t.cursor.tokens.putBack token
  | none => t.cursor.tokens

end MapQuery
