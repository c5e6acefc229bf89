import MapQuery.Token.Tokens

/-!
# Operations on the tokens of a query

Every operation of a token reader, which moves along a text and keeps at most one token in reserve, is an
operation on the list of tokens that it has in front of it.

* `Tokens.accept`, `Tokens.text?`, `Tokens.number`, `Tokens.range` — the operations on a list of tokens.
* `Tokens.ofText` — the tokens of a query.
* `Tokenizer.Faces` — a token reader has a list in front of it. Every operation of the reader gives what
  the operation on the list gives, and faces what the operation leaves of the list.
-/

namespace MapQuery

/-! ### One token -/

namespace Token

/-- The text of a key. -/
def text? (t : Token) : Option String :=
  match t.kind with
  | .key k => some k.text
  | _ => none

/-- The number that a token stands for; the failure is its place. -/
def number (t : Token) : Except Span Int :=
  match t.kind with
  | .key ⟨_, some n, _, false⟩ => .ok n
  | _ => .error t.span

/-- The range that a token stands for; the failure is its place. -/
def range (t : Token) : Except Span Range :=
  match t.kind with
  | .key k =>
    match Tokenizer.rangeOf? k with
    | some r => .ok r
    | none => .error t.span
  | _ => .error t.span

end Token

/-! ### Lists of tokens -/

namespace Tokens

/-- Takes the next token if it is of the given sort. -/
def accept (s : Tokens) (kind : Token.Kind) : Bool × Tokens :=
  if s.head.kind.sameSort kind then (true, s.tail) else (false, s)

/-- Takes the next token if it is a key, and gives its text. -/
def text? (s : Tokens) : Option String × Tokens :=
  match s.head.text? with
  | some x => (some x, s.tail)
  | none => (none, s)

/-- Takes the next token and reads it as a number. -/
def number (s : Tokens) : Except Span Int × Tokens :=
  (s.head.number, s.tail)

/-- Takes the next token and reads it as a range. -/
def range (s : Tokens) : Except Span Range × Tokens :=
  (s.head.range, s.tail)

theorem suffix_tail (s : Tokens) : s.tail.list <:+ s.list :=
  s.list.tail_suffix

theorem suffix_accept (s : Tokens) (kind : Token.Kind) : (s.accept kind).2.list <:+ s.list := by
  unfold accept
  split
  · exact s.suffix_tail
  · exact s.list.suffix_refl

theorem suffix_text? (s : Tokens) : s.text?.2.list <:+ s.list := by
  unfold text?
  split
  · exact s.suffix_tail
  · exact s.list.suffix_refl

theorem size_tail_le (s : Tokens) : s.tail.size ≤ s.size :=
  s.suffix_tail.length_le

theorem size_text?_le (s : Tokens) : s.text?.2.size ≤ s.size :=
  s.suffix_text?.length_le

theorem text?_of_key {s : Tokens} {k : Key} (h : s.head.kind = .key k) :
    s.text? = (some k.text, s.tail) := by
  simp only [text?, Token.text?, h]

theorem text?_of_not_key {s : Tokens} (h : ∀ k, s.head.kind ≠ .key k) : s.text? = (none, s) := by
  unfold text? Token.text?
  cases hkind : s.head.kind with
  | key k => exact absurd hkind (h k)
  | _ => rfl

end Tokens

/-- The tokens of a query. -/
def Tokens.ofText (text : String) : Tokens :=
  Cursor.tokens ⟨text.toList, 0⟩

theorem Tokens.size_ofText_le (text : String) : (Tokens.ofText text).size ≤ text.length := by
  have h := Cursor.size_tokens_le ⟨text.toList, 0⟩
  rwa [String.length_toList] at h

/-! ### Token readers -/

namespace Tokenizer

/-- The reader has these tokens in front of it: those of its cursor, or those of an earlier cursor whose
next token has been put back. -/
inductive Faces : Tokenizer → Tokens → Prop
  | fresh (c : Cursor) : Faces ⟨c, none⟩ c.tokens
  | putBack (c : Cursor) : Faces ⟨c.next.2, some c.next.1⟩ c.tokens

theorem faces_ofText (text : String) : (ofText text).Faces (.ofText text) :=
  .fresh _

variable {t : Tokenizer} {s : Tokens}

theorem Faces.exists_cursor (h : t.Faces s) :
    ∃ c : Cursor, s = c.tokens ∧ t.next = (c.next.1, ⟨c.next.2, none⟩) := by
  cases h with
  | fresh c => exact ⟨c, rfl, rfl⟩
  | putBack c => exact ⟨c, rfl, rfl⟩

/-- The next token is the head of the list. -/
theorem Faces.next_fst (h : t.Faces s) : t.next.1 = s.head := by
  obtain ⟨c, rfl, hnext⟩ := h.exists_cursor
  rw [hnext, c.head_tokens]

/-- Taking a token leaves the tail of the list. -/
theorem Faces.next_snd (h : t.Faces s) : t.next.2.Faces s.tail := by
  obtain ⟨c, rfl, hnext⟩ := h.exists_cursor
  rw [hnext, c.tail_tokens]
  exact .fresh c.next.2

/-- A token that is taken and put back leaves the list as it is. -/
theorem Faces.putBack_next (h : t.Faces s) : (t.next.2.putBack t.next.1).Faces s := by
  obtain ⟨c, rfl, hnext⟩ := h.exists_cursor
  rw [hnext]
  exact .putBack c

/-- The list is what a program finds when it looks ahead. -/
theorem Faces.tokens_eq (h : t.Faces s) : t.tokens = s := by
  cases h with
  | fresh c => rfl
  | putBack c =>
    show c.next.2.tokens.putBack c.next.1 = c.tokens
    rw [Cursor.tokens.eq_def c]
    rfl

theorem accept_eq (t : Tokenizer) (kind : Token.Kind) :
    t.accept kind =
      if t.next.1.kind.sameSort kind then (true, t.next.2)
      else (false, t.next.2.putBack t.next.1) := rfl

theorem Faces.accept (h : t.Faces s) (kind : Token.Kind) :
    (t.accept kind).1 = (s.accept kind).1 ∧ (t.accept kind).2.Faces (s.accept kind).2 := by
  rw [accept_eq, Tokens.accept, ← h.next_fst]
  split
  · exact ⟨rfl, h.next_snd⟩
  · exact ⟨rfl, h.putBack_next⟩

theorem text?_eq (t : Tokenizer) :
    t.text? =
      match t.next.1.text? with
      | some x => (some x, t.next.2)
      | none => (none, t.next.2.putBack t.next.1) := by
  unfold Tokenizer.text? Token.text?
  generalize t.next = n
  obtain ⟨⟨kind, span⟩, rest⟩ := n
  cases kind <;> rfl

theorem Faces.text? (h : t.Faces s) : t.text?.1 = s.text?.1 ∧ t.text?.2.Faces s.text?.2 := by
  rw [text?_eq, Tokens.text?, ← h.next_fst]
  split
  · exact ⟨rfl, h.next_snd⟩
  · exact ⟨rfl, h.putBack_next⟩

theorem number_eq (t : Tokenizer) : t.number = (t.next.1.number, t.next.2) := by
  unfold Tokenizer.number Token.number
  generalize t.next = n
  obtain ⟨⟨kind, span⟩, rest⟩ := n
  cases kind with
  | key k =>
    obtain ⟨text, number, rangeEnd, isRange⟩ := k
    cases number <;> cases isRange <;> rfl
  | _ => rfl

theorem Faces.number (h : t.Faces s) : t.number.1 = s.number.1 ∧ t.number.2.Faces s.number.2 := by
  rw [number_eq]
  exact ⟨congrArg Token.number h.next_fst, h.next_snd⟩

theorem range_eq (t : Tokenizer) : t.range = (t.next.1.range, t.next.2) := by
  unfold Tokenizer.range Token.range
  generalize t.next = n
  obtain ⟨⟨kind, span⟩, rest⟩ := n
  cases kind with
  | key k => cases hr : rangeOf? k <;> simp only [hr]
  | _ => rfl

theorem Faces.range (h : t.Faces s) : t.range.1 = s.range.1 ∧ t.range.2.Faces s.range.2 := by
  rw [range_eq]
  exact ⟨congrArg Token.range h.next_fst, h.next_snd⟩

end Tokenizer

end MapQuery
