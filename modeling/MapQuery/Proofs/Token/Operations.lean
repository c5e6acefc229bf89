import MapQuery.Proofs.Token.Tokens

/-!
# Operations of a token reader

The parts of a query ask a token reader for tokens in many ways, in any order. The reader keeps one token
in reserve at most, and takes the tokens of its text one after the other all the same.

* `Tokenizer.Operation`, `Answer` — what a reader can be asked, and what it answers.
* `Tokenizer.perform`, `performAll` — one operation, and one after the other. `perform?` and
  `performAll?` do the same, but refuse to put a token back where another one waits.
* `Operation.answer`, `Operation.takes`, `Operation.follow` — what the operations amount to on a sequence
  of tokens that has no end.
* `performAll_follows_stream` — a reader does what they amount to on the tokens of its text.
-/

namespace MapQuery

/-! ### Sequences of tokens -/

/-- The end of input, where a text ends. -/
def Token.endAt (stop : Nat) : Token :=
  ⟨.eof, ⟨stop, stop⟩⟩

/-- The tokens that are left, and the end of input as often as it is asked for. -/
def Tokens.stream (s : Tokens) (i : Nat) : Token :=
  (s.list[i]?).getD (.endAt s.stop)

theorem Tokens.stream_zero (s : Tokens) : s.stream 0 = s.head := by
  obtain ⟨list, stop⟩ := s
  cases list <;> rfl

theorem Tokens.stream_succ (s : Tokens) (i : Nat) : s.stream (i + 1) = s.tail.stream i := by
  obtain ⟨list, stop⟩ := s
  cases list <;> rfl

/-- What a sequence of tokens gives is one of them, or the end of input. -/
theorem Tokens.stream_mem_or_eq_endAt (s : Tokens) (i : Nat) :
    s.stream i ∈ s.list ∨ s.stream i = .endAt s.stop := by
  unfold stream
  cases h : s.list[i]? with
  | none => exact .inr rfl
  | some t => exact .inl (List.mem_of_getElem? h)

namespace Tokenizer

/-- The tokens that a reader gives when it is asked for the next one again and again. -/
def stream (t : Tokenizer) : Nat → Token
  | 0 => t.next.1
  | i + 1 => t.next.2.stream i

/-- A reader gives the tokens in front of it. -/
theorem Faces.stream_eq {t : Tokenizer} {s : Tokens} (h : t.Faces s) : t.stream = s.stream := by
  funext i
  induction i generalizing t s with
  | zero => rw [stream, s.stream_zero, h.next_fst]
  | succ i ih => rw [stream, s.stream_succ, ih h.next_snd]

/-! ### Operations -/

/-- What a reader can be asked. -/
inductive Operation where
  | next
  | accept (kind : Token.Kind)
  | text
  | number
  | range
  deriving DecidableEq, Repr

/-- What a reader answers. -/
inductive Answer where
  | token (t : Token)
  | accepted (isTaken : Bool)
  | text (text : Option String)
  | number (r : Except Span Int)
  | range (r : Except Span Range)

/-- One operation. -/
def perform (t : Tokenizer) : Operation → Answer × Tokenizer
  | .next => (.token t.next.1, t.next.2)
  | .accept kind => (.accepted (t.accept kind).1, (t.accept kind).2)
  | .text => (.text t.text?.1, t.text?.2)
  | .number => (.number t.number.1, t.number.2)
  | .range => (.range t.range.1, t.range.2)

/-- One operation after the other. -/
def performAll (t : Tokenizer) : List Operation → List Answer × Tokenizer
  | [] => ([], t)
  | o :: ops =>
    let done := (t.perform o).2.performAll ops
    ((t.perform o).1 :: done.1, done.2)

/-! ### Putting back -/

/-- Puts a token back, unless another one waits, whose place it would take. -/
def putBack? (t : Tokenizer) (token : Token) : Option Tokenizer :=
  match t.pending with
  | none => some (t.putBack token)
  | some _ => none

/-- One operation, unless it puts a token in the place of another one. -/
def perform? (t : Tokenizer) : Operation → Option (Answer × Tokenizer)
  | .accept kind =>
    if t.next.1.kind.sameSort kind then some (.accepted true, t.next.2)
    else (t.next.2.putBack? t.next.1).map (.accepted false, ·)
  | .text =>
    match t.next.1.text? with
    | some x => some (.text (some x), t.next.2)
    | none => (t.next.2.putBack? t.next.1).map (.text none, ·)
  | o => some (t.perform o)

/-- One operation after the other, unless one puts a token in the place of another one. -/
def performAll? (t : Tokenizer) : List Operation → Option (List Answer × Tokenizer)
  | [] => some ([], t)
  | o :: ops =>
    (t.perform? o).bind fun first =>
      (first.2.performAll? ops).map fun done => (first.1 :: done.1, done.2)

/-- No token waits once the next one has been taken. -/
theorem pending_next (t : Tokenizer) : t.next.2.pending = none := by
  obtain ⟨cursor, pending⟩ := t
  cases pending <;> rfl

theorem putBack?_next (t : Tokenizer) :
    t.next.2.putBack? t.next.1 = some (t.next.2.putBack t.next.1) := by
  rw [putBack?, pending_next]

theorem perform?_eq (t : Tokenizer) (o : Operation) : t.perform? o = some (t.perform o) := by
  cases o with
  | accept kind =>
    rw [perform?, perform, accept_eq, putBack?_next]
    split <;> rfl
  | text =>
    rw [perform?, perform, text?_eq, putBack?_next]
    cases t.next.1.text? <;> rfl
  | _ => rfl

theorem performAll?_eq (t : Tokenizer) (ops : List Operation) :
    t.performAll? ops = some (t.performAll ops) := by
  induction ops generalizing t with
  | nil => rfl
  | cons o ops ih => rw [performAll?, perform?_eq, Option.bind_some, ih, Option.map_some, performAll]

/-! ### What the operations amount to -/

namespace Operation

/-- The answer where a token is the next one. -/
def answer (token : Token) : Operation → Answer
  | .next => .token token
  | .accept kind => .accepted (token.kind.sameSort kind)
  | .text => .text token.text?
  | .number => .number token.number
  | .range => .range token.range

/-- Whether an operation takes the next token. Only where a sort of token or a key is asked for can it be
left, and it is where it is something else. -/
def takes (token : Token) : Operation → Bool
  | .accept kind => token.kind.sameSort kind
  | .text => token.text?.isSome
  | .next | .number | .range => true

/-- The answers of operations, one after the other, where `n` tokens of a sequence have been taken, and
how many have been taken in the end. -/
def follow (tokens : Nat → Token) (n : Nat) : List Operation → List Answer × Nat
  | [] => ([], n)
  | o :: ops =>
    let done := follow tokens (if o.takes (tokens n) then n + 1 else n) ops
    (o.answer (tokens n) :: done.1, done.2)

end Operation

variable {t : Tokenizer} {s : Tokens}

/-- An operation answers by the next token, and leaves the list or its tail. -/
theorem Faces.perform (h : t.Faces s) (o : Operation) :
    (t.perform o).1 = o.answer s.head ∧
      (t.perform o).2.Faces (if o.takes s.head then s.tail else s) := by
  cases o with
  | next => exact ⟨congrArg Answer.token h.next_fst, h.next_snd⟩
  | accept kind =>
    obtain ⟨hanswer, hfaces⟩ := h.accept kind
    rw [Tokenizer.perform, hanswer, Operation.answer, Operation.takes]
    unfold Tokens.accept at hfaces ⊢
    split at hfaces
    · next hsort =>
      rw [hsort]
      exact ⟨rfl, hfaces⟩
    · next hsort =>
      rw [Bool.not_eq_true] at hsort
      rw [hsort]
      exact ⟨rfl, hfaces⟩
  | text =>
    obtain ⟨hanswer, hfaces⟩ := h.text?
    rw [Tokenizer.perform, hanswer, Operation.answer, Operation.takes]
    unfold Tokens.text? at hfaces ⊢
    cases htext : s.head.text? with
    | none =>
      rw [htext] at hfaces
      exact ⟨rfl, hfaces⟩
    | some x =>
      rw [htext] at hfaces
      exact ⟨rfl, hfaces⟩
  | number => exact ⟨congrArg Answer.number h.number.1, h.number.2⟩
  | range => exact ⟨congrArg Answer.range h.range.1, h.range.2⟩

/-- Operations answer by the tokens of the list in front of the reader, and leave what they have not taken
of it. The induction is on the operations, for every number of tokens that have been taken before. -/
theorem Faces.performAll {tokens : Nat → Token} {n : Nat} (h : t.Faces s)
    (hs : ∀ i, s.stream i = tokens (n + i)) (ops : List Operation) :
    (t.performAll ops).1 = (Operation.follow tokens n ops).1 ∧
      ∀ i, (t.performAll ops).2.stream i = tokens ((Operation.follow tokens n ops).2 + i) := by
  induction ops generalizing t s n with
  | nil => exact ⟨rfl, fun i => by rw [Tokenizer.performAll, h.stream_eq, hs]; rfl⟩
  | cons o ops ih =>
    have hhead : s.head = tokens n := s.stream_zero.symm.trans (hs 0)
    obtain ⟨hanswer, hfaces⟩ := h.perform o
    rw [hhead] at hanswer hfaces
    -- The list that is left begins where the count of taken tokens says.
    have hrest : ∀ i, (if o.takes (tokens n) then s.tail else s).stream i =
        tokens ((if o.takes (tokens n) then n + 1 else n) + i) := by
      intro i
      split
      · rw [← s.stream_succ, hs, Nat.add_assoc, Nat.add_comm 1 i]
      · exact hs i
    obtain ⟨hanswers, hleft⟩ := ih hfaces hrest
    refine ⟨?_, hleft⟩
    rw [Tokenizer.performAll, Operation.follow, hanswer, hanswers]

/-- Whatever a reader is asked, in any order, it takes the tokens of its text one after the other. Asked
for nothing but the next one, it gives the tokens of the text and then the end of input again and again;
every operation answers by the first of these that has not been taken, and takes it or leaves it; and what
the reader gives afterwards are the ones that have not been taken. No token is ever put back in the place
of another one that waits. -/
theorem performAll_follows_stream (text : String) (ops : List Operation) :
    let plain := (ofText text).stream
    let done := (ofText text).performAll ops
    let followed := Operation.follow plain 0 ops
    plain = (Tokens.ofText text).stream ∧
      done.1 = followed.1 ∧
      (∀ i, done.2.stream i = plain (followed.2 + i)) ∧
      (ofText text).performAll? ops = some done := by
  have hplain := (faces_ofText text).stream_eq
  have hstart : ∀ i, (Tokens.ofText text).stream i = (ofText text).stream (0 + i) := fun i => by
    rw [hplain, Nat.zero_add]
  obtain ⟨hanswers, hleft⟩ := (faces_ofText text).performAll hstart ops
  exact ⟨hplain, hanswers, hleft, performAll?_eq _ ops⟩

end Tokenizer

end MapQuery
