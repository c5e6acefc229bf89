import MapQuery.Compiler.Reading
import MapQuery.Proofs.Token.Tokens

/-!
# Programs over lists of tokens

A program that reads tokens is a function of the tokens that are left: it gives a value and leaves some
of them. With a token reader it does the same.

* `Reading.along` — what a program makes of a list of tokens; `along_bind` for one program after another, and
  `along_ofFunction` for any function of the tokens.
* `suffix_along`, `size_along_le` — a program never puts tokens in.
* `run_eq_along` — a token reader gives the value that the list in front of it gives.
-/

namespace MapQuery

/-- A step that may fail has not, where the steps after it have given something. -/
theorem exists_of_bind_eq_ok {A B : Type} {x : Except Failure A} {f : A → Except Failure B} {b : B}
    (h : x >>= f = .ok b) : ∃ a, x = .ok a ∧ f a = .ok b := by
  cases x with
  | error e => cases h
  | ok a => exact ⟨a, rfl, h⟩

namespace Reading

variable {A B : Type}

/-- What a program makes of a list of tokens: its value and the tokens that it leaves. -/
def along : Reading A → Tokens → Except Failure (A × Tokens)
  | done a, s => .ok (a, s)
  | fail e, _ => .error e
  | next go, s => (go s.head).along s.tail
  | accept kind go, s => (go (s.accept kind).1).along (s.accept kind).2
  | text go, s => (go s.text?.1).along s.text?.2
  | number go, s => (go s.number.1).along s.number.2
  | range go, s => (go s.range.1).along s.range.2
  | ahead go, s => (go s).along s

/-! ### Parts of a program -/

/-- One program after another: the second one goes on with what the first one leaves. -/
theorem along_bind (p : Reading A) (f : A → Reading B) (s : Tokens) :
    (p >>= f).along s = p.along s >>= fun r => (f r.1).along r.2 := by
  show (p.bind f).along s = _
  induction p generalizing s with
  | done a => rfl
  | fail e => rfl
  | next go ih => exact ih _ _
  | accept kind go ih => exact ih _ _
  | text go ih => exact ih _ _
  | number go ih => exact ih _ _
  | range go ih => exact ih _ _
  | ahead go ih => exact ih _ _

/-- A choice by the next token, which is taken where it is of the sort. -/
theorem along_takeIf_bind (kind : Token.Kind) (f : Bool → Reading A) (s : Tokens) :
    (takeIf kind >>= f).along s =
      if s.head.kind.sameSort kind then (f true).along s.tail else (f false).along s := by
  show (f (s.accept kind).1).along (s.accept kind).2 = _
  rw [Tokens.accept]
  split <;> rfl

theorem along_takeText (s : Tokens) : takeText.along s = .ok s.text? := rfl

theorem along_takeNext (s : Tokens) : takeNext.along s = .ok (s.head, s.tail) := rfl

theorem along_ofExcept (r : Except Failure A) (s : Tokens) :
    (ofExcept r).along s = r >>= fun a => .ok (a, s) := by
  cases r <;> rfl

theorem along_skip (n : Nat) (s : Tokens) : (skip n).along s = .ok ((), s.drop n) := by
  induction n generalizing s with
  | zero => rfl
  | succ n ih =>
    rw [skip, along, ih]
    show Except.ok ((), Tokens.mk (s.list.tail.drop n) s.stop) = .ok ((), ⟨s.list.drop (n + 1), s.stop⟩)
    rw [List.drop_tail]

/-- Every function of the tokens that are left is that of a program, if it leaves an end of them. -/
theorem along_ofFunction (f : Tokens → Except Failure (A × Nat)) (s : Tokens) :
    (ofFunction f).along s = (f s).map fun r => (r.1, s.drop r.2) := by
  show (ofExcept (f s) >>= fun r => skip r.2 >>= fun _ => pure r.1).along s = _
  rw [along_bind, along_ofExcept]
  cases f s with
  | error e => rfl
  | ok r =>
    show (skip r.2 >>= fun _ => pure r.1).along s = _
    rw [along_bind, along_skip]
    rfl

/-! ### Whole programs -/

/-- What a program leaves is an end of what it was given. -/
theorem suffix_along {p : Reading A} {s rest : Tokens} {a : A} (h : p.along s = .ok (a, rest)) :
    rest.list <:+ s.list := by
  induction p generalizing s with
  | done b =>
    cases h
    exact rest.list.suffix_refl
  | fail e => cases h
  | next go ih => exact (ih _ h).trans s.suffix_tail
  | accept kind go ih => exact (ih _ h).trans (s.suffix_accept kind)
  | text go ih => exact (ih _ h).trans s.suffix_text?
  | number go ih => exact (ih _ h).trans s.suffix_tail
  | range go ih => exact (ih _ h).trans s.suffix_tail
  | ahead go ih => exact ih _ h

theorem size_along_le {p : Reading A} {s rest : Tokens} {a : A} (h : p.along s = .ok (a, rest)) :
    rest.size ≤ s.size :=
  (suffix_along h).length_le

/-- A token reader gives what the list of tokens in front of it gives. -/
theorem run_eq_along (p : Reading A) {t : Tokenizer} {s : Tokens} (h : t.Faces s) :
    (p.run t).map Prod.fst = (p.along s).map Prod.fst := by
  induction p generalizing t s with
  | done a => rfl
  | fail e => rfl
  | next go ih =>
    rw [run, along, h.next_fst]
    exact ih _ h.next_snd
  | accept kind go ih =>
    rw [run, along, (h.accept kind).1]
    exact ih _ (h.accept kind).2
  | text go ih =>
    rw [run, along, h.text?.1]
    exact ih _ h.text?.2
  | number go ih =>
    rw [run, along, h.number.1]
    exact ih _ h.number.2
  | range go ih =>
    rw [run, along, h.range.1]
    exact ih _ h.range.2
  | ahead go ih =>
    rw [run, along, h.tokens_eq]
    exact ih _ h

end Reading

end MapQuery
