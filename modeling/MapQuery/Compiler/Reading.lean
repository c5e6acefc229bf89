import MapQuery.Query.Failure
import MapQuery.Token.Tokens

/-!
# Programs over tokens

How a part of a query is read: a tree of operations on the tokens that are left, each followed by what
is done with its answer. A program may also go by all the tokens that are left: how often a loop goes round
depends on them.

* `Reading` — such a program; `bind` runs one after another.
* `Reading.ofFunction` — the program of any function of the tokens that are left.
* `Reading.run` — what a program does with a token reader.
-/

namespace MapQuery

/-- A program that reads tokens and gives a value or fails. -/
inductive Reading (A : Type) where
  | done (a : A)
  | fail (f : Failure)
  /-- Takes the next token. -/
  | next (go : Token → Reading A)
  /-- Takes the next token if it is of a sort. -/
  | accept (kind : Token.Kind) (go : Bool → Reading A)
  /-- Takes the next token if it is a key, and gives its text. -/
  | text (go : Option String → Reading A)
  /-- Takes the next token, which should be a number. -/
  | number (go : Except Span Int → Reading A)
  /-- Takes the next token, which should be a range. -/
  | range (go : Except Span Range → Reading A)
  /-- Goes by the tokens that are left, and takes none of them. -/
  | ahead (go : Tokens → Reading A)

namespace Reading

variable {A B : Type}

/-- One program after another. -/
def bind : Reading A → (A → Reading B) → Reading B
  | done a, f => f a
  | fail e, _ => fail e
  | next go, f => next fun x => (go x).bind f
  | accept kind go, f => accept kind fun x => (go x).bind f
  | text go, f => text fun x => (go x).bind f
  | number go, f => number fun x => (go x).bind f
  | range go, f => range fun x => (go x).bind f
  | ahead go, f => ahead fun s => (go s).bind f

instance : Monad Reading where
  pure := done
  bind := bind

/-- A value that may be a failure. -/
def ofExcept : Except Failure A → Reading A
  | .ok a => done a
  | .error e => fail e

/-- The next token. -/
def takeNext : Reading Token :=
  next done

/-- Whether the next token is of a sort; it is taken if so. -/
def takeIf (kind : Token.Kind) : Reading Bool :=
  accept kind done

/-- The text of the next token, which is taken if it is a key. -/
def takeText : Reading (Option String) :=
  text done

/-- The next token as a number, or a failure with a message. -/
def takeNumber (message : String) : Reading Int :=
  number fun r => ofExcept (r.mapError (.unreadable message))

/-- The next token as a range, or a failure with a message. -/
def takeRange (message : String) : Reading Range :=
  range fun r => ofExcept (r.mapError (.unreadable message))

/-- Takes a number of tokens. -/
def skip : Nat → Reading Unit
  | 0 => done ()
  | n + 1 => next fun _ => skip n

/-- A function of the tokens that are left, which gives a value and says how many of them it has taken. -/
def ofFunction (f : Tokens → Except Failure (A × Nat)) : Reading A :=
  ahead fun s => do
    let (a, taken) ← ofExcept (f s)
    skip taken
    return a

/-- What a program does with a token reader: its value and what is left of the tokens. -/
def run : Reading A → Tokenizer → Except Failure (A × Tokenizer)
  | done a, t => .ok (a, t)
  | fail e, _ => .error e
  | next go, t => (go t.next.1).run t.next.2
  | accept kind go, t => (go (t.accept kind).1).run (t.accept kind).2
  | text go, t => (go t.text?.1).run t.text?.2
  | number go, t => (go t.number.1).run t.number.2
  | range go, t => (go t.range.1).run t.range.2
  | ahead go, t => (go t.tokens).run t

end Reading

end MapQuery
