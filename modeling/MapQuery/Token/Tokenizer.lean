import MapQuery.Range
import MapQuery.Token.Basic
import MapQuery.Token.Literal

/-!
# Reading tokens

Tokens are read from the query one at a time. Blanks, the sign `&` and the word `and` separate tokens
and are skipped. The reader can look at the next token and put it back, which is how optional parts of
a query are tried.

* `Cursor.next` — the next token of a source, with what comes after it.
* `Tokenizer` — a cursor with room for one token put back.
* `Tokenizer.next`, `accept`, `text?`, `number`, `range` — the operations on it. A failing `number` or
  `range` takes its token all the same.
-/

namespace MapQuery

/-- What is left of the source, and the byte offset at which it begins. -/
structure Cursor where
  rest : List Char
  position : Nat
  deriving DecidableEq, Repr, Inhabited

namespace Cursor

/-- The characters that end unquoted text, besides blanks. -/
def isSpecial (c : Char) : Bool :=
  c ∈ ['"', ':', '(', ')', '|', '^', '&', '?', '=', '~', '<', '>']

/-- Unquoted text ends at a special character or at a blank. -/
def endsWord (c : Char) : Bool :=
  isSpecial c || Text.isBlank c

/-- Quoted text ends at a quote. -/
def endsQuote (c : Char) : Bool :=
  c == '"'

/-- The source begins with a decimal digit. -/
def startsWithDigit : List Char → Bool
  | c :: _ => Ascii.isDigit c
  | [] => false

/-- The token of an unquoted word; `none` for the word `and`, which is skipped. -/
def word? (text : List Char) : Option Token.Kind :=
  if Ascii.sameWord text "not".toList then some .not
  else if Ascii.sameWord text "or".toList then some .or
  else if Ascii.sameWord text "xor".toList then some .xor
  else if Ascii.sameWord text "and".toList then none
  else some (.key (Key.unquoted text))

/-- A token that ends where the source goes on with `rest`. -/
def emit (kind : Token.Kind) (start stop : Nat) (rest : List Char) : Token × Cursor :=
  (⟨kind, ⟨start, stop⟩⟩, ⟨rest, stop⟩)

/-- A character that stands for no token, and neither separates tokens nor begins a quoted text, does not
end unquoted text either. -/
theorem endsWord_eq_false {c : Char} (hskip : ¬(Text.isBlank c || c == '&') = true)
    (hp : Token.Kind.ofPunctuation? c = none) (hq : ¬(c == '"') = true) : endsWord c = false := by
  simp only [Bool.or_eq_true, not_or, Bool.not_eq_true, beq_eq_false_iff_ne] at hskip
  simp only [beq_iff_eq] at hq
  simp only [endsWord, hskip.1, Bool.or_false]
  unfold Token.Kind.ofPunctuation? at hp
  split at hp <;> first | (cases hp; done) | skip
  simp_all [isSpecial]

set_option linter.unusedVariables false in
/-- The next token and the source after it. At the end of the source the token is the end of input. -/
def next (c : Cursor) : Token × Cursor :=
  match h : c.rest with
  | [] => emit .eof c.position c.position []
  | ch :: cs =>
    if hskip : Text.isBlank ch || ch == '&' then next ⟨cs, c.position + ch.utf8Size⟩
    else
      match hp : Token.Kind.ofPunctuation? ch with
      | some kind => emit kind c.position (c.position + 1) cs
      | none =>
        if hq : ch == '"' then
          let body := Literal.raw endsQuote cs
          emit (.key (Key.quoted (Literal.unescape body.1))) c.position
            (c.position + 1 + Text.width body.1 + Text.width (body.2.take 1)) (body.2.drop 1)
        else if ch == '-' && !startsWithDigit cs then emit .not c.position (c.position + 1) cs
        else
          let body := Literal.raw endsWord (ch :: cs)
          match word? (Literal.unescape body.1) with
          | some kind => emit kind c.position (c.position + Text.width body.1) body.2
          | none => next ⟨body.2, c.position + Text.width body.1⟩
termination_by c.rest.length
decreasing_by
  · simp [h]
  · have := Literal.length_raw_lt cs (endsWord_eq_false hskip hp hq)
    simp only [h]
    omega

end Cursor

/-- A token reader: a cursor, and the token that was put back, if any. -/
structure Tokenizer where
  cursor : Cursor
  pending : Option Token
  deriving DecidableEq, Repr, Inhabited

namespace Tokenizer

/-- The reader at the start of a query. -/
def ofText (text : String) : Tokenizer :=
  ⟨⟨text.toList, 0⟩, none⟩

/-- The next token: the one put back, or else one from the source. -/
def next (t : Tokenizer) : Token × Tokenizer :=
  match t.pending with
  | some token => (token, { t with pending := none })
  | none => (t.cursor.next.1, ⟨t.cursor.next.2, none⟩)

/-- Puts a token back. There is room for one. -/
def putBack (t : Tokenizer) (token : Token) : Tokenizer :=
  { t with pending := some token }

/-- Takes the next token if it is of the given sort, and otherwise leaves it. -/
def accept (t : Tokenizer) (kind : Token.Kind) : Bool × Tokenizer :=
  let (token, rest) := t.next
  if token.kind.sameSort kind then (true, rest) else (false, rest.putBack token)

/-- Takes the next token if it is a key, and gives its text. -/
def text? (t : Tokenizer) : Option String × Tokenizer :=
  let (token, rest) := t.next
  match token.kind with
  | .key k => (some k.text, rest)
  | _ => (none, rest.putBack token)

/-- Takes the next token and reads it as a number; the failure is the place of the token. -/
def number (t : Tokenizer) : Except Span Int × Tokenizer :=
  let (token, rest) := t.next
  match token.kind with
  | .key ⟨_, some n, _, false⟩ => (.ok n, rest)
  | _ => (.error token.span, rest)

/-- The range that a key stands for: `n` for itself, `-n` for zero up to `n`, `a-b` for the numbers
between two, and `a-` for `a` and everything above. -/
def rangeOf? (k : Key) : Option Range :=
  match k.isRange, k.number, k.rangeEnd with
  | false, some n, _ =>
    if 0 ≤ n then some (.between n n) else some (.between 0 (Whole.saturatingAbs n))
  | true, some a, none => some (.between a Whole.greatest)
  | true, some a, some b => some (.between a b)
  | _, none, _ => none

/-- Takes the next token and reads it as a range; the failure is the place of the token. -/
def range (t : Tokenizer) : Except Span Range × Tokenizer :=
  let (token, rest) := t.next
  match token.kind with
  | .key k =>
    match rangeOf? k with
    | some r => (.ok r, rest)
    | none => (.error token.span, rest)
  | _ => (.error token.span, rest)

end Tokenizer

end MapQuery
