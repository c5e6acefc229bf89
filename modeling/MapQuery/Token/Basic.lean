import MapQuery.Number.Whole
import MapQuery.Token.Span

/-!
# Tokens

The units of a query. Operators and punctuation stand for themselves; every other stretch of text is a
key, which carries its text and what the text means as a number or as a range.

* `Key.quoted`, `Key.unquoted` — a key from its text; only unquoted text is read as a number.
* `Token.Kind.shown` — how a token is named in a message.
-/

namespace MapQuery

/-- Literal text with its readings as a number. -/
structure Key where
  text : String
  /-- The whole text as a number, or the part before the dash of a range. -/
  number : Option Int
  /-- The part after the dash of a range. -/
  rangeEnd : Option Int
  /-- A dash stands after the first character. -/
  isRange : Bool
  deriving DecidableEq, Repr, Inhabited

namespace Key

/-- Quoted text is never a number. -/
def quoted (text : List Char) : Key :=
  ⟨String.ofList text, none, none, false⟩

/-- The text before and after the first dash that is not the first character. -/
def splitRange? : List Char → Option (List Char × List Char)
  | [] => none
  | c :: cs =>
    match cs.dropWhile (· ≠ '-') with
    | [] => none
    | _ :: after => some (c :: cs.takeWhile (· ≠ '-'), after)

/-- Unquoted text is read as a number, or, when it has an inner dash, as the two ends of a range. -/
def unquoted (text : List Char) : Key :=
  match splitRange? text with
  | some (before, after) =>
    ⟨String.ofList text, Whole.read? before, Whole.read? after, true⟩
  | none => ⟨String.ofList text, Whole.read? text, none, false⟩

end Key

namespace Token

/-- What a token is. -/
inductive Kind where
  | not
  | or
  | xor
  | leftParen
  | rightParen
  | colon
  | equals
  | tilde
  | lessThan
  | greaterThan
  | questionMark
  | key (k : Key)
  | eof
  deriving DecidableEq, Repr, Inhabited

namespace Kind

/-- How messages name a token. -/
def shown : Kind → String
  | not => "'-'"
  | or => "'|'"
  | xor => "'^'"
  | leftParen => "'('"
  | rightParen => "')'"
  | colon => "':'"
  | equals => "'='"
  | tilde => "'~'"
  | lessThan => "'<'"
  | greaterThan => "'>'"
  | questionMark => "'?'"
  | key k => "\"" ++ k.text ++ "\""
  | eof => "end of input"

/-- Two tokens are of the same sort; the text of a key does not count. -/
def sameSort : Kind → Kind → Bool
  | key _, key _ => true
  | a, b => a == b

/-- The one-character tokens. -/
def ofPunctuation? : Char → Option Kind
  | ':' => some colon
  | '=' => some equals
  | '~' => some tilde
  | '<' => some lessThan
  | '>' => some greaterThan
  | '(' => some leftParen
  | ')' => some rightParen
  | '|' => some or
  | '^' => some xor
  | '?' => some questionMark
  | _ => none

end Kind

end Token

/-- A unit of the query and where it stands. -/
structure Token where
  kind : Token.Kind
  span : Span
  deriving DecidableEq, Repr, Inhabited

end MapQuery
