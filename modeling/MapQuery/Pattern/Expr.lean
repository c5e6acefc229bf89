import MapQuery.Character.Property

/-!
# Regular expressions

What a pattern means: sets of characters and conditions on places, put together by concatenation,
choice and repetition. A text is searched for all ways to match at once: the places reached so far are
the bits of one number, and each expression takes the places where it starts to those where it ends.

* `Expr` — a regular expression.
* `Look.holds` — a condition on a place, from the characters before and after it.
* `Expr.ends` — the places where an expression can end.
* `Expr.occursIn` — whether some part of a text matches.
-/

namespace MapQuery.Pattern

open Character (Ranges)

/-- A condition on a place in a text. -/
inductive Look where
  | textStart
  | textEnd
  /-- `crlf` lets a carriage return break a line too. -/
  | lineStart (crlf : Bool)
  | lineEnd (crlf : Bool)
  /-- `ascii` restricts words to ASCII characters. -/
  | boundary (ascii : Bool)
  | notBoundary (ascii : Bool)
  | wordStart (ascii : Bool)
  | wordEnd (ascii : Bool)
  | wordStartHalf (ascii : Bool)
  | wordEndHalf (ascii : Bool)
  deriving DecidableEq, Repr

/-- The characters of words, in ASCII. -/
def asciiWord : Ranges :=
  [(0x30, 0x39), (0x41, 0x5a), (0x5f, 0x5f), (0x61, 0x7a)]

/-- A character of a word. -/
def isWordChar (ascii : Bool) (c : Option Char) : Bool :=
  c.any fun c => (if ascii then asciiWord else Character.word).has c.toNat

namespace Look

/-- Whether a condition holds between two characters; `none` stands for an end of the text. -/
def holds (before after : Option Char) : Look → Bool
  | textStart => before.isNone
  | textEnd => after.isNone
  | lineStart false => before.all (· == '\n')
  | lineStart true => before.all fun c => c == '\n' || (c == '\r' && after != some '\n')
  | lineEnd false => after.all (· == '\n')
  | lineEnd true => after.all fun c => c == '\r' || (c == '\n' && before != some '\r')
  | boundary ascii => isWordChar ascii before != isWordChar ascii after
  | notBoundary ascii => isWordChar ascii before == isWordChar ascii after
  | wordStart ascii => !isWordChar ascii before && isWordChar ascii after
  | wordEnd ascii => isWordChar ascii before && !isWordChar ascii after
  | wordStartHalf ascii => !isWordChar ascii before
  | wordEndHalf ascii => !isWordChar ascii after

end Look

/-- A regular expression. -/
inductive Expr where
  | empty
  /-- One character of a set. -/
  | set (members : Ranges)
  | look (l : Look)
  | seq (first second : Expr)
  | either (first second : Expr)
  /-- At least `least` times, and at most `most` times where this is given. -/
  | repeated (least : Nat) (most : Option Nat) (body : Expr)
  /-- A part whose place is remembered; it matches as its body does. -/
  | remembered (body : Expr)
  deriving Repr

/-! ### Places as bits -/

/-- The places where a character of a set stands. -/
def setPlaces (members : Ranges) : List Char → Nat
  | [] => 0
  | c :: cs => 2 * setPlaces members cs + (members.has c.toNat).toNat

/-- The places where a condition holds, in a text that follows the character `before`. -/
def lookPlaces (l : Look) (before : Option Char) : List Char → Nat
  | [] => (l.holds before none).toNat
  | c :: cs => 2 * lookPlaces l (some c) cs + (l.holds before (some c)).toNat

/-- All places of a text, its end included. -/
def allPlaces : List Char → Nat
  | [] => 1
  | _ :: cs => 2 * allPlaces cs + 1

/-- A step taken `n` times; it ends early when a step changes nothing. -/
def stepped (step : Nat → Nat) : (n : Nat) → Nat → Nat
  | 0, s => s
  | n + 1, s => if step s = s then s else stepped step n (step s)

/-- The places reached by at most `n` steps; it ends early when a step adds no place. -/
def spread (step : Nat → Nat) : (n : Nat) → Nat → Nat
  | 0, s => s
  | n + 1, s => if s ||| step s = s then s else spread step n (s ||| step s)

namespace Expr

/-- The places where an expression can end that starts at one of the places `s`. As many steps as the
text has places reach whatever can be reached by any number of them. -/
def ends (text : List Char) : Expr → Nat → Nat
  | empty, s => s
  | set members, s => (s &&& setPlaces members text) <<< 1
  | look l, s => s &&& lookPlaces l none text
  | seq a b, s => ends text b (ends text a s)
  | either a b, s => ends text a s ||| ends text b s
  | repeated least none body, s =>
    spread (ends text body) (text.length + 1) (stepped (ends text body) least s)
  | repeated least (some most) body, s =>
    spread (ends text body) (min (most - least) (text.length + 1))
      (stepped (ends text body) least s)
  | remembered body, s => ends text body s

/-- Whether the expression matches some part of a text. -/
def occursIn (e : Expr) (text : List Char) : Bool :=
  e.ends text (allPlaces text) != 0

/-- Several expressions one after the other. -/
def sequence : List Expr → Expr
  | [] => empty
  | [e] => e
  | e :: es => seq e (sequence es)

/-- One of several expressions. -/
def choice : List Expr → Expr
  | [] => set []
  | [e] => e
  | e :: es => either e (choice es)

end Expr

end MapQuery.Pattern
