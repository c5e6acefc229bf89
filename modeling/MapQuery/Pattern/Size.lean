import MapQuery.Pattern.Expr

/-!
# The size of a regular expression

A regular expression is refused when a machine for it would take too much memory. The size is reckoned as
that of a machine over bytes: a state takes 32 bytes, each way out of a state that leads by a range of bytes
eight more, and each way out of a state that leads by nothing four more. A counted repetition is
written out. Around an expression the machine has states that remember where a match begins and ends,
one for the match, and before these some that pass over the text in front of it.

* `Utf8.sequences` — the sequences of byte ranges for a range of characters.
* `Utf8.size` — the machine of a set of characters, which shares equal beginnings of sequences.
* `Expr.size`, `Expr.machineSize` — the bytes that an expression takes, and those of its machine.
* `sizeLimit` — the greatest size allowed.
-/

namespace MapQuery.Pattern

open Character (Ranges)

/-- The bytes that a state takes by itself. -/
def stateSize : Nat := 32

/-- The bytes of one way out of a state that leads by bytes. -/
def byteWaySize : Nat := 8

/-- The bytes of one way out of a state that leads by nothing. -/
def emptyWaySize : Nat := 4

/-- The greatest size of a regular expression. -/
def sizeLimit : Nat := 10485760

namespace Utf8

/-- A range of bytes for each byte of a character. -/
abbrev Sequence := List (Nat × Nat)

/-- The bytes of a character by its number. -/
def bytes (n : Nat) : List Nat :=
  if n < 0x80 then [n]
  else if n < 0x800 then [0xc0 + n / 64, 0x80 + n % 64]
  else if n < 0x10000 then [0xe0 + n / 4096, 0x80 + n / 64 % 64, 0x80 + n % 64]
  else [0xf0 + n / 262144, 0x80 + n / 4096 % 64, 0x80 + n / 64 % 64, 0x80 + n % 64]

/-- Where a range has to be cut so that its numbers have equally many bytes and none is a surrogate:
the last number of the first part and the first number of the second. -/
def lengthCut? (first last : Nat) : Option (Nat × Nat) :=
  [(0xd7ff, 0xe000), (0x7f, 0x80), (0x7ff, 0x800), (0xffff, 0x10000)].find? fun cut =>
    first ≤ cut.1 && cut.1 < last

/-- Where a range has to be cut so that the bytes after the first differing one are free. -/
def blockCut? (first last : Nat) : Option (Nat × Nat) :=
  [64, 4096, 262144].findSome? fun width =>
    if first / width = last / width then none
    else if first % width ≠ 0 then
      some ((first / width + 1) * width - 1, (first / width + 1) * width)
    else if last % width ≠ width - 1 then
      some (last / width * width - 1, last / width * width)
    else none

/-- The sequences of byte ranges for the numbers from `first` to `last`; `fuel` bounds the number of
cuts, of which a range needs fewer than sixteen. -/
def sequences : (fuel : Nat) → (first last : Nat) → List Sequence
  | 0, _, _ => []
  | fuel + 1, first, last =>
    if last < first then []
    else
      match (lengthCut? first last).orElse fun _ => blockCut? first last with
      | some (a, b) => sequences fuel first a ++ sequences fuel b last
      | none => [(bytes first).zip (bytes last)]

/-- How many elements two lists have in common at their start. -/
def common : Sequence → Sequence → Nat
  | a :: as, b :: bs => if a = b then common as bs + 1 else 0
  | _, _ => 0

/-- The states of a machine that shares the equal beginnings of neighbours. -/
def states : (before : Sequence) → List Sequence → Nat
  | _, [] => 0
  | before, s :: ss => s.length - common before s + states s ss

/-- The size of a machine for a set of characters. -/
def size (r : Ranges) : Nat :=
  let all := r.flatMap fun s => sequences 32 s.1 s.2
  (2 + states [] all) * stateSize + all.length * emptyWaySize

end Utf8

/-- The size of a set. A single character takes a state for each byte. -/
def setSize (r : Ranges) : Nat :=
  match r with
  | [] => stateSize
  | (a, b) :: rest =>
    if a = b ∧ rest = [] then stateSize * (Utf8.bytes a).length
    else if r.isAscii then 2 * stateSize + byteWaySize * r.length
    else Utf8.size r

namespace Expr

/-- The expression matches nothing but places. -/
def isZeroWidth : Expr → Bool
  | empty => true
  | set _ => false
  | look _ => true
  | seq a b => isZeroWidth a && isZeroWidth b
  | either a b => isZeroWidth a && isZeroWidth b
  | repeated _ most body => most == some 0 || isZeroWidth body
  | remembered body => isZeroWidth body

/-- How often an expression is written out. More than once makes no difference to a place. -/
def copies (body : Expr) (n : Nat) : Nat :=
  if body.isZeroWidth then min n 1 else n

/-- The bytes that an expression takes. -/
def size : Expr → Nat
  | empty => 0
  | set members => setSize members
  | look _ => stateSize
  | seq a b => size a + size b
  | either a b => 2 * stateSize + 2 * emptyWaySize + size a + size b
  | repeated least none body =>
    copies body (max least 1) * size body + stateSize + 2 * emptyWaySize
  | repeated least (some most) body =>
    copies body least * size body + stateSize +
      copies body (most - least) * (size body + stateSize + 2 * emptyWaySize)
  | remembered body => 2 * stateSize + size body

/-- Every match begins with a look at the start of the text. -/
def isAnchored : Expr → Bool
  | look .textStart => true
  | seq a b => isAnchored a || isZeroWidth a && isAnchored b
  | either a b => isAnchored a && isAnchored b
  | repeated least _ body => least != 0 && isAnchored body
  | remembered body => isAnchored body
  | _ => false

/-- The bytes of a machine for an expression. Unless a match can only begin with the text, any bytes may be
passed over before it. -/
def machineSize (e : Expr) : Nat :=
  let passing := if e.isAnchored then stateSize else 3 * stateSize + byteWaySize + 2 * emptyWaySize
  e.size + 3 * stateSize + passing

end Expr

end MapQuery.Pattern
