/-!
# Sets of characters

A set of code points is a list of inclusive ranges, in order and apart from each other. The ranges of
a property are written as text: code points in hexadecimal, with `a-b` for a range and `a/b` for every
second code point from `a` to `b`.

* `Ranges.normal` — any list of ranges, put in order and joined.
* `Ranges.union`, `complement`, `inter`, `diff`, `symmDiff` — the operations on sets.
* `Ranges.ofText` — the ranges of such a text.
-/

namespace MapQuery.Character

/-- A set of code points. -/
abbrev Ranges := List (Nat × Nat)

namespace Ranges

/-- The greatest code point. -/
def top : Nat :=
  0x10ffff

/-- Whether a code point lies in one of the ranges, which are in order. -/
def has : Ranges → Nat → Bool
  | [], _ => false
  | (a, b) :: rs, n => if n < a then false else n ≤ b || has rs n

/-- Adds a range in front of ranges that start no earlier. -/
def push (r : Nat × Nat) : Ranges → Ranges
  | [] => [r]
  | s :: rs => if s.1 ≤ r.2 + 1 then push (r.1, max r.2 s.2) rs else r :: s :: rs

/-- Ranges in order that may touch or overlap, joined where they do. -/
def join (rs : Ranges) : Ranges :=
  rs.foldr push []

/-- Puts a range before the first one that starts no earlier. -/
def place (r : Nat × Nat) : Ranges → Ranges
  | [] => [r]
  | s :: rs => if r.1 ≤ s.1 then r :: s :: rs else s :: place r rs

/-- Any ranges, put in order and joined. -/
def normal (rs : Ranges) : Ranges :=
  join (rs.foldr place [])

/-- Everything in one of two sets. -/
def union (a b : Ranges) : Ranges :=
  join (a.merge b fun r s => r.1 ≤ s.1)

/-- The gaps from `start` on. -/
def gaps (start : Nat) : Ranges → Ranges
  | [] => if start ≤ top then [(start, top)] else []
  | (a, b) :: rs => if start < a then (start, a - 1) :: gaps (b + 1) rs else gaps (b + 1) rs

/-- Everything outside the set. -/
def complement (a : Ranges) : Ranges :=
  gaps 0 a

/-- Everything in both sets. -/
def inter (a b : Ranges) : Ranges :=
  complement (union (complement a) (complement b))

/-- Everything in the first set and not in the second. -/
def diff (a b : Ranges) : Ranges :=
  inter a (complement b)

/-- Everything in just one of two sets. -/
def symmDiff (a b : Ranges) : Ranges :=
  union (diff a b) (diff b a)

/-- All members are ASCII characters. -/
def isAscii (a : Ranges) : Bool :=
  a.all fun r => r.2 < 0x80

/-! ### Reading -/

/-- The value of a hexadecimal digit. -/
def hexValue? (c : Char) : Option Nat :=
  if '0' ≤ c && c ≤ '9' then some (c.toNat - 48)
  else if 'a' ≤ c && c ≤ 'f' then some (c.toNat - 87)
  else if 'A' ≤ c && c ≤ 'F' then some (c.toNat - 55)
  else none

/-- What has been read of a text: the ranges so far, backwards, the number before the sign of an item
with the sign, and the number being read, if one has begun. -/
structure Reading where
  done : Ranges
  start : Option (Nat × Char)
  number : Option Nat

/-- Every second code point from `a` to `b`, backwards. -/
def everySecond (a b : Nat) : Ranges :=
  ((List.range ((b - a) / 2 + 1)).map fun k => (a + 2 * k, a + 2 * k)).reverse

namespace Reading

/-- Nothing has been read after some ranges. -/
def after (done : Ranges) : Reading :=
  ⟨done, none, none⟩

/-- Ends an item, if one has begun. -/
def close (r : Reading) : Ranges :=
  match r.number, r.start with
  | none, _ => r.done
  | some n, none => (n, n) :: r.done
  | some n, some (a, '/') => everySecond a n ++ r.done
  | some n, some (a, _) => (a, n) :: r.done

/-- Takes in one character. Blanks and line feeds end an item. -/
def step (r : Reading) (c : Char) : Reading :=
  if c == ' ' || c == '\n' then .after r.close
  else
    match hexValue? c with
    | some d => { r with number := some (16 * r.number.getD 0 + d) }
    | none => { r with start := some (r.number.getD 0, c), number := none }

end Reading

/-- The ranges that a text lists. -/
def ofText (s : String) : Ranges :=
  (s.foldl Reading.step (.after [])).close.reverse

end Ranges

/-- A set of code points with its names. -/
structure Listing where
  names : List String
  text : String

namespace Listing

/-- The members of the set. -/
def ranges (l : Listing) : Ranges :=
  Ranges.ofText l.text

/-- The set of a name. -/
def find? (table : List Listing) (name : String) : Option Listing :=
  table.find? fun l => l.names.contains name

end Listing

end MapQuery.Character
