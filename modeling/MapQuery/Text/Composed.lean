import MapQuery.Text.CompositionTable

/-!
# Composed form

The canonical composed form of a text: characters are taken apart as far as they go, combining marks
are put in order, and what belongs together is composed again.

* `decompose` — the parts of one character.
* `orderMarks` — combining marks in the order of their classes, marks of one class as they stood.
* `composePair?` — the character that two characters compose to.
* `composed` — the composed form of a text.
-/

namespace MapQuery.Text

/-- The combining class of a code point; starters have class zero, as all of ASCII and Latin-1 do. -/
def combiningClass (n : Nat) : Nat :=
  if n < 0x300 then 0
  else ((combiningClasses.find? fun r => r.1 ≤ n && n ≤ r.2.1).map (·.2.2)).getD 0

/-! ### Hangul syllables

A syllable is a leading consonant, a vowel and perhaps a trailing consonant, and its code point is
computed from those of its parts. -/

/-- The parts of a syllable. -/
def hangulParts? (n : Nat) : Option (List Nat) :=
  if 0xac00 ≤ n && n ≤ 0xd7a3 then
    let s := n - 0xac00
    let head := [0x1100 + s / 588, 0x1161 + s % 588 / 28]
    some (if s % 28 = 0 then head else head ++ [0x11a7 + s % 28])
  else none

/-- A syllable from a consonant and a vowel, or from an open syllable and a trailing consonant. -/
def hangulPair? (a b : Nat) : Option Nat :=
  if 0x1100 ≤ a && a ≤ 0x1112 && 0x1161 ≤ b && b ≤ 0x1175 then
    some (0xac00 + ((a - 0x1100) * 21 + (b - 0x1161)) * 28)
  else if 0xac00 ≤ a && a ≤ 0xd7a3 && (a - 0xac00) % 28 == 0 && 0x11a8 ≤ b && b ≤ 0x11c2 then
    some (a + (b - 0x11a7))
  else none

/-! ### Decomposition -/

/-- What stands for a character that is never composed again. -/
def replacement? (n : Nat) : Option (List Nat) :=
  match expansions.find? fun r => r.1 == n with
  | some r => some r.2
  | none =>
    (replacements.find? fun r => r.1 ≤ n && n < r.1 + r.2.length).bind fun r =>
      r.2[n - r.1]?.map fun m => [m]

/-- The parts of a code point, taken apart at most `depth` times; three times are enough for all. -/
def decomposeTo : (depth : Nat) → Nat → List Nat
  | 0, n => [n]
  | depth + 1, n =>
    if n < 0xc0 then [n]
    else
      match hangulParts? n with
      | some parts => parts
      | none =>
        match compositions.find? fun r => r.2.2 == n with
        | some r => decomposeTo depth r.1 ++ [r.2.1]
        | none => (replacement? n).getD [n]

/-- The parts of a code point. -/
def decompose (n : Nat) : List Nat :=
  decomposeTo 4 n

/-- Puts a mark before the first character that may not stand in front of it. -/
def placeMark (n : Nat) : List Nat → List Nat
  | [] => [n]
  | m :: ms =>
    if combiningClass n ≠ 0 ∧ combiningClass m ≠ 0 ∧ combiningClass m < combiningClass n then
      m :: placeMark n ms
    else n :: m :: ms

/-- Combining marks in the order of their classes. -/
def orderMarks (ns : List Nat) : List Nat :=
  ns.foldr placeMark []

/-! ### Composition -/

/-- The character that two characters compose to. No character below U+0300 is composed to one before
it. -/
def composePair? (a b : Nat) : Option Nat :=
  if b < 0x300 then none
  else
    match hangulPair? a b with
    | some n => some n
    | none => (compositions.find? fun r => r.1 == a && r.2.1 == b).map (·.2.2)

/-- Composes what follows a starter. `marks` are the characters since the starter, backwards, and
`last` is the class of the latest of them; a character is blocked by one of its class or higher. -/
def composeFrom (starter : Nat) (marks : List Nat) (last : Option Nat) : List Nat → List Nat
  | [] => starter :: marks.reverse
  | n :: ns =>
    let c := combiningClass n
    let joined := if last.all (· < c) then composePair? starter n else none
    match joined with
    | some m => composeFrom m marks last ns
    | none =>
      if c = 0 then starter :: marks.reverse ++ composeFrom n [] none ns
      else composeFrom starter (n :: marks) (some c) ns

/-- Composes a text; marks before the first starter stay. -/
def composeAll : List Nat → List Nat
  | [] => []
  | n :: ns => if combiningClass n = 0 then composeFrom n [] none ns else n :: composeAll ns

/-- The composed form of a text. -/
def composed (cs : List Char) : List Char :=
  (composeAll (orderMarks (cs.flatMap fun c => decompose c.toNat))).map Char.ofNat

end MapQuery.Text
