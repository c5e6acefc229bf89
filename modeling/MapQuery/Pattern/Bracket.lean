import MapQuery.Pattern.Atom

/-!
# Sets between brackets

Brackets hold characters, ranges, named sets and further brackets, which together make up one set.
Two sets can be joined by `&&`, `--` and `~~`, which are read from the left.

* `Members` — what has been read of a set.
* `Read.members` — the set up to its closing bracket.
* `Read.bracketed` — a whole set with its brackets.
-/

namespace MapQuery.Pattern

/-- The named sets of ASCII characters. -/
def asciiSets : List (String × List (Nat × Nat)) := [
  ("alnum", [(0x30, 0x39), (0x41, 0x5a), (0x61, 0x7a)]),
  ("alpha", [(0x41, 0x5a), (0x61, 0x7a)]),
  ("ascii", [(0, 0x7f)]),
  ("blank", [(9, 9), (0x20, 0x20)]),
  ("cntrl", [(0, 0x1f), (0x7f, 0x7f)]),
  ("digit", [(0x30, 0x39)]),
  ("graph", [(0x21, 0x7e)]),
  ("lower", [(0x61, 0x7a)]),
  ("print", [(0x20, 0x7e)]),
  ("punct", [(0x21, 0x2f), (0x3a, 0x40), (0x5b, 0x60), (0x7b, 0x7e)]),
  ("space", [(9, 13), (0x20, 0x20)]),
  ("upper", [(0x41, 0x5a)]),
  ("word", [(0x30, 0x39), (0x41, 0x5a), (0x5f, 0x5f), (0x61, 0x7a)]),
  ("xdigit", [(0x30, 0x39), (0x41, 0x46), (0x61, 0x66)])]

/-- What has been read of a set: the operand of a pending operation, and the members after it, the last
one first. -/
structure Members where
  pending : Option (SetOperation × ClassSet)
  extent : Extent
  items : List ClassSet

namespace Members

/-- No members yet. -/
def none (pending : Option (SetOperation × ClassSet)) (p : Place) : Members :=
  ⟨pending, ⟨p, p⟩, []⟩

/-- With one more member. -/
def push (m : Members) (item : ClassSet) : Members :=
  let start := if m.items.isEmpty then item.extent.start else m.extent.start
  { m with extent := ⟨start, item.extent.stop⟩, items := item :: m.items }

/-- The members as one set. -/
def last (m : Members) : ClassSet :=
  match m.items with
  | [] => .empty m.extent
  | [item] => item
  | items => .union m.extent items.reverse

/-- The whole set, the pending operation carried out. -/
def value (m : Members) : ClassSet :=
  match m.pending with
  | .none => m.last
  | some (o, left) => .operation ⟨left.extent.start, m.last.extent.stop⟩ o left m.last

end Members

namespace Read

/-- A member of a set, or an end of a range. -/
def classAtom : Read Node := do
  let extent ← charExtent
  match ← char? with
  | some '\\' => escape
  | some c =>
    bump
    return .literal ⟨extent, c, false⟩
  | none => failHere .classUnclosed

/-- A member that is no range. -/
def asMember : Node → Read ClassSet
  | .literal l => return .literal l
  | .letter c => return .letter c
  | .property c => return .property c
  | n => failAt .classEscapeInvalid n.extent

/-- An end of a range. -/
def asLiteral : Node → Read Literal
  | .literal l => return l
  | n => failAt .classRangeLiteral n.extent

/-- A member of a set that was opened at `opening`, which may be a range. -/
def member (opening : Extent) : Read ClassSet := do
  let first ← classAtom
  skip
  let s ← get
  match s.rest with
  | [] => failAt .classUnclosed opening
  | c :: _ =>
    if c != '-' || s.secondSolid? == some ']' || s.secondSolid? == some '-' then
      asMember first
    else
      step
      if ← atEnd then
        failAt .classUnclosed opening
      let last ← classAtom
      let a ← asLiteral first
      let b ← asLiteral last
      if b.char < a.char then
        failAt .classRangeInvalid ⟨a.extent.start, b.extent.stop⟩
      return .range a b

/-- A named set of ASCII characters such as `[:alpha:]`, if the rest begins with one. -/
def asciiClass? (s : Source) : Option (ClassSet × Source) :=
  match s.rest with
  | '[' :: ':' :: rest =>
    let negated := rest.head? == some '^'
    let rest := if negated then rest.tail else rest
    let name := rest.takeWhile (· != ':')
    if [':', ']'].isPrefixOf (rest.drop name.length) then
      match asciiSets.lookup (String.ofList name) with
      | some ranges =>
        let width := name.length + (if negated then 5 else 4)
        let after := (s.rest.take width).foldl (fun s _ => s.bump) s
        some (.ascii ⟨⟨s.place, after.place⟩, negated, ranges⟩, after)
      | none => none
    else none
  | _ => none

/-- Dashes at the start of a set, which stand for themselves; `n` bounds their number. -/
def dashes (start : Place) (m : Members) : (n : Nat) → Read Members
  | 0 => return m
  | n + 1 => do
    if (← char?) == some '-' then
      let extent ← charExtent
      step
      if ← atEnd then
        failAt .classUnclosed ⟨start, start⟩
      dashes start (m.push (.literal ⟨extent, '-', false⟩)) n
    else
      return m

/-- An opening bracket and what can only stand at the start of a set: where it stands, whether the set
stands for its complement, and the first members. -/
def openBracket : Read (Extent × Bool × Members) := do
  let start ← here
  step
  if ← atEnd then
    failSince .classUnclosed start
  let negated := (← char?) == some '^'
  if negated then
    step
    if ← atEnd then
      failSince .classUnclosed start
  let m ← dashes start (.none none (← here)) (← get).rest.length
  if m.items.isEmpty && (← char?) == some ']' then
    let extent ← charExtent
    step
    if ← atEnd then
      failSince .classUnclosed start
    return (← since start, negated, m.push (.literal ⟨extent, ']', false⟩))
  return (← since start, negated, m)

/-- The operation that the rest begins with. -/
def operation? : List Char → Option SetOperation
  | '&' :: '&' :: _ => some .intersection
  | '-' :: '-' :: _ => some .difference
  | '~' :: '~' :: _ => some .symmetricDifference
  | _ => none

/-- The members up to the closing bracket of a set that was opened at `opening`. The number of steps is
bounded by the length of the rest. -/
def members (opening : Extent) (m : Members) : (steps : Nat) → Read ClassSet
  | 0 => return m.value
  | n + 1 => do
    skip
    let s ← get
    match s.rest.head? with
    | none => failAt .classUnclosed opening
    | some ']' =>
      bump
      return m.value
    | some '[' =>
      match asciiClass? s with
      | some (item, after) =>
        set after
        members opening (m.push item) n
      | none =>
        let (inner, negated, first) ← openBracket
        let nested ← members inner first n
        let extent ← since inner.start
        members opening (m.push (.bracketed extent negated nested)) n
    | some _ =>
      match operation? s.rest with
      | some o =>
        bump
        bump
        members opening (.none (some (o, m.value)) (← here)) n
      | none =>
        let item ← member opening
        members opening (m.push item) n

/-- A set with its brackets. -/
def bracketed : Read Node := do
  let (opening, negated, first) ← openBracket
  let set ← members opening first ((← get).rest.length + 1)
  return .bracketed (← since opening.start) negated set

end Read

end MapQuery.Pattern
