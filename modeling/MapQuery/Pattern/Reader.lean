import MapQuery.Character.Property
import MapQuery.Pattern.Bracket

/-!
# Reading a pattern

A pattern is a list of branches, a branch a list of parts. A part is a character, a set, a group or one
of these with a repetition after it.

* `Branches` — what has been read of a group or of the whole pattern.
* `Read.branches` — a list of branches up to a closing parenthesis or the end.
* `Node.ofText?` — the syntax tree of a pattern, or what is wrong with it.
-/

namespace MapQuery.Pattern

/-- What has been read of a list of branches: the finished ones and the parts of the one being read,
the last one first. -/
structure Branches where
  start : Place
  done : List Node
  branchStart : Place
  parts : List Node

namespace Branches

/-- Nothing has been read yet. -/
def none (p : Place) : Branches :=
  ⟨p, [], p, []⟩

/-- With one more part. -/
def push (b : Branches) (part : Node) : Branches :=
  { b with parts := part :: b.parts }

/-- The branch that ends at a place. -/
def last (b : Branches) (p : Place) : Node :=
  match b.parts with
  | [] => .empty ⟨b.branchStart, p⟩
  | [part] => part
  | parts => .concat ⟨b.branchStart, p⟩ parts.reverse

/-- After a bar, which stands between the two places. -/
def bar (b : Branches) (p after : Place) : Branches :=
  ⟨b.start, b.last p :: b.done, after, []⟩

/-- All branches as one node, the last of which ends at a place. -/
def value (b : Branches) (p : Place) : Node :=
  match b.done with
  | [] => b.last p
  | done => .alternation ⟨b.start, p⟩ (b.last p :: done).reverse

end Branches

/-- What an opening parenthesis begins. -/
inductive Opening where
  /-- Flags for the rest of the group around. -/
  | flags (items : List FlagItem)
  /-- A group, with flags of its own if there are any. -/
  | group (flags : Option (List FlagItem))

/-- Whether a list of flags turns a flag on or off. -/
def FlagItem.state? (f : Flag) : (negated : Bool) → List FlagItem → Option Bool
  | _, [] => none
  | _, negation :: items => state? f true items
  | negated, flag g :: items => if g = f then some !negated else state? f negated items

namespace Read

/-! ### Groups -/

/-- The letter of a flag. -/
def flag? : Char → Option Flag
  | 'i' => some .caseInsensitive
  | 'm' => some .multiLine
  | 's' => some .dotMatchesNewLine
  | 'U' => some .swapGreed
  | 'u' => some .unicode
  | 'R' => some .crlf
  | 'x' => some .ignoreWhitespace
  | _ => none

/-- The flags up to a colon or a closing parenthesis; `done` are those so far, the last one first, and
`dash` is the place of the last one if it is the sign of negation. -/
def flags (done : List FlagItem) (dash : Option Extent) : (n : Nat) → Read (List FlagItem)
  | 0 => return done.reverse
  | n + 1 => do
    match ← char? with
    | none => failHere .flagUnexpectedEnd
    | some c =>
      let extent ← charExtent
      if c == ':' || c == ')' then
        match dash with
        | some e => failAt .flagDanglingNegation e
        | none => return done.reverse
      if c == '-' then
        if done.contains .negation then
          failAt .flagRepeatedNegation extent
        bump
        flags (.negation :: done) (some extent) n
      else
        match flag? c with
        | none => failAt .flagUnrecognized extent
        | some f =>
          if done.contains (.flag f) then
            failAt .flagDuplicate extent
          bump
          flags (.flag f :: done) none n

/-- Characters of the name of a group. -/
def isNameChar (first : Bool) (c : Char) : Bool :=
  if first then c == '_' || Character.alphabetic.has c.toNat
  else c == '_' || c == '.' || c == '[' || c == ']' || Character.alphanumeric.has c.toNat

/-- The name of a group up to the sign that closes it; `n` bounds its length. -/
def groupName (first : Bool) : (n : Nat) → Read (List Char)
  | 0 => return []
  | n + 1 => do
    match ← char? with
    | none => failHere .groupNameUnexpectedEnd
    | some c =>
      if c == '>' then
        return []
      if !isNameChar first c then
        failAtChar .groupNameInvalid
      bump
      return c :: (← groupName false n)

/-- A name that no group before has. -/
def newName : Read Unit := do
  let start ← here
  let name := String.ofList (← groupName true ((← get).rest.length + 1))
  let extent ← since start
  bump
  if name.isEmpty then
    failAt .groupNameEmpty ⟨start, start⟩
  if (← get).names.contains name then
    failAt .groupNameDuplicate extent
  modify fun s => { s with names := name :: s.names }

/-- Past the first of several texts that the rest begins with. -/
def acceptAny (texts : List String) : Read Bool :=
  texts.anyM fun text => accept text.toList

/-- An opening parenthesis and what says which kind of group it begins. -/
def opening : Read Opening := do
  let extent ← charExtent
  step
  if ← acceptAny ["?=", "?!", "?<=", "?<!"] then
    failSince .unsupportedLookAround extent.start
  let mark ← here
  if ← acceptAny ["?P<", "?<"] then
    newName
    return .group none
  else if ← accept ['?'] then
    if ← atEnd then
      failAt .groupUnclosed extent
    let items ← flags [] none ((← get).rest.length + 1)
    let close ← char?
    bump
    if close == some ')' then
      if items.isEmpty then
        failAt .repetitionMissing ⟨mark, mark⟩
      return .flags items
    else
      return .group (some items)
  else
    return .group none

/-! ### Repetitions -/

/-- The part before a repetition, and the parts before that. -/
def operand (b : Branches) : Read (Node × Branches) :=
  match b.parts with
  | [] | .empty _ :: _ | .flags _ _ :: _ => failHere .repetitionMissing
  | part :: parts => return (part, { b with parts := parts })

/-- A repetition that is written with one sign. -/
def repetition (b : Branches) (least : Nat) (most : Option Nat) : Read Branches := do
  let (part, b) ← operand b
  bump
  let _ ← accept ['?']
  return b.push (.repetition (← since part.extent.start) least most part)

/-- The numbers of a counted repetition, after the brace that opens at `start`. -/
def counts (start : Place) : Read (Nat × Option Nat) := do
  let least ← number
  if ← atEnd then
    failSince .repetitionCountUnclosed start
  if (← char?) == some ',' then
    step
    if ← atEnd then
      failSince .repetitionCountUnclosed start
    if (← char?) == some '\x7d' then
      return (← liftM least, none)
    let least ← liftM least
    let most ← number
    return (least, some (← liftM most))
  else
    let n ← liftM least
    return (n, some n)

/-- A repetition with numbers between braces. -/
def countedRepetition (b : Branches) : Read Branches := do
  let start ← here
  let (part, b) ← operand b
  step
  if ← atEnd then
    failSince .repetitionCountUnclosed start
  let (least, most) ← counts start
  if (← char?) != some '\x7d' then
    failSince .repetitionCountUnclosed start
  step
  let _ ← accept ['?']
  if most.any (· < least) then
    failSince .repetitionCountInvalid start
  return b.push (.repetition (← since part.extent.start) least most part)

/-! ### Branches -/

/-- Turns the mode that skips blanks on or off, where a list of flags says so. -/
def setBlanks (items : List FlagItem) : Read Unit :=
  match FlagItem.state? .ignoreWhitespace false items with
  | some on => modify fun s => { s with skipsBlanks := on }
  | none => return ()

/-- The branches up to a closing parenthesis or the end. The number of steps is bounded by the length
of the rest. -/
def branches (b : Branches) : (steps : Nat) → Read Node
  | 0 => return b.value (← here)
  | n + 1 => do
    skip
    match ← char? with
    | none => return b.value (← here)
    | some ')' => return b.value (← here)
    | some '|' =>
      let p ← here
      bump
      branches (b.bar p (← here)) n
    | some '(' =>
      let extent ← charExtent
      match ← opening with
      | .flags items =>
        setBlanks items
        branches (b.push (.flags (← since extent.start) items)) n
      | .group own =>
        let outer := (← get).skipsBlanks
        setBlanks (own.getD [])
        let body ← branches (.none (← here)) n
        if ← atEnd then
          failAt .groupUnclosed extent
        bump
        modify fun s => { s with skipsBlanks := outer }
        branches (b.push (.group (← since extent.start) own body)) n
    | some '[' => branches (b.push (← bracketed)) n
    | some '?' => branches (← repetition b 0 (some 1)) n
    | some '*' => branches (← repetition b 0 none) n
    | some '+' => branches (← repetition b 1 none) n
    | some '\x7b' => branches (← countedRepetition b) n
    | some c => branches (b.push (← atom c)) n

/-- A whole pattern. -/
def pattern : Read Node := do
  let tree ← branches (.none (← here)) ((← get).rest.length + 1)
  if ← atEnd then
    return tree
  else
    failAtChar .groupUnopened

end Read

/-- The syntax tree of a pattern. -/
def Node.ofText? (s : String) : Except Located Node := do
  let (tree, _) ← Read.pattern.run (Source.ofText s)
  match tree.tooDeep? 0 with
  | some extent => throw ⟨.nestLimitExceeded, extent⟩
  | none => return tree

end MapQuery.Pattern
