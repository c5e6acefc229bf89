import MapQuery.Pattern.Expr
import MapQuery.Pattern.Reader
import MapQuery.Text.CaseTable

/-!
# From syntax to regular expressions

Which characters a part of a pattern stands for depends on flags. A list of flags counts for the rest
of the group in which it stands, across its branches.

* `Settings` — the flags in force.
* `folded` — a set with all other cases of its members.
* `ClassSet.members` — the characters of a set.
* `Node.meaning` — the regular expression of a node, with the flags in force after it.
-/

namespace MapQuery.Text

/-- The characters that have another form under simple case folding, with this form. -/
def foldPairs : List (Nat × Nat) :=
  foldShifts.flatMap fun s => s.members.map fun n => (n, (s.image? n).getD n)

end MapQuery.Text

namespace MapQuery.Pattern

open Character (Ranges)

/-- The flags that are in force. -/
structure Settings where
  ignoresCase : Bool
  multiLine : Bool
  dotMatchesNewLine : Bool
  unicode : Bool
  crlf : Bool
  deriving DecidableEq, Repr

namespace Settings

/-- The flags after a list of flags. -/
def apply (s : Settings) (items : List FlagItem) : Settings where
  ignoresCase := (FlagItem.state? .caseInsensitive false items).getD s.ignoresCase
  multiLine := (FlagItem.state? .multiLine false items).getD s.multiLine
  dotMatchesNewLine := (FlagItem.state? .dotMatchesNewLine false items).getD s.dotMatchesNewLine
  unicode := (FlagItem.state? .unicode false items).getD s.unicode
  crlf := (FlagItem.state? .crlf false items).getD s.crlf

end Settings

/-! ### Letter case -/

/-- A set together with all other cases of its members: their folded forms, and everything that has
one of these. -/
def foldedUnicode (r : Ranges) : Ranges :=
  let forms := Text.foldPairs.filterMap fun p => if r.has p.1 then some (p.2, p.2) else none
  let withForms := Ranges.normal (forms ++ r)
  let others := Text.foldPairs.filterMap fun p => if withForms.has p.2 then some (p.1, p.1) else none
  Ranges.normal (others ++ withForms)

/-- A set together with the other case of its ASCII letters. -/
def foldedAscii (r : Ranges) : Ranges :=
  let upper := Ranges.inter r [(0x41, 0x5a)]
  let lower := Ranges.inter r [(0x61, 0x7a)]
  Ranges.normal (upper.map (fun s => (s.1 + 32, s.2 + 32)) ++ lower.map (fun s => (s.1 - 32, s.2 - 32))
    ++ r)

namespace Settings

/-- A set together with the other cases of its members. -/
def folded (s : Settings) (r : Ranges) : Ranges :=
  if s.unicode then foldedUnicode r else foldedAscii r

/-- A set with the other cases where case is ignored, and its complement where this is asked for. A
complement among bytes has bytes that are no characters. -/
def finish (s : Settings) (extent : Extent) (negated : Bool) (r : Ranges) :
    Except Located Ranges :=
  let r := if s.ignoresCase then s.folded r else r
  if !negated then .ok r
  else if s.unicode then .ok r.complement
  else .error ⟨.invalidUtf8, extent⟩

end Settings

/-! ### Sets -/

/-- The set of a letter. -/
def Letter.members (unicode : Bool) : Letter → Ranges
  | digit => if unicode then Character.digit else [(0x30, 0x39)]
  | space => if unicode then Character.space else [(9, 13), (0x20, 0x20)]
  | word => if unicode then Character.word else asciiWord

/-- The members of a set that is named by a letter; these sets hold all cases of their members. -/
def LetterClass.members (c : LetterClass) (s : Settings) : Except Located Ranges :=
  if !c.negated then .ok (c.letter.members s.unicode)
  else if s.unicode then .ok (c.letter.members true).complement
  else .error ⟨.invalidUtf8, c.extent⟩

/-- The members of a set that is named by a property. -/
def PropertyClass.members (c : PropertyClass) (s : Settings) : Except Located Ranges :=
  if !s.unicode then .error ⟨.unicodeNotAllowed, c.extent⟩
  else
    let found := match c.name with
      | .named name => Character.named? name
      | .valued property value => Character.valued? property value
    match found with
    | .ok r => s.finish c.extent c.negated r
    | .error .property => .error ⟨.propertyNotFound, c.extent⟩
    | .error .value => .error ⟨.propertyValueNotFound, c.extent⟩

/-- The number of a literal between brackets; without Unicode it has to be a single byte. -/
def Literal.number (l : Literal) (s : Settings) : Except Located Nat :=
  if s.unicode || l.char.toNat < 0x80 then .ok l.char.toNat
  else if l.isByte then .error ⟨.invalidUtf8, l.extent⟩
  else .error ⟨.unicodeNotAllowed, l.extent⟩

/-- The result of an operation between sets. -/
def SetOperation.apply : SetOperation → Ranges → Ranges → Ranges
  | intersection => Ranges.inter
  | difference => Ranges.diff
  | symmetricDifference => Ranges.symmDiff

namespace ClassSet

mutual

/-- The characters of a set. -/
def members (s : Settings) : ClassSet → Except Located Ranges
  | empty _ => .ok []
  | literal l => do
    let n ← l.number s
    return [(n, n)]
  | range first last => do
    let a ← first.number s
    let b ← last.number s
    return [(a, b)]
  | ascii c => s.finish c.extent c.negated c.ranges
  | property c => c.members s
  | letter c => c.members s
  | bracketed extent negated set => do
    let r ← members s set
    s.finish extent negated r
  | union _ items => do
    let sets ← allMembers s items
    return Ranges.normal sets.flatten
  | operation _ o left right => do
    let a ← members s left
    let b ← members s right
    return if s.ignoresCase then o.apply (s.folded a) (s.folded b) else o.apply a b

/-- The characters of several sets, one by one. -/
def allMembers (s : Settings) : List ClassSet → Except Located (List Ranges)
  | [] => .ok []
  | set :: sets => do
    let r ← members s set
    let rs ← allMembers s sets
    return r :: rs

end

end ClassSet

/-! ### Expressions -/

/-- The condition that an anchor stands for. -/
def Assertion.look (a : Assertion) (s : Settings) : Look :=
  match a with
  | startLine => if s.multiLine then .lineStart s.crlf else .textStart
  | endLine => if s.multiLine then .lineEnd s.crlf else .textEnd
  | startText => .textStart
  | endText => .textEnd
  | wordBoundary => .boundary (!s.unicode)
  | notWordBoundary => .notBoundary (!s.unicode)
  | wordStart => .wordStart (!s.unicode)
  | wordEnd => .wordEnd (!s.unicode)
  | wordStartHalf => .wordStartHalf (!s.unicode)
  | wordEndHalf => .wordEndHalf (!s.unicode)

/-- The characters that a literal stands for. -/
def Literal.members (l : Literal) (s : Settings) : Except Located Ranges :=
  let n := l.char.toNat
  if !s.unicode && l.isByte && 0x80 ≤ n then .error ⟨.invalidUtf8, l.extent⟩
  else .ok (if s.ignoresCase then s.folded [(n, n)] else [(n, n)])

/-- The characters that the dot stands for. -/
def dotMembers (s : Settings) (extent : Extent) : Except Located Ranges :=
  if !s.unicode then .error ⟨.invalidUtf8, extent⟩
  else if s.dotMatchesNewLine then .ok [(0, Ranges.top)]
  else if s.crlf then .ok (Ranges.complement [(10, 10), (13, 13)])
  else .ok (Ranges.complement [(10, 10)])

namespace Node

mutual

/-- The regular expression of a node, and the flags in force after it. -/
def meaning : Node → Settings → Except Located (Expr × Settings)
  | empty _, s => .ok (.empty, s)
  | flags _ items, s => .ok (.empty, s.apply items)
  | literal l, s => do
    let r ← l.members s
    return (.set r, s)
  | dot extent, s => do
    let r ← dotMembers s extent
    return (.set r, s)
  | assertion _ a, s => .ok (.look (a.look s), s)
  | property c, s => do
    let r ← c.members s
    return (.set r, s)
  | letter c, s => do
    let r ← c.members s
    return (.set r, s)
  | bracketed extent negated set, s => do
    let r ← set.members s
    let r ← s.finish extent negated r
    return (.set r, s)
  | repetition _ least most body, s => do
    let (e, s) ← meaning body s
    return (.repeated least most e, s)
  | group _ none body, s => do
    let (e, _) ← meaning body s
    return (.remembered e, s)
  | group _ (some items) body, s => do
    let (e, _) ← meaning body (s.apply items)
    return (e, s)
  | alternation _ branches, s => do
    let (es, s) ← meanings branches s
    return (.choice es, s)
  | concat _ parts, s => do
    let (es, s) ← meanings parts s
    return (.sequence es, s)

/-- The regular expressions of several nodes, one after the other. -/
def meanings : List Node → Settings → Except Located (List Expr × Settings)
  | [], s => .ok ([], s)
  | n :: ns, s => do
    let (e, s) ← meaning n s
    let (es, s) ← meanings ns s
    return (e :: es, s)

end

end Node

end MapQuery.Pattern
