/-!
# Patterns as they are written

The syntax tree of a regular expression, every node with its place in the pattern, and the faults that
a pattern can have.

* `Place`, `Extent` — where something stands, counted in characters, lines and columns.
* `Node` — the syntax tree; `ClassSet` — what stands between square brackets; `tooDeep?` — the first of
  them that is nested too deep.
* `Fault` — what is wrong with a pattern; `Fault.message` — its wording.
-/

namespace MapQuery.Pattern

/-- A place in a pattern: the characters before it, and its line and column, which start at one. -/
structure Place where
  offset : Nat
  line : Nat
  column : Nat
  deriving DecidableEq, Repr, Inhabited

namespace Place

/-- The start of a pattern. -/
def start : Place :=
  ⟨0, 1, 1⟩

/-- The place after a character. -/
def after (p : Place) (c : Char) : Place :=
  if c = '\n' then ⟨p.offset + 1, p.line + 1, 1⟩ else ⟨p.offset + 1, p.line, p.column + 1⟩

end Place

/-- The stretch between two places. -/
structure Extent where
  start : Place
  stop : Place
  deriving DecidableEq, Repr, Inhabited

/-- The flags that a pattern can set for a part of itself. -/
inductive Flag where
  | caseInsensitive
  | multiLine
  | dotMatchesNewLine
  | swapGreed
  | unicode
  | crlf
  | ignoreWhitespace
  deriving DecidableEq, Repr

/-- What is wrong with a pattern. -/
inductive Fault where
  | classEscapeInvalid
  | classRangeInvalid
  | classRangeLiteral
  | classUnclosed
  | decimalInvalid
  | escapeHexEmpty
  | escapeHexInvalid
  | escapeHexInvalidDigit
  | escapeUnexpectedEnd
  | escapeUnrecognized
  | flagDanglingNegation
  | flagDuplicate
  | flagRepeatedNegation
  | flagUnexpectedEnd
  | flagUnrecognized
  | groupNameDuplicate
  | groupNameEmpty
  | groupNameInvalid
  | groupNameUnexpectedEnd
  | groupUnclosed
  | groupUnopened
  | nestLimitExceeded
  | repetitionCountInvalid
  | repetitionCountDecimalEmpty
  | repetitionCountUnclosed
  | repetitionMissing
  | wordBoundaryUnclosed
  | wordBoundaryUnrecognized
  | wordOrRepetitionUnexpectedEnd
  | unicodeClassInvalid
  | unsupportedBackreference
  | unsupportedLookAround
  | unicodeNotAllowed
  | invalidUtf8
  | propertyNotFound
  | propertyValueNotFound
  deriving DecidableEq, Repr

namespace Fault

/-- The deepest nesting of groups, classes and operators. -/
def nestLimit : Nat := 250

/-- The wording of a fault. -/
def message : Fault → String
  | classEscapeInvalid => "invalid escape sequence found in character class"
  | classRangeInvalid => "invalid character class range, the start must be <= the end"
  | classRangeLiteral => "invalid range boundary, must be a literal"
  | classUnclosed => "unclosed character class"
  | decimalInvalid => "decimal literal invalid"
  | escapeHexEmpty => "hexadecimal literal empty"
  | escapeHexInvalid => "hexadecimal literal is not a Unicode scalar value"
  | escapeHexInvalidDigit => "invalid hexadecimal digit"
  | escapeUnexpectedEnd => "incomplete escape sequence, reached end of pattern prematurely"
  | escapeUnrecognized => "unrecognized escape sequence"
  | flagDanglingNegation => "dangling flag negation operator"
  | flagDuplicate => "duplicate flag"
  | flagRepeatedNegation => "flag negation operator repeated"
  | flagUnexpectedEnd => "expected flag but got end of regex"
  | flagUnrecognized => "unrecognized flag"
  | groupNameDuplicate => "duplicate capture group name"
  | groupNameEmpty => "empty capture group name"
  | groupNameInvalid => "invalid capture group character"
  | groupNameUnexpectedEnd => "unclosed capture group name"
  | groupUnclosed => "unclosed group"
  | groupUnopened => "unopened group"
  | nestLimitExceeded => "exceed the maximum number of nested parentheses/brackets (250)"
  | repetitionCountInvalid => "invalid repetition count range, the start must be <= the end"
  | repetitionCountDecimalEmpty => "repetition quantifier expects a valid decimal"
  | repetitionCountUnclosed => "unclosed counted repetition"
  | repetitionMissing => "repetition operator missing expression"
  | wordBoundaryUnclosed =>
    "special word boundary assertion is either unclosed or contains an invalid character"
  | wordBoundaryUnrecognized =>
    "unrecognized special word boundary assertion, valid choices are: start, end, start-half " ++
      "or end-half"
  | wordOrRepetitionUnexpectedEnd =>
    "found either the beginning of a special word boundary or a bounded repetition on a \\b " ++
      "with an opening brace, but no closing brace"
  | unicodeClassInvalid => "invalid Unicode character class"
  | unsupportedBackreference => "backreferences are not supported"
  | unsupportedLookAround => "look-around, including look-ahead and look-behind, is not supported"
  | unicodeNotAllowed => "Unicode not allowed here"
  | invalidUtf8 => "pattern can match invalid UTF-8"
  | propertyNotFound => "Unicode property not found"
  | propertyValueNotFound => "Unicode property value not found"

end Fault

/-- A fault and where it is. -/
structure Located where
  fault : Fault
  extent : Extent
  deriving DecidableEq, Repr

/-- One entry of a list of flags: a flag, or the sign that turns the flags after it off. -/
inductive FlagItem where
  | flag (f : Flag)
  | negation
  deriving DecidableEq, Repr

/-- A literal character. One written as two hexadecimal digits may stand for a byte. -/
structure Literal where
  extent : Extent
  char : Char
  isByte : Bool
  deriving DecidableEq, Repr

/-- The three sets that have a letter of their own. -/
inductive Letter where
  | digit
  | space
  | word
  deriving DecidableEq, Repr

/-- A set named by a letter; the capital letter stands for everything outside the set. -/
structure LetterClass where
  extent : Extent
  negated : Bool
  letter : Letter
  deriving DecidableEq, Repr

/-- How a set of characters is asked for. -/
inductive PropertyName where
  | named (name : String)
  | valued (property value : String)
  deriving DecidableEq, Repr

/-- A set named by a property. -/
structure PropertyClass where
  extent : Extent
  negated : Bool
  name : PropertyName
  deriving DecidableEq, Repr

/-- A set of ASCII characters with a name. -/
structure AsciiClass where
  extent : Extent
  negated : Bool
  ranges : List (Nat × Nat)
  deriving DecidableEq, Repr

/-- The operations between sets. -/
inductive SetOperation where
  | intersection
  | difference
  | symmetricDifference
  deriving DecidableEq, Repr

/-- What stands between square brackets. -/
inductive ClassSet where
  | empty (extent : Extent)
  | literal (l : Literal)
  | range (first last : Literal)
  | ascii (c : AsciiClass)
  | property (c : PropertyClass)
  | letter (c : LetterClass)
  | bracketed (extent : Extent) (negated : Bool) (set : ClassSet)
  | union (extent : Extent) (items : List ClassSet)
  | operation (extent : Extent) (o : SetOperation) (left right : ClassSet)

/-- Where a set stands. -/
def ClassSet.extent : ClassSet → Extent
  | empty e => e
  | literal l => l.extent
  | range first last => ⟨first.extent.start, last.extent.stop⟩
  | ascii c => c.extent
  | property c => c.extent
  | letter c => c.extent
  | bracketed e _ _ => e
  | union e _ => e
  | operation e _ _ _ => e

/-- Conditions on a place in a text. -/
inductive Assertion where
  | startLine
  | endLine
  | startText
  | endText
  | wordBoundary
  | notWordBoundary
  | wordStart
  | wordEnd
  | wordStartHalf
  | wordEndHalf
  deriving DecidableEq, Repr

/-- A syntax tree. -/
inductive Node where
  | empty (extent : Extent)
  | flags (extent : Extent) (items : List FlagItem)
  | literal (l : Literal)
  | dot (extent : Extent)
  | assertion (extent : Extent) (a : Assertion)
  | property (c : PropertyClass)
  | letter (c : LetterClass)
  | bracketed (extent : Extent) (negated : Bool) (set : ClassSet)
  /-- At least `least` times, and at most `most` times where this is given. -/
  | repetition (extent : Extent) (least : Nat) (most : Option Nat) (body : Node)
  /-- A group, which remembers what it matched or has flags of its own. -/
  | group (extent : Extent) (flags : Option (List FlagItem)) (body : Node)
  | alternation (extent : Extent) (branches : List Node)
  | concat (extent : Extent) (parts : List Node)

/-- Where a node stands. -/
def Node.extent : Node → Extent
  | empty e => e
  | flags e _ => e
  | literal l => l.extent
  | dot e => e
  | assertion e _ => e
  | property c => c.extent
  | letter c => c.extent
  | bracketed e _ _ => e
  | repetition e _ _ _ => e
  | group e _ _ => e
  | alternation e _ => e
  | concat e _ => e

/-! ### Nesting -/

namespace ClassSet

mutual

/-- The first set, from the outside, that lies too deep; `depth` counts what is around the set. -/
def tooDeep? (depth : Nat) : ClassSet → Option Extent
  | bracketed e _ set =>
    if depth < Fault.nestLimit then tooDeep? (depth + 1) set else some e
  | union e items =>
    if depth < Fault.nestLimit then anyTooDeep? (depth + 1) items else some e
  | operation e _ left right =>
    if depth < Fault.nestLimit then
      (tooDeep? (depth + 1) left).orElse fun _ => tooDeep? (depth + 1) right
    else some e
  | _ => none

/-- The first of several sets. -/
def anyTooDeep? (depth : Nat) : List ClassSet → Option Extent
  | [] => none
  | s :: ss => (tooDeep? depth s).orElse fun _ => anyTooDeep? depth ss

end

end ClassSet

namespace Node

mutual

/-- The first node or set, from the outside, that lies too deep. -/
def tooDeep? (depth : Nat) : Node → Option Extent
  | bracketed e _ set =>
    if depth < Fault.nestLimit then set.tooDeep? (depth + 1) else some e
  | repetition e _ _ body =>
    if depth < Fault.nestLimit then tooDeep? (depth + 1) body else some e
  | group e _ body =>
    if depth < Fault.nestLimit then tooDeep? (depth + 1) body else some e
  | alternation e branches =>
    if depth < Fault.nestLimit then anyTooDeep? (depth + 1) branches else some e
  | concat e parts =>
    if depth < Fault.nestLimit then anyTooDeep? (depth + 1) parts else some e
  | _ => none

/-- The first of several nodes. -/
def anyTooDeep? (depth : Nat) : List Node → Option Extent
  | [] => none
  | n :: ns => (tooDeep? depth n).orElse fun _ => anyTooDeep? depth ns

end

end Node

end MapQuery.Pattern
