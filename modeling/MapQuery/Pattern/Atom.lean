import MapQuery.Character.Ranges
import MapQuery.Pattern.Source

/-!
# Single characters and escapes

The smallest parts of a pattern: a character, the dot, the anchors and everything that begins with a
backslash.

* `Read.escape` — what a backslash begins.
* `Read.atom` — the smallest part at the start of the source.
* `Read.number` — a whole number, as repetitions use it.
-/

namespace MapQuery.Pattern

/-- Characters that have a meaning in a pattern; after a backslash they stand for themselves. -/
def isMeta (c : Char) : Bool :=
  c ∈ ['\\', '.', '+', '*', '?', '(', ')', '|', '[', ']', '\x7b', '\x7d', '^', '$', '#', '&', '-', '~']

/-- Characters that stand for themselves after a backslash. -/
def isEscapable (c : Char) : Bool :=
  isMeta c || (c.toNat < 0x80 && !c.isAlphanum && c != '<' && c != '>')

namespace Read

/-! ### Characters by number -/

/-- Hexadecimal digits; those after the first may have blanks before them. -/
def hexDigits : (first : Bool) → Nat → Read (List Char)
  | _, 0 => return []
  | first, n + 1 => do
    if !first then
      step
    match ← char? with
    | none => failHere .escapeUnexpectedEnd
    | some c =>
      if (Character.Ranges.hexValue? c).isNone then
        failAtChar .escapeHexInvalidDigit
      return c :: (← hexDigits false n)

/-- The characters up to a closing brace, which are checked one by one; `n` bounds their number. -/
def braced (allowed : Char → Bool) (fault : Fault) : (n : Nat) → Read (List Char)
  | 0 => return []
  | n + 1 => do
    step
    match ← char? with
    | none => return []
    | some c =>
      if c == '\x7d' then
        return []
      if !allowed c then
        failAtChar fault
      return c :: (← braced allowed fault n)

/-- The characters up to the next closing brace. -/
def bracedText (allowed : Char → Bool) (fault : Fault) : Read (List Char) := do
  braced allowed fault (← get).rest.length

/-- The character with a number in hexadecimal. -/
def scalar? (digits : List Char) : Option Char :=
  let n := digits.foldl (fun n c => 16 * n + (Character.Ranges.hexValue? c).getD 0) 0
  if h : n.isValidChar then some (Char.ofNatAux n h) else none

/-- A character given by its number, after the letter that says how many digits there are. -/
def hex (start : Place) (digits : Nat) : Read Node := do
  step
  match ← char? with
  | none => failHere .escapeUnexpectedEnd
  | some '\x7b' =>
    let brace ← here
    let inside := (← charExtent).stop
    let text ← bracedText (fun c => (Character.Ranges.hexValue? c).isSome) .escapeHexInvalidDigit
    if ← atEnd then
      failSince .escapeUnexpectedEnd brace
    let stop ← here
    step
    if text.isEmpty then
      failSince .escapeHexEmpty brace
    match scalar? text with
    | none => failAt .escapeHexInvalid ⟨inside, stop⟩
    | some c => return .literal ⟨← since start, c, false⟩
  | some _ =>
    let first ← here
    let text ← hexDigits true digits
    step
    match scalar? text with
    | none => failSince .escapeHexInvalid first
    | some c => return .literal ⟨← since start, c, digits == 2⟩

/-! ### Sets by name -/

/-- The two parts of a text around the first place where `sign` stands. -/
def splitAt? (sign : List Char) : List Char → Option (List Char × List Char)
  | [] => none
  | c :: cs =>
    if sign.isPrefixOf (c :: cs) then some ([], (c :: cs).drop sign.length)
    else (splitAt? sign cs).map fun (a, b) => (c :: a, b)

/-- What a text between braces asks for. -/
def propertyName (text : List Char) : PropertyName :=
  match ["!=", ":", "="].findSome? fun sign => splitAt? sign.toList text with
  | some (property, value) => .valued (String.ofList property) (String.ofList value)
  | none => .named (String.ofList text)

/-- A set of characters given by a property. -/
def property (start : Place) (negated : Bool) : Read Node := do
  step
  match ← char? with
  | none => failHere .escapeUnexpectedEnd
  | some '\x7b' =>
    let text ← bracedText (fun _ => true) .unicodeClassInvalid
    if ← atEnd then
      failHere .escapeUnexpectedEnd
    bump
    return .property ⟨← since start, negated, propertyName text⟩
  | some c =>
    if c == '\\' then
      failAtChar .unicodeClassInvalid
    step
    return .property ⟨← since start, negated, .named (String.singleton c)⟩

/-! ### Boundaries of words -/

/-- A letter or a dash, of which the names of boundaries consist. -/
def isBoundaryChar (c : Char) : Bool :=
  c.isAlpha || c == '-'

/-- The longest run of letters and dashes; `n` bounds its length. -/
def boundaryName : (n : Nat) → Read (List Char)
  | 0 => return []
  | n + 1 => do
    match ← char? with
    | none => return []
    | some c =>
      if isBoundaryChar c then
        step
        return c :: (← boundaryName n)
      return []

/-- The boundary of a name. -/
def boundary? : String → Option Assertion
  | "start" => some .wordStart
  | "end" => some .wordEnd
  | "start-half" => some .wordStartHalf
  | "end-half" => some .wordEndHalf
  | _ => none

/-- The rest of a word boundary, which may have a name in braces. Braces with something else are left
alone, as they may give a number of repetitions. -/
def wordBoundary (start : Place) : Read Node := do
  let before ← get
  if before.rest.head? != some '\x7b' then
    return .assertion (← since start) .wordBoundary
  let brace ← here
  step
  match ← char? with
  | none => failSince .wordOrRepetitionUnexpectedEnd start
  | some c =>
    if !isBoundaryChar c then
      set before
      return .assertion (← since start) .wordBoundary
    let first ← here
    let name ← boundaryName (← get).rest.length
    if (← char?) != some '\x7d' then
      failSince .wordBoundaryUnclosed brace
    let stop ← here
    bump
    match boundary? (String.ofList name) with
    | none => failAt .wordBoundaryUnrecognized ⟨first, stop⟩
    | some a => return .assertion (← since start) a

/-! ### Escapes -/

/-- The characters that have a letter of their own. -/
def control? : Char → Option Char
  | 'a' => some '\x07'
  | 'f' => some '\x0c'
  | 't' => some '\t'
  | 'n' => some '\n'
  | 'r' => some '\r'
  | 'v' => some '\x0b'
  | _ => none

/-- The conditions that have a letter or sign of their own. -/
def assertion? : Char → Option Assertion
  | 'A' => some .startText
  | 'z' => some .endText
  | 'B' => some .notWordBoundary
  | '<' => some .wordStart
  | '>' => some .wordEnd
  | _ => none

/-- The sets that have a letter of their own; a capital letter stands for the complement. -/
def letter? (c : Char) : Option Letter :=
  match c.toLower with
  | 'd' => some .digit
  | 's' => some .space
  | 'w' => some .word
  | _ => none

/-- The number of digits after a letter that gives a character by its number. -/
def hexWidth? : Char → Option Nat
  | 'x' => some 2
  | 'u' => some 4
  | 'U' => some 8
  | _ => none

/-- What a backslash begins. -/
def escape : Read Node := do
  let start ← here
  bump
  match ← char? with
  | none => failSince .escapeUnexpectedEnd start
  | some c =>
    if Ascii.isDigit c then
      failAt .unsupportedBackreference ⟨start, (← charExtent).stop⟩
    if let some digits := hexWidth? c then
      hex start digits
    else if c == 'p' || c == 'P' then
      property start (c == 'P')
    else
      bump
      let extent ← since start
      if let some l := letter? c then
        return .letter ⟨extent, c.isUpper, l⟩
      else if isEscapable c then
        return .literal ⟨extent, c, false⟩
      else if let some d := control? c then
        return .literal ⟨extent, d, false⟩
      else if let some a := assertion? c then
        return .assertion extent a
      else if c == 'b' then
        wordBoundary start
      else
        failAt .escapeUnrecognized extent

/-- The next character, taken for itself. -/
def plain (c : Char) : Read Node := do
  let extent ← charExtent
  bump
  return .literal ⟨extent, c, false⟩

/-- The smallest part of a pattern, which begins with the character `c`. -/
def atom (c : Char) : Read Node := do
  if c == '\\' then
    escape
  else
    let extent ← charExtent
    bump
    match c with
    | '.' => return .dot extent
    | '^' => return .assertion extent .startLine
    | '$' => return .assertion extent .endLine
    | _ => return .literal ⟨extent, c, false⟩

/-! ### Numbers -/

/-- Blanks, whatever the mode. After the first of them comments may be skipped too; `n` bounds their
number. -/
def blanks (past : Read Unit) : (n : Nat) → Read Unit
  | 0 => return ()
  | n + 1 => do
    match ← char? with
    | some c =>
      if Text.isBlank c then
        past
        blanks past n
    | none => return ()

/-- The longest run of decimal digits; `n` bounds its length. -/
def digits : (n : Nat) → Read (List Char)
  | 0 => return []
  | n + 1 => do
    match ← char? with
    | some c =>
      if Ascii.isDigit c then
        step
        return c :: (← digits n)
      return []
    | none => return []

/-- A whole number of 32 bits with blanks around it. -/
def number : Read (Except Located Nat) := do
  let length := (← get).rest.length
  blanks bump length
  let start ← here
  let text ← digits length
  let extent ← since start
  blanks step length
  let n := Ascii.digitsValue text
  if text.isEmpty then
    return .error ⟨.repetitionCountDecimalEmpty, extent⟩
  else if n < 4294967296 then
    return .ok n
  else
    return .error ⟨.decimalInvalid, extent⟩

end Read

end MapQuery.Pattern
