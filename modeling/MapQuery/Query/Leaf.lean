import MapQuery.Query.Failure
import MapQuery.Text.Normal
import MapQuery.Number.Double

/-!
# Conditions on tags and text

The conditions of a query that need preparation: patterns are compiled, and searched text is brought
into its normal form, when the query is compiled.

* `Flags` — how a query is to be read.
* `TagMatch` — a key has a value.
* `ValueSearch` — a key has a value that holds a text.
* `ValueComparison` — a key has a value below or above another one.
* `TextSearch` — a text occurs anywhere.
-/

namespace MapQuery

/-- How a query is to be read. -/
structure Flags where
  caseSensitive : Bool
  /-- Texts are patterns. -/
  regex : Bool
  deriving DecidableEq, Repr, Inhabited

namespace Flags

/-- Letters match in any case, and texts stand for themselves. -/
def plain : Flags :=
  ⟨false, false⟩

end Flags

/-- A pattern from its text, under the flags of a query. -/
def compilePattern (mode : Pattern.Mode) (caseSensitive : Bool) (text : String)
    (builder : Pattern.Builder := .standard) : Except Failure Pattern :=
  (Pattern.compile mode caseSensitive text builder).mapError (.pattern text)

/-! ### Keys with values -/

/-- What has to be known about a tag. -/
inductive TagMode where
  /-- Anything: `*=*`. -/
  | any
  /-- Some key has the value: `*=v`. -/
  | anyKey
  /-- The key has some value: `k=*`. -/
  | anyValue
  /-- The key has the value: `k=v`. -/
  | exact
  /-- There are no tags: `*=`. -/
  | noTags
  /-- The key has no value, or an empty one: `k=`. -/
  | missingKey
  | anyKeyRegex
  | anyValueRegex
  | exactRegex
  | missingKeyRegex
  deriving DecidableEq, Repr, Inhabited

namespace TagMode

/-- The name of a mode in the long form of a query. -/
def name : TagMode → String
  | any => "Any"
  | anyKey => "AnyKey"
  | anyValue => "AnyValue"
  | exact => "Exact"
  | noTags => "NoTags"
  | missingKey => "MissingKey"
  | anyKeyRegex => "AnyKeyRegex"
  | anyValueRegex => "AnyValueRegex"
  | exactRegex => "ExactRegex"
  | missingKeyRegex => "MissingKeyRegex"

/-- The mode for a key and a value, which may be `*`; the value may also be empty. -/
def of (key value : String) (regex : Bool) : TagMode :=
  if value = "" then if key = "*" then noTags else if regex then missingKeyRegex else missingKey
  else if key = "*" then
    if value = "*" then any else if regex then anyKeyRegex else anyKey
  else if value = "*" then if regex then anyValueRegex else anyValue
  else if regex then exactRegex else exact

end TagMode

/-- A key has a value. Patterns are given where a key or a value has to match one. -/
structure TagMatch where
  key : String
  value : String
  mode : TagMode
  keyPattern : Option Pattern
  valuePattern : Option Pattern

/-- The condition that a key has a value. -/
def TagMatch.compile (key : String) (value : Option String) (regex caseSensitive : Bool)
    (builder : Pattern.Builder := .standard) : Except Failure TagMatch := do
  if key = "" then
    throw .emptyKey
  let value := value.getD ""
  let keyPattern ←
    if regex && key != "*" then some <$> compilePattern .full caseSensitive key builder
    else pure none
  let valuePattern ←
    if regex && value != "" && value != "*" then
      some <$> compilePattern .full caseSensitive value builder
    else pure none
  return ⟨key, value, .of key value regex, keyPattern, valuePattern⟩

/-! ### Keys with values that hold a text -/

/-- A key has a value that holds a text. -/
structure ValueSearch where
  key : String
  value : String
  caseSensitive : Bool
  /-- The patterns of key and value, where they are patterns. -/
  patterns : Option (Pattern × Pattern)
  /-- The normal form of the value. -/
  needle : String

/-- The condition that a key has a value which holds a text. -/
def ValueSearch.compile (key value : String) (flags : Flags) (builder : Pattern.Builder := .standard) :
    Except Failure ValueSearch := do
  let patterns ←
    if flags.regex then do
      let keyPattern ← compilePattern .find flags.caseSensitive key builder
      let valuePattern ← compilePattern .find flags.caseSensitive value builder
      pure (some (keyPattern, valuePattern))
    else pure none
  return ⟨key, value, flags.caseSensitive, patterns, Text.normal flags.caseSensitive value⟩

/-! ### Comparisons -/

/-- A key has a value below or above another one. -/
structure ValueComparison where
  key : String
  reference : String
  /-- The reference as a number, if it is one. -/
  number : Option Float
  comparison : Comparison

/-- The condition that a key has a value below or above a reference. -/
def ValueComparison.compile (key : String) (reference : Option String) (c : Comparison) :
    Except Failure ValueComparison :=
  match reference with
  | some r => .ok ⟨key, r, Double.number? r, c⟩
  | none => .error (.nothingToCompare c)

/-! ### Text anywhere -/

/-- A text occurs in a key, in a value or in the name of the user. -/
structure TextSearch where
  /-- The normal form of the text; of a pattern, the composed form. -/
  search : String
  caseSensitive : Bool
  pattern : Option Pattern

/-- The condition that a text occurs anywhere. -/
def TextSearch.compile (text : String) (flags : Flags) (builder : Pattern.Builder := .standard) :
    Except Failure TextSearch :=
  if flags.regex then do
    let search := Text.normal true text
    let pattern ← compilePattern .find flags.caseSensitive search builder
    return ⟨search, flags.caseSensitive, some pattern⟩
  else .ok ⟨Text.normal flags.caseSensitive text, flags.caseSensitive, none⟩

end MapQuery
