import MapQuery.Query.Shown

/-!
# The long form of a query

The long form names every part of a query. An operator stands before its operands, which are between
parentheses.

* `Query.spelled` — the form, operand by operand.
* `Query.spell` — the same form, written from left to right along the right operands.
* `Query.inspected` — the long form, by `spell`.
-/

namespace MapQuery

/-! ### Parts -/

/-- A name with its parts between braces. -/
def inspectedFields (name : String) (fields : List (String × String)) : String :=
  name ++ " \x7b " ++ ", ".intercalate (fields.map fun (field, value) => field ++ ": " ++ value) ++
    " \x7d"

/-- A value that may be missing. -/
def inspectedOption {A : Type} (inspected : A → String) : Option A → String
  | some a => "Some(" ++ inspected a ++ ")"
  | none => "None"

/-- True or false. -/
def inspectedBool (b : Bool) : String :=
  if b then "true" else "false"

/-- The long form of a pattern: its text. -/
def Pattern.inspected (p : Pattern) : String :=
  "Regex(" ++ Text.quoted p.source ++ ")"

/-- The long form of a range. -/
def Range.inspected (r : Range) : String :=
  inspectedFields "Range" [("start", toString r.start), ("end", toString r.stop)]

/-- The name of a comparison in the long form. -/
def Comparison.inspected : Comparison → String
  | less => "Less"
  | greater => "Greater"

/-- The long form of the rectangles that a query was compiled with. -/
def Areas.inspected (a : Areas) : String :=
  inspectedFields "StaticBounds" [("view", inspectedOption Bounds.inspected a.view),
    ("downloaded", inspectedOption Bounds.inspected a.downloaded)]

/-- The long form of a condition on a tag. -/
def TagMatch.inspected (m : TagMatch) : String :=
  inspectedFields "ExactKeyValue" [("key", Text.quoted m.key), ("value", Text.quoted m.value),
    ("mode", m.mode.name), ("key_pattern", inspectedOption Pattern.inspected m.keyPattern),
    ("value_pattern", inspectedOption Pattern.inspected m.valuePattern)]

/-- The long form of two patterns. -/
def inspectedPatterns (ps : Pattern × Pattern) : String :=
  "(" ++ ps.1.inspected ++ ", " ++ ps.2.inspected ++ ")"

/-- The long form of a search in the values of a key. -/
def ValueSearch.inspected (m : ValueSearch) : String :=
  inspectedFields "KeyValue" [("key", Text.quoted m.key), ("value", Text.quoted m.value),
    ("case_sensitive", inspectedBool m.caseSensitive),
    ("patterns", inspectedOption inspectedPatterns m.patterns), ("needle", Text.quoted m.needle)]

/-- The long form of a comparison. -/
def ValueComparison.inspected (m : ValueComparison) : String :=
  inspectedFields "ValueComparison" [("key", Text.quoted m.key),
    ("reference", Text.quoted m.reference),
    ("reference_number", inspectedOption Shortest.shown m.number),
    ("mode", m.comparison.inspected)]

/-- The long form of a search for a text anywhere. -/
def TextSearch.inspected (m : TextSearch) : String :=
  inspectedFields "AnyText" [("search", Text.quoted m.search),
    ("case_sensitive", inspectedBool m.caseSensitive),
    ("pattern", inspectedOption Pattern.inspected m.pattern)]

namespace Query

/-! ### Queries -/

/-- The long form of a query without queries inside. -/
def leafInspected : Query → String
  | always => "Always"
  | never => "Never"
  | booleanTag key dflt =>
    inspectedFields "BooleanTag" [("key", Text.quoted key), ("default", inspectedBool dflt)]
  | tag m => "ExactKeyValue(" ++ m.inspected ++ ")"
  | value m => "KeyValue(" ++ m.inspected ++ ")"
  | comparison m => "ValueComparison(" ++ m.inspected ++ ")"
  | text m => "Any(" ++ m.inspected ++ ")"
  | kind k => "ExactType(" ++ k.inspected ++ ")"
  | user name => "User(" ++ inspectedOption Text.quoted name ++ ")"
  | role r => "Role(" ++ Text.quoted r ++ ")"
  | hasRole r => "HasRole(" ++ Text.quoted r ++ ")"
  | range property r =>
    inspectedFields "Range" [("property", property.name), ("range", r.inspected)]
  | nth position modulo =>
    inspectedFields "Nth" [("position", toString position), ("modulo", inspectedBool modulo)]
  | state s => "Flag(" ++ s.name ++ ")"
  | inArea area all areas =>
    inspectedFields "InArea" [("area", area.name), ("all", inspectedBool all),
      ("bounds", areas.inspected)]
  | custom c => "Custom(" ++ c.inspected ++ ")"
  | not _ | join _ _ _ | parent _ | child _ => ""

/-- The long form of a query. -/
def spelled : Query → String
  | join o left right => o.name ++ "(" ++ left.spelled ++ ", " ++ right.spelled ++ ")"
  | not q => "Not(" ++ q.spelled ++ ")"
  | parent q => "Parent(" ++ q.spelled ++ ")"
  | child q => "Child(" ++ q.spelled ++ ")"
  | q => q.leafInspected

/-- Spells a query after some text, and then closes parentheses. -/
def spell : Query → (before : String) → (unclosed : Nat) → String
  | join o left right, before, unclosed =>
    right.spell (before ++ o.name ++ "(" ++ left.spell "" 0 ++ ", ") (unclosed + 1)
  | not q, before, unclosed => before ++ ("Not(" ++ q.spell "" 0 ++ ")") ++ closing unclosed
  | parent q, before, unclosed => before ++ ("Parent(" ++ q.spell "" 0 ++ ")") ++ closing unclosed
  | child q, before, unclosed => before ++ ("Child(" ++ q.spell "" 0 ++ ")") ++ closing unclosed
  | q, before, unclosed => before ++ q.leafInspected ++ closing unclosed

/-- The long form of a query. -/
def inspected (q : Query) : String :=
  q.spell "" 0

end Query

end MapQuery
