import MapQuery.Character.AgeTable
import MapQuery.Character.CategoryTable
import MapQuery.Character.PropertyTable
import MapQuery.Character.ScriptTable

/-!
# Named sets of characters

A set of characters can be asked for by name: the name of a category, of a script or of a binary
property, or the name of a property together with one of its values. Names are compared loosely.

* `looseName` — a name without case, blanks, dashes, underscores and a leading `is`.
* `named?`, `valued?` — the set of a name, and the set of a property and a value.
* `word`, `digit`, `space` — the sets behind the short escapes.
-/

namespace MapQuery.Character

/-- Why there is no such set. -/
inductive Unknown where
  | property
  | value
  deriving DecidableEq, Repr

namespace Unknown

/-- The wording of the failure. -/
def message : Unknown → String
  | property => "Unicode property not found"
  | value => "Unicode property value not found"

end Unknown

/-! ### Names -/

/-- Letters in lower case, without blanks, dashes and underscores; other than ASCII is dropped. -/
def looseChars (cs : List Char) : List Char :=
  (cs.filter fun c => c.toNat < 0x80 && c ≠ ' ' && c ≠ '_' && c ≠ '-').map Char.toLower

/-- The form in which names are compared. A leading `is` does not count, except in `isc`. -/
def looseName (s : String) : String :=
  match s.toList with
  | i :: s :: rest =>
    if i.toLower == 'i' && s.toLower == 's' then
      let name := String.ofList (looseChars rest)
      if name == "c" then "isc" else name
    else String.ofList (looseChars (i :: s :: rest))
  | cs => String.ofList (looseChars cs)

/-! ### Categories and scripts -/

/-- The union of several sets. -/
def unionAll (sets : List Ranges) : Ranges :=
  Ranges.normal sets.flatten

/-- The set of a category or of a group of categories. -/
def category? (name : String) : Option Ranges :=
  match name with
  | "any" => some [(0, Ranges.top)]
  | "ascii" => some [(0, 0x7f)]
  | "assigned" => (Listing.find? categories "cn").map fun l => l.ranges.complement
  | _ =>
    match Listing.find? categories name with
    | some l => some l.ranges
    | none =>
      (categoryGroups.find? fun g => g.1.contains name).map fun g =>
        unionAll (g.2.filterMap fun c => (Listing.find? categories c).map Listing.ranges)

/-- The set of a script. -/
def script? (name : String) : Option Ranges :=
  (Listing.find? scripts name).map Listing.ranges

/-- The set of the characters used with a script. -/
def scriptExtension? (name : String) : Option Ranges :=
  (Listing.find? scripts name).map fun l =>
    match l.names.head?.bind fun code => Listing.find? scriptExtensions code with
    | some e => e.ranges
    | none => l.ranges

/-- Everything assigned in a version or before it. -/
def age? (name : String) : Option Ranges :=
  if ages.any fun l => l.names.contains name then
    let before := ages.takeWhile fun l => !l.names.contains name
    let version := (ages.drop before.length).take 1
    some (unionAll ((before ++ version).map Listing.ranges))
  else none

/-! ### Properties that are known by name only -/

/-- Properties that have values but no sets. -/
def unlistedProperties : List String :=
  ["cjkaccountingnumeric", "kaccountingnumeric", "cjkothernumeric", "kothernumeric",
    "cjkprimarynumeric", "kprimarynumeric", "nv", "numericvalue", "cf", "casefolding",
    "cjkcompatibilityvariant", "kcompatibilityvariant", "dm", "decompositionmapping", "fcnfkc",
    "fcnfkcclosure", "lc", "lowercasemapping", "nfkccf", "nfkccasefold", "nfkcscf",
    "nfkcsimplecasefold", "scf", "simplecasefolding", "sfc", "slc", "simplelowercasemapping", "stc",
    "simpletitlecasemapping", "suc", "simpleuppercasemapping", "tc", "titlecasemapping", "uc",
    "uppercasemapping", "bmg", "bidimirroringglyph", "bpb", "bidipairedbracket", "cjkiicore",
    "kiicore", "cjkirggsource", "kirggsource", "cjkirghsource", "kirghsource", "cjkirgjsource",
    "kirgjsource", "cjkirgkpsource", "kirgkpsource", "cjkirgksource", "kirgksource",
    "cjkirgmsource", "kirgmsource", "cjkirgssource", "kirgssource", "cjkirgtsource", "kirgtsource",
    "cjkirguksource", "kirguksource", "cjkirgusource", "kirgusource", "cjkirgvsource",
    "kirgvsource", "cjkrsunicode", "krsunicode", "unicoderadicalstroke", "urs", "equideo",
    "equivalentunifiedideograph", "isc", "isocomment", "jsn", "jamoshortname", "na", "name", "na1",
    "unicode1name", "namealias", "blk", "block", "bc", "bidiclass", "bpt", "bidipairedbrackettype",
    "ccc", "canonicalcombiningclass", "dt", "decompositiontype", "ea", "eastasianwidth", "hst",
    "hangulsyllabletype", "incb", "indicconjunctbreak", "inpc", "indicpositionalcategory", "insc",
    "indicsyllabiccategory", "jg", "joininggroup", "jt", "joiningtype", "lb", "linebreak", "nfcqc",
    "nfcquickcheck", "nfdqc", "nfdquickcheck", "nfkcqc", "nfkcquickcheck", "nfkdqc",
    "nfkdquickcheck", "nt", "numerictype", "vo", "verticalorientation", "ce",
    "compositionexclusion", "compex", "fullcompositionexclusion", "cwkcf",
    "changeswhennfkccasefolded", "xonfc", "expandsonnfc", "xonfd", "expandsonnfd", "xonfkc",
    "expandsonnfkc", "xonfkd", "expandsonnfkd"]

/-- Properties whose values are sets. -/
def valuedProperties : List (List String × (String → Option Ranges)) := [
  (["gc", "generalcategory"], category?),
  (["sc", "script"], script?),
  (["scx", "scriptextensions"], scriptExtension?),
  (["age"], age?)]

/-- The set of a property and one of its values. -/
def valued? (property value : String) : Except Unknown Ranges :=
  let property := looseName property
  match valuedProperties.find? fun p => p.1.contains property with
  | some p =>
    match p.2 (looseName value) with
    | some r => .ok r
    | none => .error .value
  | none =>
    if unlistedProperties.contains property || properties.any fun l => l.names.contains property then
      .error .value
    else .error .property

/-- The set of a name: a binary property first, then a category, then a script. The names of other
properties are not names of sets, except for three that are categories as well. -/
def named? (name : String) : Except Unknown Ranges :=
  let name := looseName name
  let isProperty := !(["cf", "sc", "lc"].contains name) &&
    (unlistedProperties.contains name || valuedProperties.any fun p => p.1.contains name)
  match Listing.find? properties name with
  | some l => .ok l.ranges
  | none =>
    if isProperty then .error .property
    else
      match (category? name).orElse fun _ => script? name with
      | some r => .ok r
      | none => .error .property

/-! ### Common sets -/

/-- The set of a category or of a binary property that exists. -/
def known (name : String) : Ranges :=
  match named? name with
  | .ok r => r
  | .error _ => []

/-- Decimal digits. -/
def digit : Ranges :=
  known "nd"

/-- Blanks. -/
def space : Ranges :=
  known "whitespace"

/-- Letters, marks, decimal digits, connectors and the join controls. -/
def word : Ranges :=
  unionAll [known "alphabetic", known "m", known "nd", known "pc", known "joincontrol"]

/-- Letters in the widest sense. -/
def alphabetic : Ranges :=
  known "alphabetic"

/-- Letters and numbers in the widest sense. -/
def alphanumeric : Ranges :=
  unionAll [alphabetic, known "n"]

/-- Marks that extend the character before them. -/
def extending : Ranges :=
  known "graphemeextend"

/-- Control, format, private-use and unassigned characters, and every separator. -/
def unprintable : Ranges :=
  unionAll [known "c", known "z"]

end MapQuery.Character
