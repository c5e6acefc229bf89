import MapQuery.Text.Quoted
import Std.Data.TreeMap

/-!
# Tags

A primitive carries tags: keys with one value each, kept in the order of the keys.

* `Tags` — the tags of a primitive; `get?`, `keys`, `toList` are the views on them.
* `Tags.isPlain` — no key says anything about the primitive itself.
-/

namespace MapQuery

/-- Keys with their values. -/
structure Tags where
  entries : Std.TreeMap String String

namespace Tags

/-- No tags. -/
def empty : Tags :=
  ⟨∅⟩

instance : Inhabited Tags :=
  ⟨empty⟩

/-- The value of a key. -/
def get? (t : Tags) (key : String) : Option String :=
  t.entries[key]?

/-- With one more tag, in the place of one with the same key. -/
def insert (t : Tags) (key value : String) : Tags :=
  ⟨t.entries.insert key value⟩

/-- All tags, in the order of their keys. -/
def toList (t : Tags) : List (String × String) :=
  t.entries.toList

/-- All keys, in order. -/
def keys (t : Tags) : List String :=
  t.entries.keys

/-- All values, in the order of their keys. -/
def values (t : Tags) : List String :=
  t.entries.values

/-- There are no tags. -/
def isEmpty (t : Tags) : Bool :=
  t.entries.isEmpty

/-- The number of tags. -/
def size (t : Tags) : Nat :=
  t.entries.size

/-- The tags of a list, the last one where a key is repeated. -/
def ofList (l : List (String × String)) : Tags :=
  l.foldl (fun t (key, value) => t.insert key value) empty

@[simp] theorem get?_empty (key : String) : empty.get? key = none := by
  simp [get?, empty]

theorem get?_insert (t : Tags) (key value other : String) :
    (t.insert key value).get? other = if key = other then some value else t.get? other := by
  simp [get?, insert, Std.TreeMap.getElem?_insert]

/-- A tag is listed exactly when its key has its value. -/
theorem mem_toList {t : Tags} {key value : String} :
    (key, value) ∈ t.toList ↔ t.get? key = some value :=
  Std.TreeMap.mem_toList_iff_getElem?_eq_some

/-- A key is listed exactly when it has a value. -/
theorem mem_keys {t : Tags} {key : String} : key ∈ t.keys ↔ (t.get? key).isSome := by
  simp [keys, get?, Std.TreeMap.mem_keys]

/-! ### Keys that say nothing -/

/-- Keys about the origin of the data. -/
def plainKeys : List String :=
  ["source", "source_ref", "comment", "watch", "description", "attribution", "created_by",
    "converted_by"]

/-- Beginnings of keys about the origin of the data. -/
def plainStems : List String :=
  ["source:", "watch:"]

/-- A key that says nothing about the primitive itself. -/
def isPlainKey (key : String) : Bool :=
  plainKeys.contains key || plainStems.any fun stem => stem.isPrefixOf key

/-- No key says anything about the primitive itself. -/
def isPlain (t : Tags) : Bool :=
  t.keys.all isPlainKey

/-! ### Forms -/

/-- The tags between braces, keys and values as diagnostics write them. -/
def inspected (t : Tags) : String :=
  "\x7b" ++
    ", ".intercalate (t.toList.map fun (key, value) => Text.quoted key ++ ": " ++ Text.quoted value) ++
    "\x7d"

/-- The tags between braces, as in `\x7ba=b, c=d\x7d`. -/
def shown (t : Tags) : String :=
  "\x7b" ++ ", ".intercalate (t.toList.map fun (key, value) => key ++ "=" ++ value) ++ "\x7d"

end Tags

end MapQuery
