import MapQuery.Compiler.Basic
import MapQuery.Json.Shape
import MapQuery.Json.Writer

/-!
# Saved searches

* `SavedSearch` — the text of a query with its flags.
* `SavedSearches` — several of them, the one that was used last first.
* `SavedSearches.remember` — puts a search first and drops its other copies.
* `SavedSearches.document`, `SavedSearches.ofText` — the list as a document, and back.
-/

namespace MapQuery

/-- The text of a query with its flags. -/
structure SavedSearch where
  text : String
  flags : Flags
  deriving DecidableEq, Repr, Inhabited

/-- Saved searches, the one that was used last first. -/
structure SavedSearches where
  searches : List SavedSearch
  deriving DecidableEq, Repr, Inhabited

/-- The query of a saved search. -/
def SavedSearch.compile (s : SavedSearch) (registry : Registry) : Except Failure Query :=
  Query.compile registry s.flags s.text

namespace SavedSearches

/-- No searches. -/
def empty : SavedSearches :=
  ⟨[]⟩

/-- Puts a search first, as its only copy. -/
def remember (l : SavedSearches) (s : SavedSearch) : SavedSearches :=
  ⟨s :: l.searches.filter (· ≠ s)⟩

/-- The number of searches. -/
def size (l : SavedSearches) : Nat :=
  l.searches.length

open Json (Doc Result Shape)
open Json.Shape

/-! ### Reading -/

/-- What has been read of a search. -/
structure SearchDraft where
  text : Option String
  caseSensitive : Option Bool
  regex : Option Bool

/-- A search. A flag that is missing is not set. -/
def searchShape : Shape SavedSearch :=
  record
    (fun depth => do
      let text ← Fields.next Json.Shape.text depth
      let caseSensitive ← Fields.next? bool depth
      let regex ← Fields.next? bool depth
      return ⟨text, ⟨caseSensitive.getD false, regex.getD false⟩⟩)
    (⟨none, none, none⟩ : SearchDraft)
    (fun depth s key value =>
      match key with
      | "text" => once s.text (Json.Shape.text depth value) fun t => { s with text := some t }
      | "case_sensitive" =>
        once s.caseSensitive (bool depth value) fun b => { s with caseSensitive := some b }
      | "regex_search" => once s.regex (bool depth value) fun b => { s with regex := some b }
      | _ => do
        value.skip
        return s)
    (fun s => do
      let text ← required s.text
      return ⟨text, ⟨s.caseSensitive.getD false, s.regex.getD false⟩⟩)

/-- A list of searches. -/
def shape : Shape SavedSearches :=
  record
    (fun depth => do
      let searches ← Fields.next? (list searchShape) depth
      return ⟨searches.getD []⟩)
    (none : Option (List SavedSearch))
    (fun depth s key value =>
      if key = "searches" then once s (list searchShape depth value) some
      else do
        value.skip
        return s)
    (fun s => .ok ⟨s.getD []⟩)

/-- The searches of the text of a document. -/
def ofText (s : String) : Result SavedSearches :=
  shape.read s

/-! ### Writing -/

/-- A search as a value. -/
def searchValue (s : SavedSearch) : Json.Value :=
  .object ["text", "case_sensitive", "regex_search"]
    [.text s.text, .bool s.flags.caseSensitive, .bool s.flags.regex]

/-- The searches as a value. -/
def value (l : SavedSearches) : Json.Value :=
  .object ["searches"] [.array (l.searches.map searchValue)]

/-- The searches as a document. -/
def document (l : SavedSearches) : String :=
  l.value.pretty

end SavedSearches

end MapQuery
