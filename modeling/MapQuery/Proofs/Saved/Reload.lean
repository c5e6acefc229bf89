import MapQuery.Proofs.Json.Written
import MapQuery.Saved.Folder

/-!
# Saved searches are read as they were written

A search is written as an object, a list of searches as an object with an array. Each shape takes back what
was written, at every depth that is left for it.

* `Json.Shape.list_doc` — an array of values that are taken back is taken back.
* `SavedSearches.ofText_document` — the document of a list of searches is read as the list.
* `Folder.searches_of_write_document` — a list that has been written to a file is in it.
-/

namespace MapQuery

namespace Json.Shape

theorem inside_of_lt {depth : Nat} (h : 1 < depth) : inside depth = .ok (depth - 1) :=
  if_neg (by omega)

/-- An array of values, each of which a shape takes back, is taken back as the list. -/
theorem list_doc {A : Type} {shape : Shape A} {value : A → Value} {depth : Nat} (hd : 1 < depth)
    (h : ∀ a, shape (depth - 1) (value a).doc = .ok a) (as : List A) :
    list shape depth (Value.array (as.map value)).doc = .ok as := by
  have heach : shape (depth - 1) ∘ Value.doc ∘ value = fun a => pure (id a) := funext h
  have hall : (Value.docs (as.map value)).mapM (shape (depth - 1)) = (pure as : Result (List A)) := by
    rw [Value.docs_eq_map, List.map_map, List.mapM_map, heach, List.mapM_pure, List.map_id]
  simp only [Value.doc, list, inside_of_lt hd]
  show (do
    let values ← (Value.docs (as.map value)).mapM (shape (depth - 1))
    Tail.closed.close
    return values) = _
  rw [hall]
  rfl

end Json.Shape

namespace SavedSearches

open Json (Doc)

/-- The document of a search is taken back as the search. -/
theorem searchShape_doc {depth : Nat} (h : 1 < depth) (s : SavedSearch) :
    searchShape depth (searchValue s).doc = .ok s := by
  simp only [searchShape, searchValue, Json.Value.doc, Json.Value.members, Json.Shape.record,
    Json.Shape.inside_of_lt h]
  rfl

/-- The document of a list of searches is taken back as the list. -/
theorem shape_doc {depth : Nat} (h : 3 < depth) (l : SavedSearches) : shape depth l.value.doc = .ok l := by
  have hlist : Json.Shape.list searchShape (depth - 1) (Json.Value.array (l.searches.map searchValue)).doc =
      .ok l.searches :=
    Json.Shape.list_doc (by omega) (searchShape_doc (by omega)) l.searches
  have hdoc : l.value.doc =
      .object [.ok "searches"] [(Json.Value.array (l.searches.map searchValue)).doc] .closed := by
    simp only [value, Json.Value.doc, Json.Value.members]
    rfl
  generalize (Json.Value.array (l.searches.map searchValue)).doc = searches at hlist hdoc
  rw [hdoc]
  simp only [shape, Json.Shape.record, Json.Shape.inside_of_lt (show 1 < depth by omega)]
  show (do
    let searches ← (do
      let searches ← (Json.Shape.list searchShape (depth - 1) searches).map some
      Except.ok searches)
    Json.Tail.closed.close
    Except.ok ⟨searches.getD []⟩) = Except.ok l
  rw [hlist]
  rfl

/-- The document of a list of searches is read as the list. -/
theorem ofText_document (l : SavedSearches) : ofText l.document = .ok l := by
  rw [ofText, Json.Shape.read, document, Json.Doc.ofText_pretty]
  show (shape Doc.depthLimit l.value.doc >>= fun value => pure value) = _
  rw [shape_doc (by decide)]
  rfl

end SavedSearches

namespace Folder

theorem searchesOf_document (name : String) (l : SavedSearches) : searchesOf name l.document = .ok l := by
  rw [searchesOf, SavedSearches.ofText_document]
  rfl

/-- A list of searches that has been written to a file is in the file. -/
theorem searches_of_write_document {f g : Folder} {name : String} {l : SavedSearches}
    (h : f.write name l.document = .ok g) : g.searches name = .ok l := by
  rw [searches, read_of_write h]
  change (pure l.document >>= searchesOf name) = _
  rw [pure_bind, searchesOf_document]

end Folder

end MapQuery
