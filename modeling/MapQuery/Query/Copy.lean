import MapQuery.Query.Basic

/-!
# Copies of a query

A query is copied along its right operands. The operators on the way wait with copies of their left operands,
the last one in front, and what stands at the end is joined to them one by one.

* `Query.leafCopied` — a query without queries inside, put together again.
* `Query.rejoined` — the operators that wait, joined to what stands at the end.
* `Query.copyAlong` — the copy along the right operands.
* `Query.copy` — the copy of a query.
-/

namespace MapQuery

namespace Query

/-- A query without queries inside, put together again from what it holds. -/
def leafCopied : Query → Query
  | always => always
  | never => never
  | booleanTag key dflt => booleanTag key dflt
  | tag m => tag m
  | value m => value m
  | comparison m => comparison m
  | text m => text m
  | kind k => kind k
  | user name => user name
  | role r => role r
  | hasRole r => hasRole r
  | range property r => range property r
  | nth position modulo => nth position modulo
  | state s => state s
  | inArea area all areas => inArea area all areas
  | custom c => custom c
  | not _ | join _ _ _ | parent _ | child _ => always

/-- Joins what stands at the end to the operators that wait, the first of them first. -/
def rejoined (waiting : List (Operator × Query)) (last : Query) : Query :=
  waiting.foldl (fun right (o, left) => join o left right) last

/-- Copies a query, and then joins the copy to the operators that wait. -/
def copyAlong : Query → (waiting : List (Operator × Query)) → Query
  | join o left right, waiting => right.copyAlong ((o, left.copyAlong []) :: waiting)
  | not q, waiting => rejoined waiting (not (q.copyAlong []))
  | parent q, waiting => rejoined waiting (parent (q.copyAlong []))
  | child q, waiting => rejoined waiting (child (q.copyAlong []))
  | q, waiting => rejoined waiting q.leafCopied

/-- The copy of a query. -/
def copy (q : Query) : Query :=
  q.copyAlong []

end Query

end MapQuery
