import MapQuery.Query.Basic

/-!
# The short form of a query

An operator stands between its operands. An operand stands in parentheses when it is joined by another
operator, so that the operands of a run of one operator are not grouped.

* `Query.written` — the form, operand by operand.
* `Query.along` — the same form, written from left to right along the right operands: what has been
  written so far and the number of parentheses that are still open are carried along.
* `Query.shown` — the short form, by `along`.
-/

namespace MapQuery

/-- Several copies of a closing parenthesis. -/
def closing (n : Nat) : String :=
  String.ofList (List.replicate n ')')

/-- A text, between parentheses if asked for. -/
def parenthesized (wanted : Bool) (s : String) : String :=
  if wanted then "(" ++ s ++ ")" else s

namespace Query

/-- The operator at the root of a query. -/
def operator? : Query → Option Operator
  | join o _ _ => some o
  | _ => none

/-- The root of a query is an operator. -/
def isJoined (q : Query) : Bool :=
  q.operator?.isSome

/-- The root of a query is an operator other than `o`. -/
def differs (o : Operator) (q : Query) : Bool :=
  q.operator?.any (· ≠ o)

/-- The short form of a query without queries inside. -/
def leafShown : Query → String
  | always => "always"
  | never => "never"
  | booleanTag key _ => key ++ "?"
  | tag m => m.key ++ "=" ++ m.value
  | value m => m.key ++ "=" ++ m.value
  | comparison m => m.key ++ m.comparison.symbol ++ m.reference
  | text m => m.search
  | kind k => "type=" ++ k.name
  | user name => "user=" ++ name.getD ""
  | role r => "role=" ++ r
  | hasRole r => "hasRole=" ++ r
  | range property r => property.keyword ++ "=" ++ r.shown
  | nth position modulo => (if modulo then "nth%" else "nth") ++ ":" ++ toString position
  | state s => s.keyword
  | inArea area all _ => (if all then "all" else "") ++ area.keyword
  | custom c => c.shown
  | not _ | join _ _ _ | parent _ | child _ => ""

/-- The short form of a query. -/
def written : Query → String
  | join o left right =>
    parenthesized (left.differs o) left.written ++ " " ++ o.symbol ++ " " ++
      parenthesized (right.differs o) right.written
  | not q => "!" ++ parenthesized q.isJoined q.written
  | parent q => "parent(" ++ q.written ++ ")"
  | child q => "child(" ++ q.written ++ ")"
  | q => q.leafShown

/-- Writes a query after some text, and then closes parentheses. -/
def along : Query → (before : String) → (unclosed : Nat) → String
  | join o left right, before, unclosed =>
    let before :=
      before ++ parenthesized (left.differs o) (left.along "" 0) ++ " " ++ o.symbol ++ " "
    if right.differs o then right.along (before ++ "(") (unclosed + 1)
    else right.along before unclosed
  | not q, before, unclosed =>
    before ++ ("!" ++ parenthesized q.isJoined (q.along "" 0)) ++ closing unclosed
  | parent q, before, unclosed => before ++ ("parent(" ++ q.along "" 0 ++ ")") ++ closing unclosed
  | child q, before, unclosed => before ++ ("child(" ++ q.along "" 0 ++ ")") ++ closing unclosed
  | q, before, unclosed => before ++ q.leafShown ++ closing unclosed

/-- The short form of a query. -/
def shown (q : Query) : String :=
  q.along "" 0

end Query

end MapQuery
