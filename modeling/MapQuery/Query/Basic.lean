import MapQuery.Primitive.Surroundings
import MapQuery.Query.Leaf
import MapQuery.Range

/-!
# Queries

A compiled query is a tree of conditions. Operators join two queries; `parent` and `child` ask for
primitives around the one in question.

* `Property` — the numbers that can be asked for.
* `State` — the states of editing that can be asked for.
* `Condition` — a condition of the host.
* `Query` — a compiled query.
-/

namespace MapQuery

/-- The numbers of a primitive that can be asked for. -/
inductive Property where
  | id
  | version
  | changeset
  | nodes
  | ways
  | members
  | tags
  | areaSize
  | wayLength
  /-- Milliseconds since the start of 1970. -/
  | timestamp
  deriving DecidableEq, Repr, Inhabited

namespace Property

/-- The keyword of a number. -/
def keyword : Property → String
  | id => "id"
  | version => "version"
  | changeset => "changeset"
  | nodes => "nodes"
  | ways => "ways"
  | members => "members"
  | tags => "tags"
  | areaSize => "areasize"
  | wayLength => "waylength"
  | timestamp => "timestamp"

/-- The name of a number in the long form of a query. -/
def name : Property → String
  | id => "Id"
  | version => "Version"
  | changeset => "Changeset"
  | nodes => "Nodes"
  | ways => "Ways"
  | members => "Members"
  | tags => "Tags"
  | areaSize => "AreaSize"
  | wayLength => "WayLength"
  | timestamp => "Timestamp"

end Property

/-- The states of a primitive that can be asked for. -/
inductive State where
  | new
  | modified
  | deleted
  | selected
  | incomplete
  | untagged
  | closed
  deriving DecidableEq, Repr, Inhabited

namespace State

/-- The keyword of a state. -/
def keyword : State → String
  | new => "new"
  | modified => "modified"
  | deleted => "deleted"
  | selected => "selected"
  | incomplete => "incomplete"
  | untagged => "untagged"
  | closed => "closed"

/-- The name of a state in the long form of a query. -/
def name : State → String
  | new => "New"
  | modified => "Modified"
  | deleted => "Deleted"
  | selected => "Selected"
  | incomplete => "Incomplete"
  | untagged => "Untagged"
  | closed => "Closed"

end State

/-- The keyword of a rectangle. -/
def Area.keyword : Area → String
  | view => "inview"
  | downloaded => "indownloadedarea"

/-- The name of a rectangle in the long form of a query. -/
def Area.name : Area → String
  | view => "View"
  | downloaded => "Downloaded"

/-- A condition of the host, with its two written forms. It may ask anything of the primitive and of those
around it. -/
structure Condition where
  shown : String
  inspected : String
  holds : Surroundings → Bool

/-- A compiled query. -/
inductive Query where
  /-- Everything matches. -/
  | always
  /-- Nothing matches. -/
  | never
  | not (q : Query)
  | join (o : Operator) (left right : Query)
  /-- A key has a spelling of true; `dflt` counts for values that are neither true nor false. -/
  | booleanTag (key : String) (dflt : Bool)
  | tag (m : TagMatch)
  | value (m : ValueSearch)
  | comparison (m : ValueComparison)
  | text (m : TextSearch)
  | kind (k : Kind)
  /-- The name of the user; `none` stands for a user without a name. -/
  | user (name : Option String)
  /-- Some relation lists the primitive in this role. -/
  | role (role : String)
  /-- The relation lists some primitive in this role. -/
  | hasRole (role : String)
  | range (property : Property) (range : Range)
  /-- The place in a way or relation; from its end if negative. With `modulo`, a multiple of it. -/
  | nth (position : Int) (modulo : Bool)
  /-- A way or relation lists a primitive that matches. -/
  | parent (q : Query)
  /-- The primitive is listed by one that matches. -/
  | child (q : Query)
  | state (s : State)
  /-- In one of the rectangles; with `all`, all that is listed has to be inside. -/
  | inArea (area : Area) (all : Bool) (areas : Areas)
  | custom (c : Condition)
  deriving Inhabited

end MapQuery
