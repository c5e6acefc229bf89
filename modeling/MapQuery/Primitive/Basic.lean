import MapQuery.Geometry.Coordinate
import MapQuery.Instant.Basic
import MapQuery.Primitive.Kind
import MapQuery.Primitive.Tags

/-!
# Primitives

What a query may ask of a primitive: facts about itself, and the primitives around it.

* `Profile` — the facts about a primitive itself.
* `Primitive` — the interface of anything that queries can be evaluated on.
-/

namespace MapQuery

/-- The facts about a primitive that concern no other primitive. -/
structure Profile where
  id : Id
  tags : Tags
  version : Int
  changeset : Int
  timestamp : Option Instant
  user : Option String
  isModified : Bool
  isNewOrUndeleted : Bool
  isDeleted : Bool
  isSelected : Bool
  isIncomplete : Bool
  /-- For nodes. -/
  coordinate : Option Coordinate
  deriving Inhabited

namespace Profile

/-- The kind of a primitive. -/
def kind (p : Profile) : Kind :=
  p.id.kind

/-- New primitives have no positive number yet. -/
def isNew (p : Profile) : Bool :=
  p.id.number ≤ 0

/-- Neither deleted nor incomplete. -/
def isUsable (p : Profile) : Bool :=
  !p.isDeleted && !p.isIncomplete

end Profile

/-- Anything that queries can be evaluated on. -/
class Primitive (P : Type) where
  profile : P → Profile
  /-- At least one tag says something about the primitive itself. -/
  isTagged : P → Bool
  /-- A way that ends where it begins. -/
  isClosed : P → Bool
  /-- The nodes of a way, in order. -/
  wayNodes : P → List P
  /-- The members of a relation with their roles, in order. -/
  members : P → List (String × P)
  /-- The ways and relations that list the primitive. -/
  referrers : P → List P
  /-- The enclosed area, in square metres. -/
  area : P → Option Float
  /-- The length of a way, in metres. -/
  length : P → Option Float
  /-- A bound on the number of primitives that can be reached. -/
  population : P → Nat

namespace Primitive

variable {P : Type} [Primitive P]

/-- The id of a primitive. -/
def id (p : P) : Id :=
  (profile p).id

/-- The kind of a primitive. -/
def kind (p : P) : Kind :=
  (profile p).kind

/-- Some member is incomplete. -/
def hasIncompleteMembers (p : P) : Bool :=
  (members p).any fun m => (profile m.2).isIncomplete

/-- The primitives that a way or a relation lists, in order. -/
def children (p : P) : List P :=
  match kind p with
  | .node => []
  | .way => wayNodes p
  | .relation => (members p).map Prod.snd

end Primitive

end MapQuery
