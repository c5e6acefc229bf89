import MapQuery.Primitive.Basic

/-!
# All that can be seen from a primitive

From a primitive one comes to its nodes, its members and what lists it, and from these to others, and so on
without end. What can be seen from it is what is seen at the end of every such way. A condition of the host is
asked of this, since it may ask anything of any primitive.

* `Surroundings.Step` — a step from a primitive to one next to it; `Aspect` — what is seen of one primitive.
* `Surroundings` — what is seen after any steps.
* `Surroundings.of` — what can be seen from a primitive.
-/

namespace MapQuery

/-- A step to a primitive next to the one in question, by its place in the list that has it. -/
inductive Surroundings.Step where
  | wayNode (place : Nat)
  | member (place : Nat)
  | referrer (place : Nat)

/-- What is seen of a primitive without a step to another one. -/
structure Aspect where
  profile : Profile
  isTagged : Bool
  isClosed : Bool
  /-- How many nodes it lists as a way. -/
  wayNodes : Nat
  /-- The roles of its members, in order. -/
  roles : List String
  /-- How many ways and relations list it. -/
  referrers : Nat
  area : Option Float
  length : Option Float
  population : Nat
  deriving Inhabited

/-- What is seen after any steps. -/
structure Surroundings where
  after : List Surroundings.Step → Aspect

namespace Surroundings

/-- What is seen from the next primitive on. -/
def next (s : Surroundings) (step : Step) : Surroundings :=
  ⟨fun steps => s.after (step :: steps)⟩

/-- Surroundings can be asked whatever a primitive can be asked. -/
instance : Primitive Surroundings where
  profile s := (s.after []).profile
  isTagged s := (s.after []).isTagged
  isClosed s := (s.after []).isClosed
  wayNodes s := (List.range (s.after []).wayNodes).map fun place => s.next (.wayNode place)
  members s := (s.after []).roles.mapIdx fun place role => (role, s.next (.member place))
  referrers s := (List.range (s.after []).referrers).map fun place => s.next (.referrer place)
  area s := (s.after []).area
  length s := (s.after []).length
  population s := (s.after []).population

variable {P : Type} [Primitive P]

open Primitive

/-- What is seen of a primitive. -/
def aspect (p : P) : Aspect where
  profile := profile p
  isTagged := isTagged p
  isClosed := isClosed p
  wayNodes := (wayNodes p).length
  roles := (members p).map Prod.fst
  referrers := (referrers p).length
  area := area p
  length := Primitive.length p
  population := population p

/-- The primitive that a step leads to. -/
def follow (p : P) : Step → Option P
  | .wayNode place => (wayNodes p)[place]?
  | .member place => (members p)[place]?.map Prod.snd
  | .referrer place => (referrers p)[place]?

/-- What can be seen from a primitive. Steps that lead nowhere show nothing in particular. -/
def of (p : P) : Surroundings :=
  ⟨fun steps => ((steps.foldlM follow p).map aspect).getD default⟩

end Surroundings

end MapQuery
