import MapQuery.Primitive.Basic
import Std.Data.TreeSet

/-!
# Data sets

A data set holds nodes, ways and relations by their ids. Whatever a way or a relation lists is in the
data set too: as long as it has not been added itself, an incomplete primitive without tags stands in
its place. With each primitive the ways and relations are kept that list it.

* `Geometry` — where a node is, or what a way or a relation lists.
* `Entry` — a primitive as it is kept.
* `DataSet` — the entries, the selection, and the two rectangles.
* `DataSet.add` — adds a primitive, or gives one a new geometry.
* `DataSet.putTag`, `setMetadata`, `select`, `withView`, `withDownloaded` — the other changes.
-/

namespace MapQuery

/-- What is known about the history of a primitive, and the state of editing. -/
structure Metadata where
  version : Int
  changeset : Int
  timestamp : Option Instant
  user : Option String
  modified : Bool
  deleted : Bool
  incomplete : Bool
  undeleted : Bool
  deriving DecidableEq, Repr, Inhabited

/-- Nothing is known. -/
def Metadata.blank : Metadata :=
  ⟨0, 0, none, none, false, false, false, false⟩

/-- A member of a relation. -/
structure Member where
  target : Id
  role : String
  deriving DecidableEq, Repr, Inhabited

/-- Where a node is, or what a way or a relation lists. -/
inductive Geometry where
  | point (coordinate : Option Coordinate)
  | line (nodes : List Int)
  | group (members : List Member)
  deriving Inhabited

namespace Geometry

/-- Nothing is known of a primitive of a kind. -/
def blank : Kind → Geometry
  | .node => point none
  | .way => line []
  | .relation => group []

/-- The kind of primitives that have such a geometry. -/
def kind : Geometry → Kind
  | point _ => .node
  | line _ => .way
  | group _ => .relation

/-- The ids of what is listed, in order. -/
def children : Geometry → List Id
  | point _ => []
  | line nodes => nodes.map fun n => ⟨.node, n⟩
  | group members => members.map Member.target

/-- A way that ends where it begins, after two other nodes at least. -/
def isClosed : Geometry → Bool
  | line nodes => 3 ≤ nodes.length && nodes.head? = nodes.getLast?
  | _ => false

end Geometry

/-- A primitive as it is kept. -/
structure Entry where
  tags : Tags
  metadata : Metadata
  geometry : Geometry
  /-- The ways and relations that list the primitive, in the order in which they were added. -/
  referrers : List Id
  deriving Inhabited

namespace Entry

/-- What stands for a primitive that is listed but has not been added. -/
def placeholder (k : Kind) : Entry :=
  ⟨.empty, { Metadata.blank with incomplete := true }, .blank k, []⟩

/-- Listed by one more primitive; nothing changes if it already is. -/
def addReferrer (e : Entry) (id : Id) : Entry :=
  if e.referrers.contains id then e else { e with referrers := e.referrers ++ [id] }

/-- No longer listed by a primitive. -/
def dropReferrer (e : Entry) (id : Id) : Entry :=
  { e with referrers := e.referrers.filter (· ≠ id) }

end Entry

/-- Nodes, ways and relations, the selected ones of them, and the two rectangles of the map. -/
structure DataSet where
  entries : Std.TreeMap Id Entry
  selected : Std.TreeSet Id
  areas : Areas

namespace DataSet

/-- Nothing. -/
def empty : DataSet :=
  ⟨∅, ∅, .unknown⟩

instance : Inhabited DataSet :=
  ⟨empty⟩

/-- The entry of an id. -/
def get? (d : DataSet) (id : Id) : Option Entry :=
  d.entries[id]?

/-- The entry of an id, or what stands for it. -/
def entryOf (d : DataSet) (id : Id) : Entry :=
  (d.get? id).getD (.placeholder id.kind)

/-- There is a primitive of this id. -/
def contains (d : DataSet) (id : Id) : Bool :=
  d.entries.contains id

/-- The number of primitives. -/
def size (d : DataSet) : Nat :=
  d.entries.size

/-- All ids, in order. -/
def ids (d : DataSet) : List Id :=
  d.entries.keys

/-- With an entry in the place of an id. -/
def put (d : DataSet) (id : Id) (e : Entry) : DataSet :=
  { d with entries := d.entries.insert id e }

/-- With the entry of an id changed, if there is one. -/
def modify (d : DataSet) (id : Id) (f : Entry → Entry) : DataSet :=
  match d.get? id with
  | some e => d.put id (f e)
  | none => d

/-- Takes a primitive away from what it lists. -/
def unlink (d : DataSet) (id : Id) : DataSet :=
  match d.get? id with
  | some e => e.geometry.children.foldl (fun d child => d.modify child (·.dropReferrer id)) d
  | none => d

/-- Enters a primitive with something that it lists. -/
def link (d : DataSet) (id child : Id) : DataSet :=
  d.put child ((d.entryOf child).addReferrer id)

/-- Adds a primitive, or gives one a new geometry. It keeps its tags, and is complete from then on. -/
def add (d : DataSet) (id : Id) (g : Geometry) : DataSet :=
  let d := g.children.foldl (fun d child => d.link id child) (d.unlink id)
  let e := d.entryOf id
  d.put id { e with geometry := g, metadata := { e.metadata with incomplete := false } }

/-- Adds a node. -/
def addNode (d : DataSet) (number : Int) (c : Option Coordinate) : DataSet :=
  d.add ⟨.node, number⟩ (.point c)

/-- Adds a way. A closed way lists its first node again at the end. -/
def addWay (d : DataSet) (number : Int) (nodes : List Int) : DataSet :=
  d.add ⟨.way, number⟩ (.line nodes)

/-- Adds a relation. -/
def addRelation (d : DataSet) (number : Int) (members : List Member) : DataSet :=
  d.add ⟨.relation, number⟩ (.group members)

/-- Gives a primitive a tag. -/
def putTag (d : DataSet) (id : Id) (key value : String) : DataSet :=
  d.modify id fun e => { e with tags := e.tags.insert key value }

/-- Changes what is known about a primitive. -/
def setMetadata (d : DataSet) (id : Id) (f : Metadata → Metadata) : DataSet :=
  d.modify id fun e => { e with metadata := f e.metadata }

/-- Gives a primitive all its tags and all that is known about it. -/
def fill (d : DataSet) (id : Id) (tags : Tags) (m : Metadata) : DataSet :=
  d.modify id fun e => { e with tags := tags, metadata := m }

/-- Selects a primitive, or not. -/
def select (d : DataSet) (id : Id) (on : Bool) : DataSet :=
  { d with selected := if on then d.selected.insert id else d.selected.erase id }

/-- With another view. -/
def withView (d : DataSet) (b : Option Bounds) : DataSet :=
  { d with areas := { d.areas with view := b } }

/-- With another downloaded area. -/
def withDownloaded (d : DataSet) (b : Option Bounds) : DataSet :=
  { d with areas := { d.areas with downloaded := b } }

/-! ### Entries after a change -/

@[simp] theorem get?_empty (id : Id) : empty.get? id = none := by
  simp [get?, empty]

theorem get?_put (d : DataSet) (id other : Id) (e : Entry) :
    (d.put id e).get? other = if id = other then some e else d.get? other := by
  simp [get?, put, Std.TreeMap.getElem?_insert]

theorem get?_modify (d : DataSet) (id other : Id) (f : Entry → Entry) :
    (d.modify id f).get? other =
      if id = other then (d.get? other).map f else d.get? other := by
  unfold modify
  split
  · next e he => rw [get?_put]; split <;> simp_all
  · next he => split <;> simp_all

end DataSet

end MapQuery
