import MapQuery.DataSet.Basic
import MapQuery.Geometry.Measure
import MapQuery.Query.Evaluate

/-!
# The primitives of a data set

* `DataSet.Handle` — a primitive of a data set.
* The instance of `Primitive` for handles.
* `DataSet.search` — the primitives that match a query, in the order of their ids.
-/

namespace MapQuery

namespace DataSet

/-- A primitive of a data set. -/
structure Handle (d : DataSet) where
  id : Id
  entry : Entry
  found : d.get? id = some entry

/-- The primitive of an id. -/
def handle? (d : DataSet) (id : Id) : Option (Handle d) :=
  match h : d.get? id with
  | some e => some ⟨id, e, h⟩
  | none => none

/-- All primitives, in the order of their ids. -/
def handles (d : DataSet) : List (Handle d) :=
  d.ids.filterMap d.handle?

namespace Handle

variable {d : DataSet}

/-- Without a positive number. -/
def isNew (h : Handle d) : Bool :=
  h.id.number ≤ 0

/-- The facts about a primitive. -/
def profile (h : Handle d) : Profile :=
  let m := h.entry.metadata
  { id := h.id
    tags := h.entry.tags
    version := m.version
    changeset := m.changeset
    timestamp := m.timestamp
    user := m.user
    isModified := m.modified
    isNewOrUndeleted := (h.isNew && !m.deleted) || m.undeleted
    isDeleted := m.deleted
    isSelected := d.selected.contains h.id
    isIncomplete := m.incomplete
    coordinate :=
      match h.entry.geometry with
      | .point c => c
      | _ => none }

/-- The nodes of a way. -/
def wayNodes (h : Handle d) : List (Handle d) :=
  match h.entry.geometry with
  | .line nodes => nodes.filterMap fun n => d.handle? ⟨.node, n⟩
  | _ => []

/-- The members of a relation with their roles. -/
def members (h : Handle d) : List (String × Handle d) :=
  match h.entry.geometry with
  | .group ms => ms.filterMap fun m => (d.handle? m.target).map fun p => (m.role, p)
  | _ => []

/-- The ways and relations that list a primitive. -/
def referrers (h : Handle d) : List (Handle d) :=
  h.entry.referrers.filterMap d.handle?

/-- The coordinates of the nodes of a way, if all are known. -/
def path (h : Handle d) : Option (List Coordinate) :=
  match h.entry.geometry with
  | .line nodes => nodes.mapM fun n => (d.handle? ⟨.node, n⟩).bind fun p => p.profile.coordinate
  | _ => none

/-- The area that a way encloses, if it is closed. -/
def ringArea (h : Handle d) : Option Float :=
  if h.entry.geometry.isClosed then h.path.map Geometry.ringArea else none

/-- The areas of the outer ways, if there are any, less those of the inner ways. -/
def multipolygonArea (ms : List Member) : Option Float :=
  let areas : List (String × Float) := ms.filterMap fun m =>
    if m.target.kind = .way then
      (d.handle? m.target).bind fun way => way.ringArea.map fun a => (m.role, a)
    else none
  let (inner, outer) := areas.partition fun (role, _) => role = "inner"
  let sum (l : List (String × Float)) : Float := Geometry.total (l.map Prod.snd)
  if outer.isEmpty then none else some (Double.greatest (sum outer - sum inner) 0.0)

/-- The area that a closed way or a multipolygon encloses. -/
def area (h : Handle d) : Option Float :=
  match h.entry.geometry with
  | .line _ => h.ringArea
  | .group ms =>
    if h.entry.tags.get? "type" = some "multipolygon" then multipolygonArea (d := d) ms else none
  | .point _ => none

/-- The length of a way. -/
def length (h : Handle d) : Option Float :=
  h.path.map Geometry.pathLength

/-- The id with the tags, if there are any. -/
def shown (h : Handle d) : String :=
  h.id.shown ++ if h.entry.tags.isEmpty then "" else " " ++ h.entry.tags.shown

/-- The long form of a primitive. -/
def inspected (h : Handle d) : String :=
  "PrimitiveRef \x7b id: " ++ h.id.inspected ++ ", tags: " ++ h.entry.tags.inspected ++ " \x7d"

end Handle

instance (d : DataSet) : Primitive (Handle d) where
  profile := Handle.profile
  isTagged h := !h.entry.tags.isPlain
  isClosed h := h.entry.geometry.isClosed
  wayNodes := Handle.wayNodes
  members := Handle.members
  referrers := Handle.referrers
  area := Handle.area
  length := Handle.length
  population _ := d.size

/-- The primitives that match a query, in the order of their ids. -/
def search (d : DataSet) (q : Query) : List (Handle d) :=
  d.handles.filter q.holds

end DataSet

end MapQuery
