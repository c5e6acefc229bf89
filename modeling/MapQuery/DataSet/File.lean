import MapQuery.DataSet.Basic
import MapQuery.Instant.Reader
import MapQuery.Json.Shape

/-!
# Data set files

A data set file is a document with the two rectangles, the selection, and the nodes, ways and relations.
Every part may be missing. Fields that are not known are passed over, and none may be given twice.

* `DataSet.Record` — a primitive of a file.
* `DataSet.File` — the parts of a file; `File.shape` takes them out of a document.
* `DataSet.ofFile` — the data set of a file.
* `DataSet.ofText` — the data set of the text of a file.
-/

namespace MapQuery

namespace DataSet

/-- A primitive of a file. -/
structure Record where
  id : Id
  geometry : Geometry
  tags : Tags
  metadata : Metadata
  agrees : geometry.kind = id.kind

instance : Inhabited Record :=
  ⟨⟨⟨.node, 0⟩, .point none, .empty, .blank, rfl⟩⟩

/-- The parts of a file. -/
structure File where
  areas : Areas
  selected : List Id
  nodes : List Record
  ways : List Record
  relations : List Record
  deriving Inhabited

/-- With a primitive of a file. -/
def addRecord (d : DataSet) (r : Record) : DataSet :=
  (d.add r.id r.geometry).fill r.id r.tags r.metadata

/-- The data set of a file: nodes first, then ways, then relations. -/
def ofFile (f : File) : DataSet :=
  let d : DataSet := ⟨∅, ∅, f.areas⟩
  let d := (f.nodes ++ f.ways ++ f.relations).foldl addRecord d
  f.selected.foldl (fun d id => d.select id true) d

/-! ### Shapes of the parts -/

open Json (Doc Result Shape)
open Json.Shape

/-- A kind by its exact name. -/
def kindShape : Shape Kind :=
  named fun s => [Kind.node, .way, .relation].find? fun k => k.name = s

/-- An instant. -/
def instantShape : Shape Instant
  | depth, d => do
    let s ← text depth d
    required (Instant.readLoose? s)

/-- The tags of a primitive. Of a key that is repeated the last value counts. -/
def tagsShape : Shape Tags :=
  object Tags.empty (fun depth t key value => do return t.insert key (← text depth value)) .ok

/-- What has been read of a rectangle. -/
structure BoundsDraft where
  minLat : Option Float
  minLon : Option Float
  maxLat : Option Float
  maxLon : Option Float

/-- A rectangle. Its corners are taken as they are. -/
def boundsShape : Shape Bounds :=
  record
    (fun depth => do
      return ⟨← Fields.next float depth, ← Fields.next float depth, ← Fields.next float depth,
        ← Fields.next float depth⟩)
    (⟨none, none, none, none⟩ : BoundsDraft)
    (fun depth s key value =>
      match key with
      | "min_lat" => once s.minLat (float depth value) fun f => { s with minLat := some f }
      | "min_lon" => once s.minLon (float depth value) fun f => { s with minLon := some f }
      | "max_lat" => once s.maxLat (float depth value) fun f => { s with maxLat := some f }
      | "max_lon" => once s.maxLon (float depth value) fun f => { s with maxLon := some f }
      | _ => do
        value.skip
        return s)
    (fun s => do
      return ⟨← required s.minLat, ← required s.minLon, ← required s.maxLat, ← required s.maxLon⟩)

/-- What has been read of an id. -/
structure IdDraft where
  kind : Option Kind
  number : Option Int

/-- An id. -/
def idShape : Shape Id :=
  record
    (fun depth => do return ⟨← Fields.next kindShape depth, ← Fields.next whole depth⟩)
    (⟨none, none⟩ : IdDraft)
    (fun depth s key value =>
      match key with
      | "type" => once s.kind (kindShape depth value) fun k => { s with kind := some k }
      | "id" => once s.number (whole depth value) fun n => { s with number := some n }
      | _ => do
        value.skip
        return s)
    (fun s => do return ⟨← required s.kind, ← required s.number⟩)

/-- What has been read of a member. -/
structure MemberDraft where
  kind : Option Kind
  number : Option Int
  role : Option String

/-- A member of a relation. Without a role its role is the empty one. -/
def memberShape : Shape Member :=
  record
    (fun depth => do
      let kind ← Fields.next kindShape depth
      let number ← Fields.next whole depth
      let role ← Fields.next? text depth
      return ⟨⟨kind, number⟩, role.getD ""⟩)
    (⟨none, none, none⟩ : MemberDraft)
    (fun depth s key value =>
      match key with
      | "type" => once s.kind (kindShape depth value) fun k => { s with kind := some k }
      | "ref" => once s.number (whole depth value) fun n => { s with number := some n }
      | "role" => once s.role (text depth value) fun r => { s with role := some r }
      | _ => do
        value.skip
        return s)
    (fun s => do return ⟨⟨← required s.kind, ← required s.number⟩, s.role.getD ""⟩)

/-! ### Primitives -/

/-- A field that has been put aside, which may be missing. -/
def single {A : Type} (aside : List (String × Doc)) (name : String) (shape : Shape A) (dflt : A) :
    Result A :=
  match aside.filter fun field => field.1 = name with
  | [] => .ok dflt
  | [(_, value)] => shape Doc.depthLimit value
  | _ => .error .unfit

/-- What is known about a primitive, among fields that have been put aside. -/
def metadataOf (aside : List (String × Doc)) : Result Metadata := do
  let version ← single aside "version" whole 0
  let changeset ← single aside "changeset" whole 0
  let timestamp ← single aside "timestamp" (optional instantShape) none
  let user ← single aside "user" (optional text) none
  let modified ← single aside "modified" bool false
  let deleted ← single aside "deleted" bool false
  let incomplete ← single aside "incomplete" bool false
  let undeleted ← single aside "undeleted" bool false
  return ⟨version, changeset, timestamp, user, modified, deleted, incomplete, undeleted⟩

/-- What has been read of a primitive. Fields that belong to no part of their own are put aside until
the end of the primitive. -/
structure Draft (G : Type) where
  number : Option Int
  tags : Option Tags
  geometry : G
  aside : List (String × Doc)

/-- A primitive of a kind. `special` takes the fields of its geometry, and `finish` makes the geometry
of them, which is one of that kind. -/
def recordShape {G : Type} (kind : Kind) (start : G)
    (special : (depth : Nat) → G → String → Doc → Option (Result G)) (finish : G → Geometry)
    (agrees : ∀ g, (finish g).kind = kind) : Shape Record :=
  object (⟨none, none, start, []⟩ : Draft G)
    (fun depth s key value =>
      match key with
      | "id" => once s.number (whole depth value) fun n => { s with number := some n }
      | "tags" => once s.tags (tagsShape depth value) fun t => { s with tags := some t }
      | _ =>
        match special depth s.geometry key value with
        | some r => r.map fun g => { s with geometry := g }
        | none => do
          value.keep depth
          return { s with aside := s.aside ++ [(key, value)] })
    (fun s => do
      let number ← required s.number
      let metadata ← metadataOf s.aside
      return ⟨⟨kind, number⟩, finish s.geometry, s.tags.getD .empty, metadata, agrees s.geometry⟩)

/-- The latitude and the longitude of a node, as far as they have been read. -/
structure PointDraft where
  lat : Option (Option Float)
  lon : Option (Option Float)

/-- A node. It has a place if both latitude and longitude are given. -/
def nodeShape : Shape Record :=
  recordShape .node (⟨none, none⟩ : PointDraft)
    (fun depth s key value =>
      match key with
      | "lat" => some (once s.lat (optional float depth value) fun f => { s with lat := some f })
      | "lon" => some (once s.lon (optional float depth value) fun f => { s with lon := some f })
      | _ => none)
    (fun s =>
      match s.lat.join, s.lon.join with
      | some lat, some lon => .point (some ⟨lat, lon⟩)
      | _, _ => .point none)
    (fun s => by split <;> rfl)

/-- A way. -/
def wayShape : Shape Record :=
  recordShape .way (none : Option (List Int))
    (fun depth s key value =>
      if key = "nodes" then some (once s (list whole depth value) some) else none)
    (fun s => .line (s.getD []))
    (fun _ => rfl)

/-- A relation. -/
def relationShape : Shape Record :=
  recordShape .relation (none : Option (List Member))
    (fun depth s key value =>
      if key = "members" then some (once s (list memberShape depth value) some) else none)
    (fun s => .group (s.getD []))
    (fun _ => rfl)

/-! ### Files -/

/-- What has been read of a file. -/
structure FileDraft where
  view : Option (Option Bounds)
  downloaded : Option (Option Bounds)
  selected : Option (List Id)
  nodes : Option (List Record)
  ways : Option (List Record)
  relations : Option (List Record)

/-- The file, when all of it has been read. -/
def FileDraft.file (s : FileDraft) : File :=
  ⟨⟨s.view.join, s.downloaded.join⟩, s.selected.getD [], s.nodes.getD [], s.ways.getD [],
    s.relations.getD []⟩

/-- A file. -/
def File.shape : Shape File :=
  record
    (fun depth => do
      let view ← Fields.next? (optional boundsShape) depth
      let downloaded ← Fields.next? (optional boundsShape) depth
      let selected ← Fields.next? (list idShape) depth
      let nodes ← Fields.next? (list nodeShape) depth
      let ways ← Fields.next? (list wayShape) depth
      let relations ← Fields.next? (list relationShape) depth
      return FileDraft.file ⟨view, downloaded, selected, nodes, ways, relations⟩)
    (⟨none, none, none, none, none, none⟩ : FileDraft)
    (fun depth s key value =>
      match key with
      | "view" =>
        once s.view (optional boundsShape depth value) fun b => { s with view := some b }
      | "downloaded" =>
        once s.downloaded (optional boundsShape depth value) fun b => { s with downloaded := some b }
      | "selected" =>
        once s.selected (list idShape depth value) fun l => { s with selected := some l }
      | "nodes" => once s.nodes (list nodeShape depth value) fun l => { s with nodes := some l }
      | "ways" => once s.ways (list wayShape depth value) fun l => { s with ways := some l }
      | "relations" =>
        once s.relations (list relationShape depth value) fun l => { s with relations := some l }
      | _ => do
        value.skip
        return s)
    (fun s => .ok s.file)

/-- The data set of the text of a file. -/
def ofText (s : String) : Result DataSet :=
  (File.shape.read s).map ofFile

end DataSet

end MapQuery
