import MapQuery.Number.Shortest

/-!
# Coordinates and rectangles

* `Coordinate` — a point, in degrees.
* `Bounds` — a rectangle along the meridians; `Bounds.between` puts its corners in order.
* `Areas` — the two rectangles that queries can ask for.
-/

namespace MapQuery

namespace Double

/-- The smaller of two doubles, the first one where they are equal; what is no number does not count. -/
def least (a b : Float) : Float :=
  if a.isNaN then b else if b < a then b else a

/-- The greater of two doubles, the first one where they are equal; what is no number does not count. -/
def greatest (a b : Float) : Float :=
  if a.isNaN then b else if a < b then b else a

end Double

/-- A point, in degrees. -/
structure Coordinate where
  lat : Float
  lon : Float
  deriving Inhabited

/-- A rectangle. -/
structure Bounds where
  minLat : Float
  minLon : Float
  maxLat : Float
  maxLon : Float
  deriving Inhabited

namespace Bounds

/-- The rectangle between two opposite corners. -/
def between (a b : Coordinate) : Bounds where
  minLat := Double.least a.lat b.lat
  minLon := Double.least a.lon b.lon
  maxLat := Double.greatest a.lat b.lat
  maxLon := Double.greatest a.lon b.lon

/-- Whether a point lies in the rectangle, its edges included. -/
def contains (b : Bounds) (p : Coordinate) : Bool :=
  b.minLat ≤ p.lat && p.lat ≤ b.maxLat && b.minLon ≤ p.lon && p.lon ≤ b.maxLon

/-- The long form of a rectangle. -/
def inspected (b : Bounds) : String :=
  "Bounds \x7b min_lat: " ++ Shortest.shown b.minLat ++ ", min_lon: " ++ Shortest.shown b.minLon ++
    ", max_lat: " ++ Shortest.shown b.maxLat ++ ", max_lon: " ++ Shortest.shown b.maxLon ++ " \x7d"

end Bounds

/-- The rectangles that queries can ask for. -/
inductive Area where
  /-- The part of the map that is shown. -/
  | view
  /-- The part of the map that has been loaded. -/
  | downloaded
  deriving DecidableEq, Repr, Inhabited

/-- The rectangles of a map. -/
structure Areas where
  view : Option Bounds
  downloaded : Option Bounds
  deriving Inhabited

namespace Areas

/-- No rectangle is known. -/
def unknown : Areas :=
  ⟨none, none⟩

/-- One of the two rectangles. -/
def get? (a : Areas) : Area → Option Bounds
  | .view => a.view
  | .downloaded => a.downloaded

end Areas

end MapQuery
