import MapQuery.Geometry.Coordinate

/-!
# Lengths and areas

Measures on the sphere with the radius of the equator, in metres.

* `pathLength` — the length of a line.
* `ringArea` — the area inside a ring.
-/

namespace MapQuery.Geometry

/-- The radius of the equator, in metres. -/
def earthRadius : Float := 6378137.0

/-- Half the circumference of the unit circle. -/
def halfTurn : Float := 3.141592653589793

/-- Degrees as an angle of the unit circle. -/
def radians (degrees : Float) : Float :=
  degrees * (halfTurn / 180.0)

/-- The sum of several doubles, from the first to the last. -/
def total (fs : List Float) : Float :=
  fs.foldl (· + ·) 0.0

/-- Neighbours in a list. -/
def pairs {A : Type} : List A → List (A × A)
  | a :: b :: rest => (a, b) :: pairs (b :: rest)
  | _ => []

/-- The distance of two points along a great circle, by the haversine formula. -/
def distance (a b : Coordinate) : Float :=
  let dLat := radians (b.lat - a.lat)
  let dLon := radians (b.lon - a.lon)
  let s := Float.sin (dLat / 2.0)
  let t := Float.sin (dLon / 2.0)
  let h := s * s + Float.cos (radians a.lat) * Float.cos (radians b.lat) * (t * t)
  2.0 * earthRadius * Float.asin (Double.least (Float.sqrt h) 1.0)

/-- The length of a line through several points. -/
def pathLength (points : List Coordinate) : Float :=
  total ((pairs points).map fun (a, b) => distance a b)

/-- The area inside a ring, which ends with the point it begins with. The ring is laid flat around its
mean latitude. Fewer than four points enclose nothing. -/
def ringArea (ring : List Coordinate) : Float :=
  if ring.length < 4 then 0.0
  else
    let mean := total (ring.map Coordinate.lat) / ring.length.toFloat
    let scale := Float.cos (radians mean)
    let x (p : Coordinate) := earthRadius * radians p.lon * scale
    let y (p : Coordinate) := earthRadius * radians p.lat
    Float.abs (total ((pairs ring).map fun (p, q) => x p * y q - x q * y p) / 2.0)

end MapQuery.Geometry
