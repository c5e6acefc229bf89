import MapQuery.DataSet.Basic

/-!
# The data set of a first look

A café, a street, a park and a bus line, for those who come without a data set.
-/

namespace MapQuery.Console

/-- Some primitives to try queries on. -/
def demo : DataSet :=
  let node (number : Int) (lat lon : Float) (d : DataSet) := d.addNode number (some ⟨lat, lon⟩)
  let tag (kind : Kind) (number : Int) (key value : String) (d : DataSet) :=
    d.putTag ⟨kind, number⟩ key value
  DataSet.empty
    |> node 1 48.2080 16.3710
    |> node 2 48.2085 16.3725
    |> node 3 48.2092 16.3718
    |> node 4 48.2086 16.3716
    |> tag .node 4 "amenity" "cafe"
    |> tag .node 4 "name" "Café Central"
    |> (·.addWay 10 [1, 2])
    |> tag .way 10 "highway" "residential"
    |> tag .way 10 "name" "Main Street"
    |> (·.addWay 11 [1, 2, 3, 1])
    |> tag .way 11 "leisure" "park"
    |> (·.addRelation 20 [⟨⟨.way, 10⟩, "forward"⟩])
    |> tag .relation 20 "type" "route"
    |> tag .relation 20 "route" "bus"

end MapQuery.Console
