/-!
# Identities of roads and cars

Roads and cars are numbered separately, so a road's number cannot be taken for a
car's.  A road's number is its index in its network; a car's is its place in the
order of creation.
-/

namespace RoadTraffic

/-- The identity of a road: its index in the network. -/
structure RoadId where
  index : Nat
deriving DecidableEq

/-- The identity of a car: how many cars were created before it. -/
structure CarId where
  index : Nat
deriving DecidableEq

/-- A road as messages name it. -/
def RoadId.text (road : RoadId) : String := "RoadId(SimId(" ++ toString road.index ++ "))"

/-- A car as messages name it. -/
def CarId.text (car : CarId) : String := "CarId(SimId(" ++ toString car.index ++ "))"

/-- Several roads as messages name them. -/
def RoadId.listText (roads : List RoadId) : String :=
  "[" ++ ", ".intercalate (roads.map RoadId.text) ++ "]"

end RoadTraffic
