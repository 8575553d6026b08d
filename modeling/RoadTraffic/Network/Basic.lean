import RoadTraffic.Network.Search
import RoadTraffic.Road.Advance

/-!
# Road networks

A network is a list of roads, each followed by some of the others, and the entry
points at which new cars appear.  A road's identity is its place in the list.

Nothing here checks that the identities in the successor lists exist; a network
made from a plan (`RoadTraffic.Network.Plan`) has only such as do.
-/

namespace RoadTraffic

-- A sum of naturals begins with the numeral, also where libraries bring another zero.
attribute [local instance (high)] Zero.ofOfNat0

/-- A road network with the cars on it. -/
structure Network where
  /-- The roads, in the order of their identities. -/
  roads : List Road
  /-- Where new cars appear, in the order of declaration. -/
  entryPoints : List RoadId

/-- A signal was to be set on a road that does not exist. -/
structure UnknownRoad where
  road : RoadId
deriving DecidableEq

/-- What is wrong. -/
def UnknownRoad.chain (e : UnknownRoad) : List String := ["Road " ++ e.road.text ++ " not found"]

namespace Network

def road? (network : Network) (id : RoadId) : Option Road := network.roads[id.index]?

/-- Does a road of that identity exist? -/
def has (network : Network) (id : RoadId) : Bool := id.index < network.roads.length

/-- The network with one road changed; nothing happens if there is no such
road. -/
def modifyRoad (network : Network) (id : RoadId) (f : Road → Road) : Network :=
  { network with roads := network.roads.modify id.index f }

/-- The roads that may follow a road. -/
def successors (network : Network) (id : RoadId) : List RoadId :=
  ((network.road? id).map Road.successors).getD []

/-- The number of entries in all successor lists, repeated ones included. -/
def connectionCount (network : Network) : Nat :=
  (network.roads.map (·.successors.length)).sum

def deadEndCount (network : Network) : Nat := network.roads.countP Road.isDeadEnd

/-- The number of roads that show stop. -/
def stoppedCount (network : Network) : Nat := network.roads.countP Road.isStopped

/-- The cars of all roads, by road and front first. -/
def cars (network : Network) : List Car := network.roads.flatMap Road.cars

def carCount (network : Network) : Nat := (network.roads.map (·.cars.length)).sum

/-- The road and the car of an identity. -/
def findCar? (network : Network) (id : CarId) : Option (Road × Car) :=
  network.roads.findSome? fun road => (road.cars.find? (·.id = id)).map (road, ·)

/-!
## Reachability
-/

/-- The roads that can be reached from any of `starts`. -/
def reachedFrom (network : Network) (starts : List RoadId) : List RoadId :=
  search network.successors (starts.length + network.connectionCount) starts []

/-- Can a car on `a` come to drive on `b`?  Every road of the network is reached
from itself. -/
def isReachable (network : Network) (a b : RoadId) : Bool :=
  network.has a && network.has b && b ∈ network.reachedFrom [a]

/-!
## Signals
-/

/-- Sets the signal of one road. -/
def setSignal (network : Network) (id : RoadId) (signal : Signal) : Except UnknownRoad Network :=
  if network.has id then .ok (network.modifyRoad id (·.setSignal signal)) else .error ⟨id⟩

/-- Flips the signals of all roads. -/
def toggleSignals (network : Network) : Network :=
  { network with roads := network.roads.map Road.toggleSignal }

/-!
## One tick
-/

/-- Advances every road by itself.  The cars that have departed are listed with
the road they left, by road and then in the order they left; none of them has
entered another road yet. -/
def advance (network : Network) (followingDistance : Float32) : Network × List (RoadId × Car) :=
  let advanced := network.roads.map (·.advance followingDistance)
  ({ network with roads := advanced.map Prod.fst },
    advanced.flatMap fun (road, departed) => departed.map (road.id, ·))

/-- Lets a car enter a road. -/
def receive (network : Network) (id : RoadId) (car : Car) : Network :=
  network.modifyRoad id (·.receive car)

/-- The cars are counted road by road. -/
theorem length_cars_eq_carCount (network : Network) : network.cars.length = network.carCount := by
  simp [cars, carCount, List.length_flatMap]

end Network

end RoadTraffic
