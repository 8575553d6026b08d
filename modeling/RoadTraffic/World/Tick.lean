import RoadTraffic.World.Basic

/-!
# One tick of a world

A tick has two phases.  First every road moves its cars by itself, and the cars that
come to an end depart.  Only then are the departed cars handed on, in the order of the
roads they left and there in the order they left: each goes to the back of a randomly
chosen successor, at the start of the road, or leaves the network at a dead end.  So no
car moves on a road that it entered in the same tick.
-/

namespace RoadTraffic.World

/-- A road for a car that has departed from `road`, and the world with the words
drawn for it. -/
def chooseSuccessor (world : World) (road : RoadId) : Option RoadId × World :=
  let (choice, draws) := world.draws.choose (world.network.successors road)
  (choice, { world with draws })

/-- Counts a car out that has departed from a dead end. -/
def discard (world : World) : World :=
  { world with stats := { world.stats with carsDiscarded := world.stats.carsDiscarded + 1 } }

/-- Lets a car enter the road chosen for it.  A car for which there is no such road is
lost and not counted; in a network made from a plan every successor exists. -/
def deliver (world : World) (road : RoadId) (car : Car) : World :=
  if world.network.has road then
    { world with
      network := world.network.receive road car
      stats := { world.stats with handOffs := world.stats.handOffs + 1 } }
  else world

/-- Hands on a car that has departed from `road`. -/
def handOff (world : World) (road : RoadId) (car : Car) : World × List Event :=
  match world.chooseSuccessor road with
  | (none, drawn) => (drawn.discard, [.carLeft car.id road])
  | (some next, drawn) => (drawn.deliver next car, [])

/-- Hands on cars one after the other. -/
def handOffAll (world : World) : List (RoadId × Car) → World × List Event
  | [] => (world, [])
  | (road, car) :: departures =>
    let (handed, events) := world.handOff road car
    let (final, later) := handed.handOffAll departures
    (final, events ++ later)

/-- Advances all roads by a tick, without handing on the cars that depart. -/
def advanceRoads (world : World) : World × List (RoadId × Car) :=
  let (network, departures) := world.network.advance world.config.followingDistance
  ({ world with network, stats := { world.stats with ticks := world.stats.ticks + 1 } },
    departures)

/-- Moves the whole world by one tick. -/
def tick (world : World) : World × List Event :=
  let (advanced, departures) := world.advanceRoads
  advanced.handOffAll departures

/-- Moves the world by `count` ticks. -/
def ticks (world : World) : (count : Nat) → World × List Event
  | 0 => (world, [])
  | count + 1 =>
    let (ticked, events) := world.tick
    let (final, later) := ticked.ticks count
    (final, events ++ later)

end RoadTraffic.World
