import RoadTraffic.Config
import RoadTraffic.Network.Basic
import RoadTraffic.Routing.Draws
import RoadTraffic.World.Event

/-!
# Worlds

A world is a network with its settings, its counters and the random words that
route its cars.  Every operation takes a world to a world, with the events it gave
rise to; an operation that can fail also says how, and then gives back the world as
it was when it failed.

* `spawn` and `spawnWave` create cars,
* `toggleSignals` and `setSignal` work the signals,
* `tick` moves everything (`RoadTraffic.World.Tick`).
-/

namespace RoadTraffic

/-- Totals since the world was made. -/
structure Stats where
  ticks : Nat := 0
  carsSpawned : Nat := 0
  /-- Cars that went from one road to the next. -/
  handOffs : Nat := 0
  /-- Cars that left the network at a dead end. -/
  carsDiscarded : Nat := 0
  signalToggles : Nat := 0
deriving DecidableEq

/-- The cars still in the network, by the counters. -/
def Stats.activeCars (stats : Stats) : Nat := stats.carsSpawned - stats.carsDiscarded

/-- A simulated world. -/
structure World where
  network : Network
  config : Config
  stats : Stats := {}
  /-- The number of the next car. -/
  nextCar : Nat := 0
  draws : Draws

/-- Why no car was created. -/
inductive SpawnError where
  | length (reason : NotFinite)
  | lengthNotPositive (length : Float32)
  | unknownRoad (road : RoadId)
deriving DecidableEq

/-- What is wrong, outermost text first. -/
def SpawnError.chain : SpawnError → List String
  | length reason => "Car length" :: reason.chain
  | lengthNotPositive value => ["Car length must be positive, got " ++ Decimal.text value]
  | unknownRoad road => ["Cannot spawn car on unknown road " ++ road.text]

/-- A world after an operation, the events of the operation, and its result. -/
structure Outcome (α : Type) where
  world : World
  events : List Event
  result : α

namespace World

/-- A new world, unless its settings are refused.  The random words are any
sequence: the stream of a seed, or words from outside. -/
def create (network : Network) (config : Config) (draws : Draws) : Except ConfigError World := do
  config.check
  return { network, config, draws }

/-- The number of roads that show stop. -/
def stoppedCount (world : World) : Nat := world.network.stoppedCount

/-- The cars of all roads, by road and front first. -/
def cars (world : World) : List Car := world.network.cars

def carCount (world : World) : Nat := world.network.carCount

/-- The road and the car of an identity. -/
def findCar? (world : World) (id : CarId) : Option (Road × Car) := world.network.findCar? id

/-!
## Creating cars
-/

/-- Refuses a car that cannot be put on the road. -/
def checkSpawn (world : World) (length : Float32) (road : RoadId) : Except SpawnError Unit := do
  (checkFinite length).mapError .length
  if length ≤ 0 then throw (.lengthNotPositive length)
  unless world.network.has road do throw (.unknownRoad road)

/-- The world with a new car on a road that exists. -/
def addCar (world : World) (length : Float32) (road : RoadId) : World :=
  { world with
    network := world.network.receive road (.new ⟨world.nextCar⟩ length)
    stats := { world.stats with carsSpawned := world.stats.carsSpawned + 1 }
    nextCar := world.nextCar + 1 }

/-- Creates a car and lets it enter a road. -/
def spawn (world : World) (length : Float32) (road : RoadId) :
    Outcome (Except SpawnError CarId) :=
  match world.checkSpawn length road with
  | .error reason => ⟨world, [], .error reason⟩
  | .ok () =>
    let id : CarId := ⟨world.nextCar⟩
    ⟨world.addCar length road, [.carSpawned id length road], .ok id⟩

/-- Creates a car on each of some roads, one after the other, up to the first
failure. -/
def spawnEach (world : World) (length : Float32) : List RoadId →
    Outcome (Except SpawnError (List CarId))
  | [] => ⟨world, [], .ok []⟩
  | road :: roads =>
    let first := world.spawn length road
    match first.result with
    | .error reason => ⟨first.world, first.events, .error reason⟩
    | .ok id =>
      let others := first.world.spawnEach length roads
      ⟨others.world, first.events ++ others.events, others.result.map (id :: ·)⟩

/-- Creates a car of the default length at every entry point. -/
def spawnWave (world : World) : Outcome (Except SpawnError (List CarId)) :=
  world.spawnEach world.config.defaultCarLength world.network.entryPoints

/-!
## Signals
-/

/-- Sets the signal of one road. -/
def setSignal (world : World) (road : RoadId) (signal : Signal) :
    Outcome (Except UnknownRoad Unit) :=
  match world.network.setSignal road signal with
  | .error reason => ⟨world, [], .error reason⟩
  | .ok network => ⟨{ world with network }, [], .ok ()⟩

/-- Flips the signals of all roads, and counts it. -/
def toggleSignals (world : World) : World × List Event :=
  let network := world.network.toggleSignals
  let stats := { world.stats with signalToggles := world.stats.signalToggles + 1 }
  ({ world with network, stats }, [.signalsToggled network.stoppedCount])

end World

end RoadTraffic
