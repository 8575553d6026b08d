import RoadTraffic.Ident
import RoadTraffic.Log
import RoadTraffic.Number.Decimal

/-!
# Events

What happens in a simulation that is worth a line in the log.
-/

namespace RoadTraffic

/-- Something that happened. -/
inductive Event where
  | deadEnds (count : Nat)
  | networkBuilt (roads connections entryPoints : Nat)
  | carSpawned (car : CarId) (length : Float32) (road : RoadId)
  | carLeft (car : CarId) (road : RoadId)
  | signalsToggled (stopped : Nat)
deriving DecidableEq

namespace Event

def level : Event → LogLevel
  | deadEnds _ => .debug
  | networkBuilt .. => .info
  | carSpawned .. => .debug
  | carLeft .. => .debug
  | signalsToggled _ => .info

def origin : Event → String
  | deadEnds _ | networkBuilt .. => "segment_sim::simulation::road_network"
  | carSpawned .. | carLeft .. | signalsToggled _ => "segment_sim::simulation::world"

def message : Event → String
  | deadEnds count => "Road network has " ++ toString count ++ " dead-end roads"
  | networkBuilt roads connections entryPoints =>
    "Built road network: " ++ toString roads ++ " roads, " ++ toString connections ++
      " connections, " ++ toString entryPoints ++ " entry points"
  | carSpawned car length road =>
    "Spawned car " ++ car.text ++ " (length " ++ Decimal.text length ++ ") on road " ++ road.text
  | carLeft car road =>
    "Car " ++ car.text ++ " reached dead end " ++ road.text ++ " and left the network"
  | signalsToggled stopped =>
    "Signals toggled, " ++ toString stopped ++ " road(s) now stopped"

/-- The line that the event leaves in the log. -/
def record (event : Event) : LogRecord := ⟨event.level, event.origin, event.message⟩

end Event

end RoadTraffic
