import RoadTraffic.World.Basic

/-!
# Summaries

The state of a world in a few lines: the counters, and for each road with cars on it
how many there are and how far the first has come.
-/

namespace RoadTraffic.Summary

/-- The line of a road with cars on it. -/
def roadLine (road : Road) : String :=
  "  Road " ++ toString road.id.index ++
    " (" ++ (if road.isStraight then "straight" else "arc") ++
    " of length " ++ Decimal.fixed 1 road.course.length ++ ", " ++ road.signal.name ++ "): " ++
    toString road.cars.length ++ " car(s), leader progress " ++
    Decimal.fixed 2 ((road.cars.head?.map Car.progress).getD 0)

/-- The lines about the roads with cars on them, if there are any. -/
def occupiedLines (network : Network) : List String :=
  match network.roads.filter (!·.cars.isEmpty) with
  | [] => []
  | busy => "--- Occupied Roads ---" :: busy.map roadLine

/-- The lines of a summary. -/
def lines (world : World) : List String :=
  [ "=== Segment Simulation Summary ===",
    "Tick: " ++ toString world.stats.ticks,
    "Roads: " ++ toString world.network.roads.length ++
      " (" ++ toString world.stoppedCount ++ " stopped), Entry points: " ++
      toString world.network.entryPoints.length,
    "Cars: " ++ toString world.carCount ++ " active, " ++
      toString world.stats.carsSpawned ++ " spawned, " ++
      toString world.stats.carsDiscarded ++ " discarded",
    "Hand-offs: " ++ toString world.stats.handOffs,
    "Signal toggles: " ++ toString world.stats.signalToggles ] ++
  occupiedLines world.network

end RoadTraffic.Summary
