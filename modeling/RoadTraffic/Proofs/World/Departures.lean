import RoadTraffic.Proofs.World.Accounting
import RoadTraffic.Proofs.World.Histories

/-!
# Departures

Cars depart in ticks only, and every car that departs is handed on or discarded: as many
are delivered as depart from roads that others follow, and as many discarded as depart
from dead ends.  `World.departed` lists the departures of a stretch of a run with the
roads they are from.
-/

namespace RoadTraffic

/-- Every departed car that has a road to go to is delivered. -/
theorem Routed.length_deliveries {next : RoadId → List RoadId} {draws final : Draws}
    {departures deliveries discarded : List (RoadId × Car)}
    (h : Routed next draws departures deliveries discarded final) :
    deliveries.length = departures.countP fun departure => !(next departure.1).isEmpty := by
  induction h with
  | done => rfl
  | discarded hdeadEnd _ ih =>
      rw [List.countP_cons_of_neg (by simp [hdeadEnd])]
      exact ih
  | delivered _ hmem _ ih =>
      have hnext := List.ne_nil_of_mem hmem
      rw [List.countP_cons_of_pos (by simp [hnext]), List.length_cons, ih]

theorem Routed.length_discarded {next : RoadId → List RoadId} {draws final : Draws}
    {departures deliveries discarded : List (RoadId × Car)}
    (h : Routed next draws departures deliveries discarded final) :
    discarded.length = departures.countP fun departure => (next departure.1).isEmpty := by
  rw [List.countP_eq_length_filter, h.discarded_eq]

namespace World

variable {world : World} {id : RoadId}

/-- A car departs from the road on which it stands. -/
theorem mem_departures_iff (h : world.network.Regular) {car : Car} :
    (id, car) ∈ world.departures ↔ ∃ road, world.network.road? id = some road ∧
      car ∈ (road.advance world.config.followingDistance).2 := by
  rw [departures, List.mem_flatMap]
  constructor
  · intro hsome
    obtain ⟨road, hroad, hmem⟩ := hsome
    obtain ⟨departed, hdeparted, heq⟩ := List.mem_map.mp hmem
    obtain ⟨hid, rfl⟩ := Prod.mk.inj heq
    obtain ⟨index, hindex⟩ := List.mem_iff_getElem?.mp hroad
    rw [h.id index road hindex] at hid
    exact ⟨road, hid ▸ hindex, hdeparted⟩
  · intro hsome
    obtain ⟨road, hroad, hdeparted⟩ := hsome
    refine ⟨road, Network.mem_roads_of_road? hroad, ?_⟩
    exact List.mem_map.mpr ⟨car, hdeparted, congrArg (·, car) (h.id id.index road hroad)⟩

/-- The cars that depart when a command is obeyed, with the roads they leave. -/
def departing (world : World) : Command → List (RoadId × Car)
  | .tick => world.departures
  | _ => []

/-- The cars that depart in a run, with the roads they leave, in the order of their
departures. -/
def departed (world : World) : List Command → List (RoadId × Car)
  | [] => []
  | command :: commands => world.departing command ++ (world.obey command).world.departed commands

/-- The cars that depart from a road are those that leave it. -/
theorem leaving_of_mem_departing (h : world.network.Regular) {command : Command}
    {departure : RoadId × Car} (hmem : departure ∈ world.departing command) :
    departure.2.id ∈ world.leaving departure.1 command := by
  cases command with
  | tick =>
      obtain ⟨road, hroad, hdeparted⟩ := (mem_departures_iff h).mp hmem
      rw [leaving_tick hroad]
      exact List.mem_map_of_mem hdeparted
  | _ => exact nomatch hmem

end World

end RoadTraffic
