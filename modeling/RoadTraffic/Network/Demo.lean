import RoadTraffic.Config
import RoadTraffic.Network.Plan

/-!
# The demonstration network

Thirty-four roads: a ring of two lanes, with a crossing lane of both directions
through the middle.  The inner lane of the ring runs clockwise, the outer one
counterclockwise; arcs join the straights at the corners and at the crossings.  Cars
enter at the top straight of the clockwise lane and at the left straight of the
counterclockwise one.

The road width of the settings enters the radii of the arcs, half of it added to the
inner radius of 12 and the outer radius of 28.
-/

namespace RoadTraffic.Demo

/-- A road of the demonstration network: its course, and the indices of the roads that
follow. -/
structure Row where
  course : Course
  successors : List Nat

/-- A row with a straight course. -/
def line (x₁ y₁ x₂ y₂ : Float32) (successors : List Nat) : Row :=
  ⟨.straight ⟨⟨x₁, y₁⟩, ⟨x₂, y₂⟩⟩, successors⟩

/-- A row with a clockwise arc. -/
def clockwise (x y radius startAngle endAngle : Float32) (successors : List Nat) : Row :=
  ⟨.arc ⟨⟨x, y⟩, radius, startAngle, endAngle, false⟩, successors⟩

/-- A row with a counterclockwise arc. -/
def counterclockwise (x y radius startAngle endAngle : Float32) (successors : List Nat) : Row :=
  ⟨.arc ⟨⟨x, y⟩, radius, startAngle, endAngle, true⟩, successors⟩

/-- The four directions of the corners, clockwise from the right; `whole` is the right
again, after a full turn. -/
def right : Float32 := 0
def down : Float32 := 0.5 * Trigonometry.pi
def left : Float32 := Trigonometry.pi
def up : Float32 := 1.5 * Trigonometry.pi
def whole : Float32 := 2 * Trigonometry.pi

/-- The rows of all roads, by identity. -/
def rows (config : Config) : List Row :=
  let inner := 12 + config.roadWidth / 2
  let outer := 28 + config.roadWidth / 2
  [ -- The straights and corners of the clockwise lane.
    line 60 40 272 40 [18, 19],
    line 560 60 560 340 [6],
    line 540 360 328 360 [24, 32],
    line 40 340 40 60 [7],
    clockwise 60 340 inner down left [3],
    clockwise 540 60 inner up whole [1],
    clockwise 540 340 inner right down [2],
    clockwise 60 60 inner left up [0],
    -- The straights and corners of the counterclockwise lane.
    line 540 24 328 24 [21, 20],
    line 576 340 576 60 [12],
    line 60 376 272 376 [28, 31],
    line 24 60 24 340 [14],
    counterclockwise 540 60 outer whole up [8],
    counterclockwise 540 340 outer down right [9],
    counterclockwise 60 340 outer left down [10],
    counterclockwise 60 60 outer up left [11],
    -- The crossing lane, downwards and upwards.
    line 292 60 292 340 [26, 27],
    line 308 340 308 60 [30, 33],
    -- The crossing at the top: ahead, or into the crossing lane.
    clockwise 272 60 inner up whole [16],
    line 272 40 328 40 [22],
    counterclockwise 328 60 outer up left [16],
    line 328 24 272 24 [23],
    line 328 40 540 40 [5],
    line 272 24 60 24 [15],
    -- The crossing at the bottom, and the ways out of the crossing lane.
    line 328 360 272 360 [25],
    line 272 360 60 360 [4],
    clockwise 272 340 inner right down [25],
    counterclockwise 328 340 outer left down [29],
    line 272 376 328 376 [29],
    line 328 376 540 376 [13],
    clockwise 328 60 inner left up [22],
    counterclockwise 272 340 outer down right [17],
    clockwise 328 340 inner down left [17],
    counterclockwise 272 60 outer whole up [23] ]

/-- The declarations of the demonstration network. -/
def declarations (config : Config) : List Declaration :=
  let rows := rows config
  rows.map (fun row => .road row.course defaultRoadSpeed) ++
    rows.mapIdx (fun index row => .connect ⟨index⟩ (row.successors.map (⟨·⟩))) ++
    [.entry ⟨0⟩, .entry ⟨11⟩]

/-- The demonstration network for some settings. -/
def network (config : Config) : Except PlanError Network :=
  Network.ofDeclarations (declarations config)

end RoadTraffic.Demo
