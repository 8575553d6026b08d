import RoadTraffic.World.Basic

/-!
# The map on the terminal

A world drawn in characters, eight world units to a character in both directions.
The roads are sampled at 25 points each; the points and a margin of eight units
fix the frame of the map.

The map is painted in three layers, each over the ones before: `.` for every sample of
a road, `#` for the end of every straight road that shows stop, and `C` for every car.
A point outside of the frame is painted at its border; so is a NaN, at the upper or left
one.
-/

namespace RoadTraffic.TerminalMap

/-- Characters per world unit. -/
def scale : Float32 := 0.125

/-- The margin around the samples, in world units. -/
def margin : Float32 := 8

/-- The points at which a road is sampled. -/
def roadSamples (road : Road) : List Point := road.course.samples 24

/-- The samples of all roads. -/
def samples (network : Network) : List Point := network.roads.flatMap roadSamples

/-- The ends of the straight roads that show stop. -/
def stoppedEnds (network : Network) : List Point :=
  (network.roads.filter fun road => road.isStraight && road.isStopped).map (·.course.endPoint)

/-- The ranges of coordinates that the map shows. -/
structure Bounds where
  minX : Float32
  maxX : Float32
  minY : Float32
  maxY : Float32

namespace Bounds

/-- The bounds of no point at all. -/
def empty : Bounds :=
  let far := Binary32.infinity false
  ⟨far, -far, far, -far⟩

/-- The bounds with a point more; coordinates that are NaN are passed over. -/
def extend (b : Bounds) (p : Point) : Bounds :=
  ⟨Scalar.lesser b.minX p.x, Scalar.greater b.maxX p.x,
    Scalar.lesser b.minY p.y, Scalar.greater b.maxY p.y⟩

/-- The bounds with a margin all around. -/
def widen (b : Bounds) : Bounds :=
  ⟨b.minX - margin, b.maxX + margin, b.minY - margin, b.maxY + margin⟩

/-- The bounds of a map that shows some points. -/
def ofPoints (points : List Point) : Bounds := (points.foldl extend empty).widen

/-- The number of columns. -/
def width (b : Bounds) : Nat := Scalar.wholePart ((b.maxX - b.minX) * scale) + 1

/-- The number of rows. -/
def height (b : Bounds) : Nat := Scalar.wholePart ((b.maxY - b.minY) * scale) + 1

/-- The column in which a point is painted. -/
def column (b : Bounds) (p : Point) : Nat :=
  min (Scalar.wholePart (Scalar.greater ((p.x - b.minX) * scale) 0)) (b.width - 1)

/-- The row in which a point is painted. -/
def row (b : Bounds) (p : Point) : Nat :=
  min (Scalar.wholePart (Scalar.greater ((p.y - b.minY) * scale) 0)) (b.height - 1)

theorem column_lt (b : Bounds) (p : Point) : b.column p < b.width :=
  Nat.lt_of_le_of_lt (Nat.min_le_right _ _) (Nat.sub_lt (Nat.succ_pos _) Nat.one_pos)

theorem row_lt (b : Bounds) (p : Point) : b.row p < b.height :=
  Nat.lt_of_le_of_lt (Nat.min_le_right _ _) (Nat.sub_lt (Nat.succ_pos _) Nat.one_pos)

end Bounds

/-- Characters in rows, the upper row first. -/
abbrev Grid := List (List Char)

namespace Grid

/-- A grid of blanks. -/
def blank (width height : Nat) : Grid := List.replicate height (List.replicate width ' ')

/-- Paints one character. -/
def paint (grid : Grid) (mark : Char) (row column : Nat) : Grid :=
  grid.modify row (·.set column mark)

/-- Paints the same character at several points. -/
def paintAll (grid : Grid) (bounds : Bounds) (mark : Char) (points : List Point) : Grid :=
  points.foldl (fun g p => g.paint mark (bounds.row p) (bounds.column p)) grid

end Grid

/-- The painted map of a world. -/
def grid (world : World) : Grid :=
  let sampled := samples world.network
  let bounds := Bounds.ofPoints sampled
  Grid.blank bounds.width bounds.height
    |>.paintAll bounds '.' sampled
    |>.paintAll bounds '#' (stoppedEnds world.network)
    |>.paintAll bounds 'C' (world.cars.map (·.pose.position))

/-- A row of the map without the blanks at its end. -/
def rowText (row : List Char) : String :=
  String.ofList (row.reverse.dropWhile (· = ' ')).reverse

/-- The lines of a map, with a heading before and an empty line behind. -/
def lines (world : World) : List String :=
  ["", "=== World Map ===", "Legend: .=Road, #=Stopped road end, C=Car", ""] ++
    (grid world).map rowText ++ [""]

end RoadTraffic.TerminalMap
