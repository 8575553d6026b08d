import RoadTraffic.World.Basic

/-!
# Drawings

Everything the viewer shows is made of strips, lines through several points in one
colour.  Points are given on the screen, whose vertical axis points up: the plane's `y` is
negated, and so are headings.

* A road is its centre line and its two edges, and if it is a straight that shows stop, a
  circle at its end.
* A car is the outline of a rectangle, as long as the car and twice as wide as the settings
  say.
-/

namespace RoadTraffic

/-- A colour by its red, green and blue parts, from 0 to 1. -/
structure Color where
  red : Float32
  green : Float32
  blue : Float32
deriving DecidableEq

namespace Color

def background : Color := ⟨0.93, 0.93, 0.93⟩
def road : Color := ⟨0.73, 0.73, 0.73⟩
def edge : Color := ⟨1, 1, 1⟩
def car : Color := ⟨1, 0.13, 0.27⟩
def stop : Color := ⟨0.9, 0.1, 0.1⟩

/-- The three parts with two decimal places. -/
def text (color : Color) : String :=
  Decimal.fixed 2 color.red ++ " " ++ Decimal.fixed 2 color.green ++ " " ++
    Decimal.fixed 2 color.blue

end Color

/-- A line through several points. -/
structure Strip where
  color : Color
  points : List Point

/-- A point of the plane as a point of the screen. -/
def Point.toScreen (p : Point) : Point := ⟨p.x, -p.y⟩

/-- A turn by an angle, followed by a shift. -/
structure Placement where
  cos : Float32
  sin : Float32
  shift : Point

namespace Placement

/-- A shift alone. -/
def unturned (shift : Point) : Placement := ⟨1, 0, shift⟩

/-- A turn by an angle and a shift. -/
def turned (angle : Float32) (shift : Point) : Placement :=
  ⟨Trigonometry.cos angle, Trigonometry.sin angle, shift⟩

def apply (placement : Placement) (p : Point) : Point :=
  ⟨placement.cos * p.x - placement.sin * p.y + placement.shift.x,
    placement.sin * p.x + placement.cos * p.y + placement.shift.y⟩

end Placement

namespace Drawing

/-- The points of a circle, the first one again at the end. -/
def circle (center : Point) (radius : Float32) : List Point :=
  (List.range 33).map fun i =>
    let angle := Scalar.ofNat i * Trigonometry.tau / 32
    (Placement.unturned center).apply
      ⟨Trigonometry.sin angle * radius, Trigonometry.cos angle * radius⟩

/-- The corners of a rectangle around a point, clockwise on the screen from the upper left,
the first one again at the end. -/
def rectangle (placement : Placement) (length width : Float32) : List Point :=
  let x := length / 2
  let y := width / 2
  [⟨-x, y⟩, ⟨x, y⟩, ⟨x, -y⟩, ⟨-x, -y⟩, ⟨-x, y⟩].map placement.apply

/-- The line beside a course at a distance, to the right of the direction of travel on a
straight, outwards on an arc. -/
def besideLine (course : Course) (distance : Float32) : List Point :=
  match course with
  | .straight line =>
    let normal := line.heading + Trigonometry.halfPi
    [line.start.offset normal distance, line.finish.offset normal distance].map Point.toScreen
  | .arc arc =>
    let shifted := Course.arc { arc with radius := arc.radius + distance }
    (shifted.samples 16).map Point.toScreen

/-- The strips of a road. -/
def roadStrips (config : Config) (road : Road) : List Strip :=
  let half := config.roadWidth / 2
  let marker : List Strip :=
    if road.isStraight && road.isStopped then
      [⟨.stop, circle road.course.endPoint.toScreen (half / 2)⟩]
    else []
  [ ⟨.road, besideLine road.course 0⟩,
    ⟨.edge, besideLine road.course (-half)⟩,
    ⟨.edge, besideLine road.course half⟩ ] ++ marker

/-- The strip of a car. -/
def carStrip (config : Config) (car : Car) : Strip :=
  let placement := Placement.turned (-car.pose.heading) car.pose.position.toScreen
  ⟨.car, rectangle placement car.length (config.carWidth * 2)⟩

def roads (world : World) : List Strip := world.network.roads.flatMap (roadStrips world.config)

def cars (world : World) : List Strip := world.cars.map (carStrip world.config)

/-!
## The camera
-/

/-- The lesser coordinates of two points.  Of two that cannot be told apart the second is
taken, also if one is a NaN. -/
def lower (p q : Point) : Point :=
  ⟨if p.x < q.x then p.x else q.x, if p.y < q.y then p.y else q.y⟩

/-- The greater coordinates of two points, with the same preference. -/
def upper (p q : Point) : Point :=
  ⟨if q.x < p.x then p.x else q.x, if q.y < p.y then p.y else q.y⟩

/-- Where the camera stands: above the middle of the ends of all roads. -/
def camera (network : Network) : Point :=
  let ends := network.roads.flatMap fun road =>
    [road.course.startPoint.toScreen, road.course.endPoint.toScreen]
  let far := Binary32.infinity false
  let low := ends.foldl lower ⟨far, far⟩
  let high := ends.foldl upper ⟨-far, -far⟩
  if network.roads.isEmpty then Point.origin.toScreen
  else ⟨(low.x + high.x) / 2, (low.y + high.y) / 2⟩

end Drawing

end RoadTraffic
