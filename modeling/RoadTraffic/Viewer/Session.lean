import RoadTraffic.Viewer.Clock
import RoadTraffic.Viewer.Drawing
import RoadTraffic.Viewer.Keyboard
import RoadTraffic.World.Tick

/-!
# The viewer

The viewer shows a world frame by frame.  In each frame, in this order,

1. settings given with the frame are assigned,
2. the keyboard takes in the frame's releases and presses,
3. the world ticks as often as the clock says,
4. the keys just pressed take effect: Escape ends the session after this frame, Space
   toggles all signals, Enter sends in a wave of cars,
5. the drawing asked for is made.

So what a session does to its world is a sequence of ticks, toggles and waves and nothing
else; drawing changes nothing.
-/

namespace RoadTraffic

/-- What a frame may draw. -/
inductive Picture where
  | roads
  | cars
deriving DecidableEq

/-- Settings assigned with a frame; those left out stay. -/
structure Assignment where
  roadWidth : Option Float32 := none
  carWidth : Option Float32 := none
  followingDistance : Option Float32 := none
  defaultCarLength : Option Float32 := none

/-- The settings after an assignment, which is not checked. -/
def Config.assign (config : Config) (given : Assignment) : Config where
  roadWidth := given.roadWidth.getD config.roadWidth
  carWidth := given.carWidth.getD config.carWidth
  followingDistance := given.followingDistance.getD config.followingDistance
  defaultCarLength := given.defaultCarLength.getD config.defaultCarLength

/-- One frame: how long ago the last one was, and what happened since. -/
structure Frame where
  millis : Nat
  released : List Key := []
  pressed : List Key := []
  assigned : Assignment := {}
  picture : Option Picture := none

/-- A viewer and the world it shows. -/
structure Viewer where
  world : World
  keyboard : Keyboard := {}
  clock : Clock := {}

/-- What a frame has brought about. -/
structure FrameReport where
  /-- The viewer after the frame. -/
  viewer : Viewer
  /-- The log of the frame. -/
  records : List LogRecord
  /-- Was the session ended? -/
  ended : Bool
  /-- The drawing, if one was asked for. -/
  drawn : Option (List Strip)

namespace Viewer

/-- The line about a wave sent in by key. -/
def waveRecord : Except SpawnError (List CarId) → LogRecord
  | .ok cars => ⟨.info, "segment_sim::ui::input", "Spawned " ++ toString cars.length ++ " car(s)"⟩
  | .error reason =>
    ⟨.warn, "segment_sim::ui::input", "Failed to spawn cars: " ++ chainText reason.chain⟩

/-- The world after the signals were toggled, if they are to be. -/
def toggleOn (pressed : Bool) (world : World) : World × List LogRecord :=
  if pressed then
    let (toggled, events) := world.toggleSignals
    (toggled, events.map Event.record)
  else (world, [])

/-- The world after a wave was sent in, if one is to be. -/
def waveOn (pressed : Bool) (world : World) : World × List LogRecord :=
  if pressed then
    let wave := world.spawnWave
    (wave.world, wave.events.map Event.record ++ [waveRecord wave.result])
  else (world, [])

/-- The strips of a picture. -/
def draw (world : World) : Picture → List Strip
  | .roads => Drawing.roads world
  | .cars => Drawing.cars world

/-- Shows a frame. -/
def showFrame (viewer : Viewer) (frame : Frame) : FrameReport :=
  let assigned := { viewer.world with config := viewer.world.config.assign frame.assigned }
  let keyboard := viewer.keyboard.nextFrame frame.released frame.pressed
  let (count, clock) := viewer.clock.advance frame.millis
  let (ticked, events) := assigned.ticks count
  let (toggled, toggleRecords) := toggleOn (keyboard.isJustPressed .space) ticked
  let (world, waveRecords) := waveOn (keyboard.isJustPressed .enter) toggled
  { viewer := { world, keyboard, clock }
    records := events.map Event.record ++ toggleRecords ++ waveRecords
    ended := keyboard.isJustPressed .escape
    drawn := frame.picture.map (draw world) }

/-- Shows frames up to the end of the session. -/
def showFrames (viewer : Viewer) : List Frame → List FrameReport
  | [] => []
  | frame :: frames =>
    let report := viewer.showFrame frame
    report :: if report.ended then [] else report.viewer.showFrames frames

end Viewer

end RoadTraffic
