import RoadTraffic.Headless.Options
import RoadTraffic.Terminal.Map
import RoadTraffic.Terminal.Summary
import RoadTraffic.World.Setup

/-!
# Runs without a viewer

A run makes the demonstration world, sends in a first wave of cars, and ticks.  After
each tick, and in this order, a wave is sent in if one is due and there is room, all
signals are toggled if that is due, and a report is made if one is due, except after the
last tick.

What a run leaves is a list of sections: the opening, the initial state, the reports, and
the final state.  A run that fails ends after the sections it has come to.
-/

namespace RoadTraffic

/-- A part of what a run shows. -/
inductive Section where
  | opening
  | initial (world : World)
  | report (tick : Nat) (world : World)
  | final (world : World)

/-- Why a run has failed. -/
inductive RunError where
  | setup (reason : SetupError)
  | spawn (reason : SpawnError)
deriving DecidableEq

/-- What is wrong, outermost text first. -/
def RunError.chain : RunError → List String
  | setup reason => reason.chain
  | spawn reason => reason.chain

/-- What a run has left, complete or not. -/
structure Run where
  sections : List Section
  events : List Event
  error : Option RunError

namespace Headless

variable (options : Options)

/-- Is something due that comes every `interval` ticks?  With an interval of 0 it never
is. -/
def due (interval tick : Nat) : Bool := 0 < interval && tick % interval = 0

/-- A wave, if one is due and there is room for it. -/
def waveIfDue (tick : Nat) (world : World) : Outcome (Except SpawnError (List CarId)) :=
  if due options.spawnInterval tick && world.carCount < options.maxCars then world.spawnWave
  else ⟨world, [], .ok []⟩

/-- A toggle of all signals, if one is due. -/
def toggleIfDue (tick : Nat) (world : World) : World × List Event :=
  if due options.toggleInterval tick then world.toggleSignals else (world, [])

/-- One tick of a run, with what is due after it. -/
def step (tick : Nat) (world : World) : Outcome (Except SpawnError Unit) :=
  let (ticked, events) := world.tick
  let wave := waveIfDue options tick ticked
  match wave.result with
  | .error reason => ⟨wave.world, events ++ wave.events, .error reason⟩
  | .ok _ =>
    let (toggled, told) := toggleIfDue options tick wave.world
    ⟨toggled, events ++ wave.events ++ told, .ok ()⟩

/-- Is a report made after a tick? -/
def reports (tick : Nat) : Bool := due options.reportInterval tick && tick < options.ticks

/-- A run under way, the latest sections and events first. -/
structure Progress where
  world : World
  sections : List Section
  events : List Event

/-- The progress with a tick more. -/
def Progress.add (progress : Progress) (tick : Nat) (outcome : Outcome (Except SpawnError Unit)) :
    Progress where
  world := outcome.world
  sections :=
    if outcome.result.toBool && reports options tick then
      .report tick outcome.world :: progress.sections
    else progress.sections
  events := outcome.events.reverse ++ progress.events

/-- Runs the last `remaining` ticks. -/
def runTicks : (remaining : Nat) → Progress → Progress × Option SpawnError
  | 0, progress => (progress, none)
  | remaining + 1, progress =>
    let tick := options.ticks - remaining
    let outcome := step options tick progress.world
    let progress := progress.add options tick outcome
    match outcome.result with
    | .error reason => (progress, some reason)
    | .ok () => runTicks remaining progress

/-- The settings of a run. -/
def config : Config := { followingDistance := options.followingDistance }

/-- The words that route the cars: the seed's, or the given ones. -/
def draws (entropy : Draws) : Draws :=
  match options.seed with
  | some seed => .ofSeed seed
  | none => entropy

/-- A run of a world that has been made. -/
def runWorld (world : World) : Run :=
  let first := world.spawnWave
  match first.result with
  | .error reason => ⟨[], first.events, some (.spawn reason)⟩
  | .ok _ =>
    match runTicks options options.ticks ⟨first.world, [.initial first.world], []⟩ with
    | (progress, some reason) =>
      ⟨progress.sections.reverse, first.events ++ progress.events.reverse, some (.spawn reason)⟩
    | (progress, none) =>
      ⟨progress.sections.reverse ++ [.final progress.world],
        first.events ++ progress.events.reverse, none⟩

/-- A whole run. -/
def run (entropy : Draws) : Run :=
  match World.setUp .demo (config options) (draws options entropy) with
  | (events, .error reason) => ⟨[.opening], events, some (.setup reason)⟩
  | (events, .ok world) =>
    let rest := runWorld options world
    ⟨.opening :: rest.sections, events ++ rest.events, rest.error⟩

/-!
## What a run shows
-/

/-- A summary, and the map if it is asked for. -/
def stateLines (world : World) : List String :=
  Summary.lines world ++ if options.map then TerminalMap.lines world else []

/-- The lines of a section. -/
def sectionLines : Section → List String
  | .opening =>
    [ "Running segment simulation in headless mode...",
      "Ticks: " ++ toString options.ticks ++ ", Following distance: " ++
        Decimal.text options.followingDistance,
      "" ]
  | .initial world => "Initial state:" :: stateLines options world ++ [""]
  | .report tick world =>
    ("--- After tick " ++ toString tick ++ " ---") :: stateLines options world ++ [""]
  | .final world => "=== Final State ===" :: stateLines options world

/-- The totals logged at the end of a run. -/
def totals (world : World) : List LogRecord :=
  [ "=== SIMULATION COMPLETE ===",
    "Ticks run: " ++ toString world.stats.ticks,
    "Total cars spawned: " ++ toString world.stats.carsSpawned,
    "Total hand-offs: " ++ toString world.stats.handOffs,
    "Cars discarded: " ++ toString world.stats.carsDiscarded,
    "Active cars: " ++ toString world.carCount,
    "Signal toggles: " ++ toString world.stats.signalToggles ].map (⟨.info, "segment_sim", ·⟩)

/-- What is logged about a section. -/
def sectionRecords : Section → List LogRecord
  | .final world => totals world
  | _ => []

/-- The log of a run. -/
def records (run : Run) : List LogRecord :=
  run.events.map Event.record ++ run.sections.flatMap sectionRecords

/-- The lines that report a failure: the outermost text, and the causes below it,
numbered if there is more than one. -/
def failureLines : List String → List String
  | [] => []
  | [outermost] => ["Error: " ++ outermost]
  | [outermost, cause] => ["Error: " ++ outermost, "", "Caused by:", "    " ++ cause]
  | outermost :: causes =>
    ["Error: " ++ outermost, "", "Caused by:"] ++
      causes.mapIdx fun index cause =>
        let number := toString index
        "".pushn ' ' (5 - number.length) ++ number ++ ": " ++ cause

end Headless

/-- What a program leaves on a terminal. -/
structure Answer where
  exitCode : UInt8
  /-- The lines of the standard output. -/
  output : List String
  /-- The lines of the standard error stream. -/
  errors : List String

namespace Headless

/-- What a run leaves on a terminal. -/
def answerRun (options : Options) (filter : LogFilter) (entropy : Draws) : Answer :=
  let run := run options entropy
  let logged := ((records run).filter filter.shows).map LogRecord.line
  let failure := (run.error.map RunError.chain).getD []
  { exitCode := if run.error.isSome then 1 else 0
    output := run.sections.flatMap (sectionLines options)
    errors := logged ++ failureLines failure }

/-- What the program leaves on a terminal for a command line.  The viewer is no part of
it. -/
def answer (arguments : List String) (filter : LogFilter) (entropy : Draws) : Answer :=
  match Request.ofArguments arguments with
  | .help => ⟨0, Request.helpLines, []⟩
  | .refuse reason => ⟨2, [], [reason.message]⟩
  | .run options =>
    if options.viewer then
      ⟨1, [], ["Error: UI feature is not enabled. Rebuild with --features ui"]⟩
    else answerRun options filter entropy

end Headless

end RoadTraffic
