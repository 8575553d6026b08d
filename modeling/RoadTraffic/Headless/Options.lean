import RoadTraffic.Config
import RoadTraffic.Number.Reading

/-!
# Command line options

The options of a run without a viewer.  A flag stands alone; any other option takes a
value, as the next argument or after an equals sign.  Each may be given once, under its
full name.  Numbers of ticks are counts below `2 ^ 32`; the seed and the greatest number
of cars are natural numbers below `2 ^ 64`.  A value that is an argument of its own does
not begin with a dash, and there are no arguments besides options; two dashes may end the
line.
-/

namespace RoadTraffic

/-- What a run goes by. -/
structure Options where
  /-- Open the viewer instead. -/
  viewer : Bool := false
  /-- The number of ticks. -/
  ticks : Nat := 1000
  /-- The seed of the routes; without one they are random. -/
  seed : Option UInt64 := none
  /-- The ticks between waves of new cars; 0 for no wave but the first. -/
  spawnInterval : Nat := 40
  /-- No wave comes while at least this many cars are on the roads. -/
  maxCars : Nat := 40
  /-- The ticks between toggles of all signals; 0 for none. -/
  toggleInterval : Nat := 0
  /-- The gap kept between cars on straight roads. -/
  followingDistance : Float32 := 20
  /-- The ticks between reports; 0 for none. -/
  reportInterval : Nat := 200
  /-- Draw the map with every report. -/
  map : Bool := false

/-- The options by name. -/
inductive Setting where
  | viewer
  | ticks
  | seed
  | spawnInterval
  | maxCars
  | toggleInterval
  | followingDistance
  | reportInterval
  | map
deriving DecidableEq

namespace Setting

def all : List Setting :=
  [viewer, ticks, seed, spawnInterval, maxCars, toggleInterval, followingDistance,
    reportInterval, map]

/-- The name of an option, without the dashes. -/
def name : Setting → String
  | viewer => "ui"
  | ticks => "ticks"
  | seed => "seed"
  | spawnInterval => "spawn-interval"
  | maxCars => "max-cars"
  | toggleInterval => "toggle-interval"
  | followingDistance => "following-distance"
  | reportInterval => "report-interval"
  | map => "map"

/-- The option of that name. -/
def ofName? (name : String) : Option Setting := all.find? (·.name = name)

theorem ofName?_name (setting : Setting) : ofName? setting.name = some setting := by
  cases setting <;> decide +kernel

def isFlag : Setting → Bool
  | viewer | map => true
  | _ => false

end Setting

namespace Options

/-- The options with a flag set. -/
def setFlag (options : Options) : Setting → Options
  | .viewer => { options with viewer := true }
  | .map => { options with map := true }
  | _ => options

/-- The options with a value set, if it can be read. -/
def setValue? (options : Options) (setting : Setting) (value : String) : Option Options :=
  let count := Reading.count? (2 ^ 32) value
  let natural := Reading.natural? (2 ^ 64) value
  match setting with
  | .viewer | .map => none
  | .ticks => count.map ({ options with ticks := · })
  | .seed => natural.map fun n => { options with seed := some (UInt64.ofNat n) }
  | .spawnInterval => count.map ({ options with spawnInterval := · })
  | .maxCars => natural.map ({ options with maxCars := · })
  | .toggleInterval => count.map ({ options with toggleInterval := · })
  | .followingDistance => (Reading.single? value).map ({ options with followingDistance := · })
  | .reportInterval => count.map ({ options with reportInterval := · })

end Options

/-- Why a command line is refused. -/
inductive UsageError where
  | unknown (argument : String)
  | repeated (setting : Setting)
  | missingValue (setting : Setting)
  | unexpectedValue (setting : Setting)
  | badValue (setting : Setting) (value : String)
deriving DecidableEq

/-- What is wrong, in a line. -/
def UsageError.message : UsageError → String
  | unknown argument => "error: unexpected argument '" ++ argument ++ "' found"
  | repeated setting => "error: the argument '--" ++ setting.name ++ "' cannot be used multiple times"
  | missingValue setting => "error: a value is required for '--" ++ setting.name ++ "'"
  | unexpectedValue setting => "error: no value is taken by '--" ++ setting.name ++ "'"
  | badValue setting value =>
    "error: invalid value '" ++ value ++ "' for '--" ++ setting.name ++ "'"

/-- What a command line asks for. -/
inductive Request where
  | run (options : Options)
  | help
  | refuse (reason : UsageError)

namespace Request

/-- Parts an argument into the name behind the two dashes and the value behind the first
equals sign. -/
def parts? (argument : String) : Option (String × Option String) :=
  match argument.toList with
  | '-' :: '-' :: rest =>
    let name := String.ofList (rest.takeWhile (· ≠ '='))
    match rest.dropWhile (· ≠ '=') with
    | _ :: value => some (name, some (String.ofList value))
    | [] => some (name, none)
  | _ => none

/-- Can an argument be the value of the option before it?  A single dash can. -/
def isValue (argument : String) : Bool :=
  match argument.toList with
  | '-' :: _ :: _ => false
  | _ => true

/-- Reads the arguments from left to right, with the options `given` so far. -/
def read (given : List Setting) (options : Options) : List String → Request
  | [] => .run options
  | ["--"] => .run options
  | argument :: rest =>
    if argument = "--help" ∨ argument = "-h" then .help
    else
      match parts? argument with
      | none => .refuse (.unknown argument)
      | some (name, value) =>
        match Setting.ofName? name with
        | none => .refuse (.unknown argument)
        | some setting =>
          if setting ∈ given then .refuse (.repeated setting)
          else if setting.isFlag then
            if value.isSome then .refuse (.unexpectedValue setting)
            else read (setting :: given) (options.setFlag setting) rest
          else
            match value, rest with
            | some value, rest =>
              match options.setValue? setting value with
              | some options => read (setting :: given) options rest
              | none => .refuse (.badValue setting value)
            | none, value :: rest =>
              if isValue value then
                match options.setValue? setting value with
                | some options => read (setting :: given) options rest
                | none => .refuse (.badValue setting value)
              else .refuse (.missingValue setting)
            | none, [] => .refuse (.missingValue setting)
termination_by arguments => arguments.length

/-- What the arguments of a command line ask for. -/
def ofArguments (arguments : List String) : Request := read [] {} arguments

/-- The text shown on request. -/
def helpLines : List String :=
  [ "Road segment traffic simulation with optional UI",
    "",
    "Options:",
    "  --ui                      Open the viewer",
    "  --ticks N                 Number of ticks to run (1000)",
    "  --seed N                  Seed of the routes, random when omitted",
    "  --spawn-interval N        Ticks between spawn waves, 0 for the first wave only (40)",
    "  --max-cars N              No automatic spawns while this many cars are on the roads (40)",
    "  --toggle-interval N       Ticks between global signal toggles, 0 never toggles (0)",
    "  --following-distance D    Minimum gap between cars on straight roads (20)",
    "  --report-interval N       Ticks between progress reports (200)",
    "  --map                     Draw the map with every report",
    "  --help                    Show this text" ]

end Request

end RoadTraffic
